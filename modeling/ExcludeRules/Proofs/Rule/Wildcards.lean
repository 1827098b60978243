/-
The wildcards of a body without bracket expressions, counted on its text.

Each star and each question mark is one, unless a backslash stands before it, and so
is each class, however the body is cut into tokens.  Main statements:
  * `Counted.star` : a star in front is one more, also in front of a run of stars;
  * `Simple.counted` : the tokens of such a body;
  * `wildcardCount_eq`, `unknownClass?_eq_none` : what is counted, and what is found.
-/
import ExcludeRules.Proofs.Rule.GlobTokens

namespace ExcludeRules.Rule

namespace Glob

/-- The number of wildcards of a body without bracket expressions. -/
def wildcards : List Char → Nat
  | '\\' :: _ :: rest => wildcards rest
  | '[' :: '[' :: rest => wildcards rest + 1
  | c :: rest => wildcards rest + if c = '*' ∨ c = '?' then 1 else 0
  | [] => 0

theorem wildcards_cons {c : Char} (hc : c ∉ ['\\', '[']) (rest : List Char) :
    wildcards (c :: rest) = wildcards rest + if c = '*' ∨ c = '?' then 1 else 0 := by
  simp only [List.mem_cons, List.not_mem_nil, or_false, not_or] at hc
  rw [wildcards]
  · rintro d rest' rfl
    exact absurd rfl hc.1
  · rintro rest' rfl
    exact absurd rfl hc.2

theorem wildcards_append {text : List Char} (h : ∀ c ∈ text, c ∉ ['\\', '[', '*', '?'])
    (rest : List Char) : wildcards (text ++ rest) = wildcards rest := by
  induction text with
  | nil => rfl
  | cons c text ih =>
    obtain ⟨hc, htext⟩ := List.forall_mem_cons.mp h
    simp only [List.mem_cons, List.not_mem_nil, or_false, not_or] at hc
    rw [List.cons_append, wildcards_cons (by simp [hc]), if_neg (by simp [hc]), ih htext,
      Nat.add_zero]

theorem wildcards_named {cls : CharClass} {name : List Char} (h : cls.IsNamed name)
    (rest : List Char) :
    wildcards (CharClass.opening ++ name ++ CharClass.closing ++ rest) = wildcards rest + 1 := by
  -- in either case a name has letters only, so nothing of it counts or escapes
  have hname : ∀ c ∈ name, c ∉ ['\\', '[', '*', '?'] := by
    intro c hc hmem
    have hlower : c.toLower ∈ cls.name.toList := h ▸ List.mem_map_of_mem hc
    simp only [List.mem_cons, List.not_mem_nil, or_false] at hmem
    rcases hmem with rfl | rfl | rfl | rfl <;> cases cls <;> exact absurd hlower (by decide)
  have htext : CharClass.opening ++ name ++ CharClass.closing ++ rest =
      '[' :: '[' :: (([':'] ++ name ++ CharClass.closing) ++ rest) := by
    simp [CharClass.opening]
  have hinner : ∀ c ∈ [':'] ++ name ++ CharClass.closing, c ∉ ['\\', '[', '*', '?'] := by
    intro c hc
    rcases List.mem_append.mp hc with hc | hc
    · rcases List.mem_append.mp hc with hc | hc
      · obtain rfl := List.mem_singleton.mp hc
        decide
      · exact hname c hc
    · have hclosing : ∀ c ∈ CharClass.closing, c ∉ ['\\', '[', '*', '?'] := by
        simp [CharClass.closing]
      exact hclosing c hc
  rw [htext, wildcards, wildcards_append hinner]

/-- A body without wildcard characters has no wildcards. -/
theorem wildcards_eq_zero {body : List Char} (h : hasWildcards body = false) :
    wildcards body = 0 := by
  have hplain : ∀ c ∈ body, c ∉ ['*', '?', '['] := by
    simpa [hasWildcards, List.any_eq_false] using h
  clear h
  fun_induction wildcards body with
  | case1 c rest ih =>
    exact ih fun d hd => hplain d (List.mem_cons_of_mem _ (List.mem_cons_of_mem _ hd))
  | case2 rest ih => exact absurd (by simp) (hplain '[' (List.mem_cons_self ..))
  | case3 c rest _ _ ih =>
    have hc := hplain c (List.mem_cons_self ..)
    simp only [List.mem_cons, List.not_mem_nil, or_false, not_or] at hc
    rw [ih fun d hd => hplain d (List.mem_cons_of_mem _ hd), if_neg (by simp [hc])]
  | case4 => rfl

end Glob

/-! ### The tokens -/

/-- The token is no class of unknown name. -/
def Token.IsKnown : Token → Prop
  | named inner _ => (CharClass.ofName? inner.dropLast).isSome = true
  | _ => True

theorem Token.exists_named_of_not_isKnown {t : Token} (h : ¬ t.IsKnown) :
    ∃ inner closed, t = .named inner closed ∧ CharClass.ofName? inner.dropLast = none := by
  cases t with
  | named inner closed => exact ⟨inner, closed, rfl, Option.not_isSome_iff_eq_none.mp h⟩
  | _ => exact absurd trivial h

theorem unknownClass?_eq_none_iff {ts : List Token} {i : Nat} :
    unknownClass? i ts = none ↔ ∀ t ∈ ts, t.IsKnown := by
  induction ts generalizing i with
  | nil => simp [unknownClass?]
  | cons t ts ih =>
    rw [List.forall_mem_cons]
    cases t with
    | named inner closed =>
      rw [unknownClass?]
      cases hname : CharClass.ofName? inner.dropLast with
      | none => simp [Token.IsKnown, hname]
      | some cls => simp [Token.IsKnown, hname, ih]
    | _ => simp [unknownClass?, Token.IsKnown, ih]

/-- The tokens hold no class of unknown name, and count so much together. -/
structure Counted (ts : List Token) (n : Nat) : Prop where
  count_eq : ts.foldr (fun t n => t.weight + n) 0 = n
  known : ∀ t ∈ ts, t.IsKnown

theorem Counted.cons {t : Token} {ts : List Token} {n : Nat} (ht : t.IsKnown)
    (h : Counted ts n) : Counted (t :: ts) (n + t.weight) := by
  refine ⟨?_, List.forall_mem_cons.mpr ⟨ht, h.known⟩⟩
  rw [List.foldr_cons, h.count_eq, Nat.add_comm]

theorem Counted.of_cons {t : Token} {ts : List Token} {n : Nat} (h : Counted (t :: ts) n) :
    ∃ k, n = k + t.weight ∧ t.IsKnown ∧ Counted ts k := by
  obtain ⟨hknown, hts⟩ := List.forall_mem_cons.mp h.known
  refine ⟨_, ?_, hknown, rfl, hts⟩
  rw [← h.count_eq, List.foldr_cons, Nat.add_comm]

theorem counted_starTokens_append {ts : List Token} {m : Nat} (h : Counted ts m) (n : Nat) :
    Counted (starTokens n ++ ts) (m + n) := by
  fun_induction starTokens n with
  | case1 => exact h
  | case2 => exact h.cons trivial
  | case3 n ih => exact ih.cons trivial

/-- What stands behind a run of stars is counted on its own. -/
theorem counted_of_starTokens_append {ts : List Token} {m n : Nat}
    (h : Counted (starTokens n ++ ts) m) : ∃ k, m = k + n ∧ Counted ts k := by
  have hts : Counted ts (ts.foldr (fun t n => t.weight + n) 0) :=
    ⟨rfl, fun t ht => h.known t (List.mem_append_right _ ht)⟩
  have hcount := (counted_starTokens_append hts n).count_eq
  rw [h.count_eq] at hcount
  exact ⟨_, hcount, hts⟩

theorem exists_stars (text : List Char) :
    ∃ n rest, text = List.replicate n '*' ++ rest ∧ rest.head? ≠ some '*' := by
  induction text with
  | nil => exact ⟨0, [], rfl, by simp⟩
  | cons c text ih =>
    by_cases hc : c = '*'
    · obtain ⟨n, rest, htext, hrest⟩ := ih
      exact ⟨n + 1, rest, by rw [hc, htext]; rfl, hrest⟩
    · exact ⟨0, c :: text, rfl, by simpa using hc⟩

/-- A star in front is one more, though it changes how a run of stars is cut into tokens. -/
theorem Counted.star {escapes : Bool} {rest : List Char} {n : Nat}
    (h : Counted (tokensFrom escapes 0 rest) n) :
    Counted (tokensFrom escapes 0 ('*' :: rest)) (n + 1) := by
  -- the run is cut in pairs from its front, so one star more moves every cut
  obtain ⟨k, tail, rfl, htail⟩ := exists_stars rest
  rw [tokensFrom_stars htail] at h
  obtain ⟨m, rfl, hm⟩ := counted_of_starTokens_append h
  have hstars : tokensFrom escapes 0 (List.replicate (k + 1) '*' ++ tail) =
      starTokens (k + 1) ++ tokensFrom escapes 0 tail := tokensFrom_stars htail (k + 1)
  rw [List.replicate_succ, List.cons_append] at hstars
  rw [hstars]
  exact counted_starTokens_append hm (k + 1)

/-- The first token of a text counts with those of what it leaves. -/
theorem counted_tokensFrom_cons {escapes : Bool} {c : Char} {rest : List Char} {t : Token}
    {n : Nat} (ht : Token.first escapes c rest = t) (hknown : t.IsKnown)
    (h : Counted (tokensFrom escapes 0 ((c :: rest).drop t.width)) n) :
    Counted (tokensFrom escapes 0 (c :: rest)) (n + t.weight) := by
  rw [tokensFrom_cons, ht]
  exact h.cons hknown

namespace Glob

theorem Simple.counted {body : List Char} (h : Simple body) :
    Counted (tokensFrom true 0 body) (wildcards body) := by
  induction h with
  | nil => exact ⟨rfl, List.forall_mem_nil _⟩
  | @pair c rest _ ih =>
    rw [wildcards]
    by_cases hc : isEscapable c = true
    · exact counted_tokensFrom_cons (t := .escaped c) (by simp [Token.first, hc]) trivial ih
    · exact counted_tokensFrom_cons (t := .kept c) (by simp [Token.first, hc]) trivial ih
  | backslash => exact ⟨rfl, by simp [tokensFrom, Token.first, Token.IsKnown]⟩
  | named hname _ ih =>
    rw [wildcards_named hname, tokensFrom_named hname]
    refine ih.cons ?_
    rw [Token.IsKnown, List.dropLast_concat, hname.ofName?_eq]
    rfl
  | @plain c rest hc _ ih =>
    rw [wildcards_cons hc]
    simp only [List.mem_cons, List.not_mem_nil, or_false, not_or] at hc
    by_cases hstar : c = '*'
    · -- a star is one token with a star behind it, so the tokens of the rest are not kept
      rw [hstar, if_pos (.inl rfl)]
      exact ih.star
    · by_cases hmark : c = '?'
      · rw [hmark, if_pos (.inr rfl)]
        exact counted_tokensFrom_cons (t := .single) rfl trivial ih
      · have hfirst : Token.first true c rest = .plain c :=
          Token.first_plain (by simp [hc, hstar, hmark]) rest
        rw [if_neg (by simp [hstar, hmark])]
        exact counted_tokensFrom_cons hfirst trivial ih

/-- Where no backslash escapes, there is nothing to count. -/
theorem counted_of_not_hasWildcards {body : List Char} (h : hasWildcards body = false) :
    Counted (tokensFrom false 0 body) 0 := by
  induction body with
  | nil => exact ⟨rfl, List.forall_mem_nil _⟩
  | cons c rest ih =>
    rw [hasWildcards, List.any_cons, Bool.or_eq_false_iff] at h
    obtain ⟨hc, hrest⟩ := h
    simp only [List.mem_cons, List.not_mem_nil, or_false, decide_eq_false_iff_not, not_or] at hc
    by_cases hslash : c = '\\'
    · have hfirst : Token.first false c rest = .backslash := by
        rw [hslash]
        cases rest <;> rfl
      exact counted_tokensFrom_cons hfirst trivial (ih hrest)
    · have hfirst : Token.first false c rest = .plain c :=
        Token.first_plain (by simp [hc, hslash]) rest
      exact counted_tokensFrom_cons hfirst trivial (ih hrest)

theorem Simple.counted_tokens {body : List Char} (h : Simple body) :
    Counted (tokens body) (wildcards body) := by
  rw [tokens]
  cases hwild : hasWildcards body with
  | false =>
    rw [wildcards_eq_zero hwild]
    exact counted_of_not_hasWildcards hwild
  | true => exact h.counted

theorem Simple.wildcardCount_eq {body : List Char} (h : Simple body) :
    wildcardCount body = wildcards body :=
  h.counted_tokens.count_eq

theorem Simple.unknownClass?_eq_none {body : List Char} (h : Simple body) :
    unknownClass? 0 (tokens body) = none :=
  unknownClass?_eq_none_iff.mpr h.counted_tokens.known

end Glob

end ExcludeRules.Rule
