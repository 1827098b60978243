/-
The tokens of a body without bracket expressions.

A run of stars is cut into tokens two by two, and merged again into one; any other
element of a body is one token.  So the tokens of a readable body are, outside of
brackets, atoms that take what the body takes as a glob.  Main statements:
  * `mergeStars_tokensFrom_stars` : a run of stars is one token;
  * `Begins.merged` : an element is one token, and takes what the atoms of it take;
  * `Readable.takeAll_atoms_iff` : the atoms of a readable body;
  * `Readable.reads` : the expression of a readable body is a list of these atoms.
-/
import ExcludeRules.Proofs.Rule.Glob

namespace ExcludeRules.Rule

open Expression (Atom)

/-! ### Runs of stars -/

theorem Token.isStar_first {escapes : Bool} {c : Char} (hc : c ≠ '*') (rest : List Char) :
    (Token.first escapes c rest).isStar = false := by
  unfold Token.first
  split
  case h_1 => exact absurd rfl hc
  case h_2 => exact absurd rfl hc
  case h_4 _ _ e tail =>
    cases escapes with
    | false => rfl
    | true =>
      by_cases he : isEscapable e = true
      · simp [he, Token.isStar]
      · simp [he, Token.isStar]
  case h_6 _ _ tail =>
    cases Token.classInner? tail with
    | none => rfl
    | some inner => rfl
  all_goals rfl

theorem Token.first_plain {escapes : Bool} {c : Char} (hc : c ∉ ['*', '?', '[', '\\'])
    (rest : List Char) : Token.first escapes c rest = .plain c := by
  simp only [List.mem_cons, List.not_mem_nil, or_false, not_or] at hc
  unfold Token.first
  split <;> simp_all

/-- What a body that begins with no star is cut into begins with none. -/
theorem isStar_head?_tokensFrom {escapes : Bool} {rest : List Char} (h : rest.head? ≠ some '*') :
    ∀ t ∈ (tokensFrom escapes 0 rest).head?, t.isStar = false := by
  cases rest with
  | nil => simp [tokensFrom]
  | cons c rest =>
    have hc : c ≠ '*' := by simpa using h
    intro t ht
    rw [tokensFrom_cons, List.head?_cons, Option.mem_some_iff] at ht
    exact ht ▸ Token.isStar_first hc rest

/-- What a run of stars is cut into. -/
def starTokens : Nat → List Token
  | 0 => []
  | 1 => [.segment]
  | n + 2 => .anything :: starTokens n

theorem tokensFrom_stars {escapes : Bool} {rest : List Char} (h : rest.head? ≠ some '*') (n : Nat) :
    tokensFrom escapes 0 (List.replicate n '*' ++ rest) =
      starTokens n ++ tokensFrom escapes 0 rest := by
  fun_induction starTokens n with
  | case1 => rfl
  | case2 =>
    have hfirst : Token.first escapes '*' rest = .segment := by
      cases rest with
      | nil => rfl
      | cons c rest =>
        have hc : c ≠ '*' := by simpa using h
        simp [Token.first, hc]
    have hcons := tokensFrom_cons escapes '*' rest
    rw [hfirst] at hcons
    exact hcons
  | case3 n ih =>
    -- two stars are one token, whatever follows them
    rw [List.cons_append, ← ih]
    exact tokensFrom_cons escapes '*' ('*' :: (List.replicate n '*' ++ rest))

theorem mergeStars_cons_of_not_star {t : Token} (ht : t.isStar = false) (ts : List Token) :
    mergeStars (t :: ts) = t :: mergeStars ts := by
  rw [mergeStars]
  cases mergeStars ts with
  | nil => rfl
  | cons u us => simp [ht]

theorem isStar_head?_mergeStars {ts : List Token} (h : ∀ t ∈ ts.head?, t.isStar = false) :
    ∀ t ∈ (mergeStars ts).head?, t.isStar = false := by
  cases ts with
  | nil => exact h
  | cons t ts =>
    have ht : t.isStar = false := h t rfl
    rw [mergeStars_cons_of_not_star ht]
    exact h

theorem mergeStars_cons_of_head? {ts : List Token} (h : ∀ t ∈ ts.head?, t.isStar = false)
    (t : Token) : mergeStars (t :: ts) = t :: mergeStars ts := by
  have hhead := isStar_head?_mergeStars h
  rw [mergeStars]
  cases hmerged : mergeStars ts with
  | nil => rfl
  | cons u us =>
    have hu : u.isStar = false := hhead u (by rw [hmerged]; rfl)
    simp [hu]

/-- The star that a run of `n + 1` stars becomes. -/
def starOf (n : Nat) : Token := if n = 0 then .segment else .anything

theorem isStar_starOf (n : Nat) : (starOf n).isStar = true := by
  unfold starOf
  split <;> rfl

/-- The tokens of a run of stars are merged into one. -/
theorem mergeStars_starTokens {ts : List Token} (h : ∀ t ∈ ts.head?, t.isStar = false) :
    ∀ n, mergeStars (starTokens (n + 1) ++ ts) = starOf n :: mergeStars ts
  | 0 => mergeStars_cons_of_head? h .segment
  | 1 => mergeStars_cons_of_head? h .anything
  | n + 2 => mergeStars_cons_of_star (mergeStars_starTokens h n) rfl (isStar_starOf n)

theorem mergeStars_tokensFrom_stars {escapes : Bool} {rest : List Char}
    (h : rest.head? ≠ some '*') (n : Nat) :
    mergeStars (tokensFrom escapes 0 (List.replicate (n + 1) '*' ++ rest)) =
      starOf n :: mergeStars (tokensFrom escapes 0 rest) := by
  rw [tokensFrom_stars h, mergeStars_starTokens (isStar_head?_tokensFrom h)]

theorem mergeStars_tokensFrom_cons {escapes : Bool} {c : Char} {rest : List Char} {t : Token}
    (hc : c ≠ '*') (ht : Token.first escapes c rest = t) :
    mergeStars (tokensFrom escapes 0 (c :: rest)) =
      t :: mergeStars (tokensFrom escapes 0 ((c :: rest).drop t.width)) := by
  rw [← ht, tokensFrom_cons, mergeStars_cons_of_not_star (Token.isStar_first hc rest)]

/-! ### Classes -/

namespace Token

/-- What a class holds, and what stands behind the bracket that ends it. -/
theorem classInner?_eq_some_iff {rest inner : List Char} :
    classInner? rest = some inner ↔
      ∃ tail, rest = inner ++ ']' :: tail ∧ ']' ∉ inner ∧ (':' :: inner).getLast? = some ':' := by
  constructor
  · intro h
    unfold classInner? at h
    dsimp only at h
    split at h
    · rename_i hinner
      obtain ⟨hlength, hlast⟩ := hinner
      have hcut : rest.takeWhile (· != ']') ++ rest.dropWhile (· != ']') = rest :=
        List.takeWhile_append_dropWhile
      have hnot := List.head?_dropWhile_not (· != ']') rest
      obtain rfl := Option.some.inj h
      cases hdrop : rest.dropWhile (· != ']') with
      | nil =>
        rw [hdrop, List.append_nil] at hcut
        rw [hcut] at hlength
        exact absurd hlength (Nat.lt_irrefl _)
      | cons c tail =>
        rw [hdrop] at hnot hcut
        obtain rfl : c = ']' := by simpa using hnot
        refine ⟨tail, hcut.symm, fun hmem => ?_, hlast⟩
        have hall := List.all_eq_true.mp (List.all_takeWhile (p := (· != ']')) (l := rest))
        exact absurd (hall _ hmem) (by decide)
    · cases h
  · rintro ⟨tail, rfl, hmem, hlast⟩
    have hinner : (inner ++ ']' :: tail).takeWhile (· != ']') = inner := by
      rw [List.takeWhile_append_of_pos]
      · simp
      · intro c hc
        have hne : c ≠ ']' := fun heq => hmem (heq ▸ hc)
        simpa using hne
    rw [classInner?, hinner]
    exact if_pos ⟨by simp, hlast⟩

/-- The token of a class tells whether its brackets are closed right behind it. -/
theorem first_class {escapes : Bool} {inner behind : List Char} (hmem : ']' ∉ inner)
    (hlast : (':' :: inner).getLast? = some ':') :
    first escapes '[' ('[' :: ':' :: (inner ++ ']' :: behind)) =
      named inner (behind.head? == some ']') := by
  have hinner := classInner?_eq_some_iff.mpr ⟨behind, rfl, hmem, hlast⟩
  have hdrop : (inner ++ ']' :: behind).drop (inner.length + 1) = behind := by
    rw [List.append_cons]
    exact List.drop_left' (by simp)
  rw [first, hinner]
  show named inner ((List.drop _ _).head? == _) = _
  rw [hdrop]

/-- A class takes the bracket right behind it along. -/
theorem drop_class (inner behind : List Char) :
    ('[' :: '[' :: ':' :: (inner ++ ']' :: behind)).drop
        (named inner (behind.head? == some ']')).width =
      if behind.head? = some ']' then behind.tail else behind := by
  by_cases hclosed : behind.head? = some ']'
  · rw [if_pos hclosed]
    obtain ⟨rest, rfl⟩ := List.head?_eq_some_iff.mp hclosed
    have hcut : '[' :: '[' :: ':' :: (inner ++ ']' :: ']' :: rest) =
        ('[' :: '[' :: ':' :: inner ++ [']', ']']) ++ rest := by simp
    rw [hcut, List.drop_left' (by simp [width])]
    rfl
  · rw [if_neg hclosed]
    have hcut : '[' :: '[' :: ':' :: (inner ++ ']' :: behind) =
        ('[' :: '[' :: ':' :: inner ++ [']']) ++ behind := by simp
    rw [hcut, List.drop_left' (by simp [width, hclosed])]

end Token

/-- A class that is written out is one token. -/
theorem tokensFrom_named {escapes : Bool} {cls : CharClass} {name : List Char}
    (h : cls.IsNamed name) (rest : List Char) :
    tokensFrom escapes 0 (CharClass.opening ++ name ++ CharClass.closing ++ rest) =
      .named (name ++ [':']) true :: tokensFrom escapes 0 rest := by
  have htext : CharClass.opening ++ name ++ CharClass.closing ++ rest =
      '[' :: '[' :: ':' :: ((name ++ [':']) ++ ']' :: (']' :: rest)) := by
    simp [CharClass.opening, CharClass.closing]
  have hmem : ']' ∉ name ++ [':'] := by simp [h.not_mem]
  have hfirst : Token.first escapes '[' ('[' :: ':' :: ((name ++ [':']) ++ ']' :: (']' :: rest))) =
      .named (name ++ [':']) true := Token.first_class hmem (by simp [List.getLast?_cons])
  have hdrop : ('[' :: '[' :: ':' :: ((name ++ [':']) ++ ']' :: (']' :: rest))).drop
      (Token.named (name ++ [':']) true).width = rest := by
    rw [← htext]
    exact List.drop_left' (by simp [Token.width, CharClass.opening, CharClass.closing])
  rw [htext, tokensFrom_cons, hfirst, hdrop]

theorem mergeStars_tokensFrom_named {escapes : Bool} {cls : CharClass} {name : List Char}
    (h : cls.IsNamed name) (rest : List Char) :
    mergeStars (tokensFrom escapes 0 (CharClass.opening ++ name ++ CharClass.closing ++ rest)) =
      .named (name ++ [':']) true :: mergeStars (tokensFrom escapes 0 rest) := by
  rw [tokensFrom_named h, mergeStars_cons_of_not_star rfl]

/-! ### Elements -/

namespace Glob

/-- Outside of brackets the token is read as atoms, and they take what the element takes. -/
def Element.IsRead (e : Element) (t : Token) : Prop :=
  ∃ atoms, t.atoms? = some atoms ∧ ∀ text, Atom.TakeAll atoms text ↔ e.Takes text

theorem contains_notSlash (c : Char) : Token.notSlash.contains c = true ↔ c ≠ '/' := by
  have hle : '/' ≤ c ∧ c ≤ '/' ↔ c = '/' :=
    ⟨fun h => Char.le_antisymm h.2 h.1, fun h => h ▸ ⟨Char.le_refl _, Char.le_refl _⟩⟩
  rw [Token.notSlash, CharSet.contains, List.any_cons, List.any_nil, Bool.or_false, bne_iff_ne,
    ne_eq, Bool.and_eq_true, decide_eq_true_eq, decide_eq_true_eq]
  exact not_congr hle

theorem isRead_segment : Element.segment.IsRead .segment := by
  refine ⟨_, rfl, fun text => Expression.takeAll_singleton.trans ?_⟩
  constructor
  · intro h hslash
    exact (contains_notSlash '/').mp (h '/' hslash) rfl
  · intro h c hc
    exact (contains_notSlash c).mpr fun hslash => h (hslash ▸ hc)

theorem isRead_anything : Element.anything.IsRead .anything :=
  ⟨_, rfl, fun _ => Expression.takeAll_singleton.trans ⟨fun _ => trivial, fun _ _ _ => rfl⟩⟩

theorem isRead_single : Element.single.IsRead .single := by
  refine ⟨_, rfl, fun text => Expression.takeAll_singleton.trans ?_⟩
  exact exists_congr fun c => and_congr_right fun _ => contains_notSlash c

theorem isRead_member {cls : CharClass} {name : List Char} (h : cls.IsNamed name) :
    (Element.member cls).IsRead (.named (name ++ [':']) true) := by
  refine ⟨[.one (.ranges false cls.ranges)], ?_, fun text => Expression.takeAll_singleton.trans ?_⟩
  · rw [Token.atoms?, List.dropLast_concat, h.ofName?_eq]
    rfl
  · refine exists_congr fun c => and_congr_right fun _ => ?_
    rw [cls.contains_ranges]

theorem isRead_literal {text : List Char} {t : Token}
    (h : t.atoms? = some (text.map fun c => .one (.only c))) : (Element.literal text).IsRead t :=
  ⟨_, h, fun _ => Expression.takeAll_literal⟩

/-- An element at the front of a body is one token, and is read as such. -/
theorem Begins.merged {escapes : Bool} {body rest : List Char} {e : Element}
    (h : Begins escapes body e rest) :
    ∃ t, mergeStars (tokensFrom escapes 0 body) = t :: mergeStars (tokensFrom escapes 0 rest) ∧
      e.IsRead t := by
  cases h with
  | star hend => exact ⟨.segment, mergeStars_tokensFrom_stars hend 0, isRead_segment⟩
  | @stars n rest hn hend =>
    obtain ⟨m, rfl⟩ := Nat.exists_eq_add_of_le' hn
    exact ⟨.anything, mergeStars_tokensFrom_stars hend (m + 1), isRead_anything⟩
  | mark => exact ⟨.single, mergeStars_tokensFrom_cons (by decide) rfl, isRead_single⟩
  | named hname => exact ⟨_, mergeStars_tokensFrom_named hname rest, isRead_member hname⟩
  | @escaped c rest hescapes hc =>
    have hfirst : Token.first escapes '\\' (c :: rest) = .escaped c := by
      simp [Token.first, hescapes, hc]
    exact ⟨_, mergeStars_tokensFrom_cons (by decide) hfirst, isRead_literal rfl⟩
  | @kept c rest hescapes hc =>
    have hfirst : Token.first escapes '\\' (c :: rest) = .kept c := by
      simp [Token.first, hescapes, hc]
    exact ⟨_, mergeStars_tokensFrom_cons (by decide) hfirst, isRead_literal rfl⟩
  | backslash h =>
    have hfirst : Token.first escapes '\\' rest = .backslash := by
      rcases h with rfl | rfl
      · cases rest <;> rfl
      · rfl
    exact ⟨_, mergeStars_tokensFrom_cons (by decide) hfirst, isRead_literal rfl⟩
  | @plain c rest hc =>
    have hstar : c ≠ '*' := fun heq => hc (heq ▸ List.mem_cons_self ..)
    have hfirst : Token.first escapes c rest = .plain c := Token.first_plain hc rest
    exact ⟨_, mergeStars_tokensFrom_cons hstar hfirst, isRead_literal rfl⟩

/-! ### Readable bodies -/

/-- The atoms that a body is read as, outside of brackets. -/
def atoms (escapes : Bool) (body : List Char) : List Atom :=
  (mergeStars (tokensFrom escapes 0 body)).flatMap fun t => t.atoms?.getD []

theorem atoms_of_begins {escapes : Bool} {body rest : List Char} {e : Element}
    (h : Begins escapes body e rest) :
    ∃ as, atoms escapes body = as ++ atoms escapes rest ∧
      ∀ text, Atom.TakeAll as text ↔ e.Takes text := by
  obtain ⟨t, hmerged, as, has, htakes⟩ := h.merged
  refine ⟨as, ?_, htakes⟩
  rw [atoms, hmerged, List.flatMap_cons, has]
  rfl

theorem Readable.isSome_atoms? {escapes : Bool} {body : List Char} (h : Readable escapes body) :
    ∀ t ∈ mergeStars (tokensFrom escapes 0 body), t.atoms?.isSome = true := by
  induction h with
  | nil => simp [tokensFrom, mergeStars]
  | cons hbegins _ ih =>
    obtain ⟨t, hmerged, as, has, -⟩ := hbegins.merged
    rw [hmerged]
    exact List.forall_mem_cons.mpr ⟨by rw [has]; rfl, ih⟩

/-- The atoms of a readable body take what the body takes as a glob. -/
theorem Readable.takeAll_atoms_iff {escapes : Bool} {body text : List Char}
    (h : Readable escapes body) :
    Atom.TakeAll (atoms escapes body) text ↔ Takes escapes body text := by
  constructor
  · -- the body says which element comes next, and its atoms cut the text
    intro htext
    induction h generalizing text with
    | nil =>
      obtain rfl : text = [] := htext
      exact .nil
    | cons hbegins _ ih =>
      obtain ⟨as, has, htakes⟩ := atoms_of_begins hbegins
      rw [has] at htext
      obtain ⟨u, v, rfl, hu, hv⟩ := Expression.takeAll_append.mp htext
      exact .cons hbegins ((htakes u).mp hu) (ih hv)
  · -- here the way in which the text was taken says it
    intro htext
    clear h
    induction htext with
    | nil => rfl
    | cons hbegins hu _ ih =>
      obtain ⟨as, has, htakes⟩ := atoms_of_begins hbegins
      rw [has]
      exact Expression.takeAll_append.mpr ⟨_, _, rfl, (htakes _).mpr hu, ih⟩

theorem Readable.reads {body source : List Char} (h : Readable (hasWildcards body) body)
    (hsource : writeBody body = .ok source) :
    Expression.Reads source ((atoms (hasWildcards body) body).map Atom.expression) := by
  obtain ⟨-, -, -, rfl⟩ := writeBody_eq_ok_iff.mp hsource
  exact reads_tokens (mergeStars_sound (tokens_sound body)) h.isSome_atoms?

end Glob

end ExcludeRules.Rule
