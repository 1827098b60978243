/-
The scan of a body for its classes.

A body is passed over from its front: pairs of a backslash and a character, pairs of
stars, brackets with the mark that negates them, classes of known name, and otherwise one
character at a time.  A class of unknown name is where the scan stops, so there is one such
class at most that it comes to.  Main statements:
  * `passes_iff` : a step of the scan is a token;
  * `exists_class_iff` : where a class stands, the token is that class;
  * `unknownClass?_tokens_iff` : the class of unknown name that is found in a body;
  * `cause_of_toExpression_error` : a class that is written out is never malformed.
-/
import ExcludeRules.Proofs.Rule.Cutting
import ExcludeRules.Proofs.Rule.Wildcards
import Mathlib.Logic.Relation

namespace ExcludeRules.Rule

/-- A class up to the first bracket that closes it, and its name.  A colon stands in front of
that bracket; without a name it is the one that stands behind the opening brackets. -/
inductive IsClass : List Char → List Char → Prop
  | bare : IsClass ['[', '[', ':', ']'] []
  | named {name : List Char} (h : ']' ∉ name) :
    IsClass ('[' :: '[' :: ':' :: (name ++ [':', ']'])) name

/-- One step of the scan: the text before it, and what is left behind it. -/
inductive Passes : List Char → List Char → Prop
  | pair (c : Char) (rest : List Char) : Passes ('\\' :: c :: rest) rest
  | stars (rest : List Char) : Passes ('*' :: '*' :: rest) rest
  | negated (rest : List Char) : Passes ('[' :: '!' :: rest) rest
  /-- A class of known name, with the bracket that closes it once more. -/
  | closed {token name : List Char} {cls : CharClass} (h : IsClass token name)
    (hname : CharClass.ofName? name = some cls) (rest : List Char) :
    Passes (token ++ ']' :: rest) rest
  /-- A class of known name that is followed by more members. -/
  | opened {token name rest : List Char} {cls : CharClass} (h : IsClass token name)
    (hname : CharClass.ofName? name = some cls) (hrest : rest.head? ≠ some ']') :
    Passes (token ++ rest) rest
  /-- A character with which nothing of all this begins. -/
  | other {c : Char} {rest : List Char} (hpair : c = '\\' → rest = [])
    (hstars : c = '*' → rest.head? ≠ some '*') (hnegated : c = '[' → rest.head? ≠ some '!')
    (hclass : ∀ token name behind, IsClass token name → c :: rest ≠ token ++ behind) :
    Passes (c :: rest) rest

/-- What the scan comes to. -/
def Reaches : List Char → List Char → Prop := Relation.ReflTransGen Passes

/-- In a body the scan comes to a class of unknown name, with which `rest` begins. -/
structure FindsUnknown (body rest name : List Char) : Prop where
  reaches : Reaches body rest
  class_front : ∃ token behind, IsClass token name ∧ rest = token ++ behind
  unknown : ∀ cls : CharClass, cls.name.toList ≠ Text.lower name

/-! ### Classes -/

theorem IsClass.exists_inner {token name : List Char} (h : IsClass token name) :
    ∃ inner, token = '[' :: '[' :: ':' :: (inner ++ [']']) ∧ ']' ∉ inner ∧
      (':' :: inner).getLast? = some ':' ∧ inner.dropLast = name := by
  cases h with
  | bare => exact ⟨[], rfl, List.not_mem_nil, rfl, rfl⟩
  | @named name hname =>
    refine ⟨name ++ [':'], ?_, ?_, ?_, List.dropLast_concat⟩
    · rw [List.append_assoc]
      rfl
    · simp [hname]
    · simp [List.getLast?_cons]

theorem isClass_of_inner {inner : List Char} (hmem : ']' ∉ inner)
    (hlast : (':' :: inner).getLast? = some ':') :
    IsClass ('[' :: '[' :: ':' :: (inner ++ [']'])) inner.dropLast := by
  rcases List.eq_nil_or_concat inner with rfl | ⟨name, c, rfl⟩
  · exact .bare
  · rw [List.concat_eq_append] at hmem hlast ⊢
    obtain rfl : c = ':' := by simpa [List.getLast?_cons] using hlast
    rw [List.dropLast_concat, List.append_assoc]
    exact .named fun hname => hmem (List.mem_append_left _ hname)

/-- The token of a class, and the number of characters that it takes. -/
theorem IsClass.first_eq {token name : List Char} (h : IsClass token name) (behind : List Char) :
    ∃ c tail inner, token ++ behind = c :: tail ∧ inner.dropLast = name ∧
      Token.first true c tail = .named inner (behind.head? == some ']') ∧
      (c :: tail).drop (Token.first true c tail).width =
        if behind.head? = some ']' then behind.tail else behind := by
  obtain ⟨inner, rfl, hmem, hlast, hname⟩ := h.exists_inner
  have htext : '[' :: '[' :: ':' :: (inner ++ [']']) ++ behind =
      '[' :: '[' :: ':' :: (inner ++ ']' :: behind) := by simp
  have hfirst := @Token.first_class true inner behind hmem hlast
  refine ⟨_, _, inner, htext, hname, hfirst, ?_⟩
  rw [hfirst]
  exact Token.drop_class inner behind

theorem Token.exists_of_first_named {wild closed : Bool} {c : Char} {tail inner : List Char}
    (h : Token.first wild c tail = .named inner closed) :
    c = '[' ∧ ∃ more, tail = '[' :: ':' :: more ∧ Token.classInner? more = some inner := by
  unfold Token.first at h
  split at h
  case h_4 e more =>
    split at h
    · cases h
    · split at h
      · cases h
      · cases h
  case h_6 more =>
    cases hinner : Token.classInner? more with
    | none =>
      rw [hinner] at h
      cases h
    | some inner' =>
      rw [hinner] at h
      cases h
      exact ⟨rfl, more, rfl, hinner⟩
  all_goals cases h

/-- A class stands at the front of a text exactly if its token is that class. -/
theorem exists_class_iff {c : Char} {tail name : List Char} :
    (∃ token behind, IsClass token name ∧ c :: tail = token ++ behind) ↔
      ∃ inner closed, Token.first true c tail = .named inner closed ∧ inner.dropLast = name := by
  constructor
  · rintro ⟨token, behind, hclass, htext⟩
    obtain ⟨d, rest, inner, hcons, hname, hfirst, -⟩ := hclass.first_eq behind
    obtain ⟨rfl, rfl⟩ := List.cons_eq_cons.mp (htext.trans hcons)
    exact ⟨inner, _, hfirst, hname⟩
  · rintro ⟨inner, closed, hfirst, rfl⟩
    obtain ⟨rfl, more, rfl, hinner⟩ := Token.exists_of_first_named hfirst
    obtain ⟨behind, rfl, hmem, hlast⟩ := Token.classInner?_eq_some_iff.mp hinner
    exact ⟨_, behind, isClass_of_inner hmem hlast, by simp⟩

/-! ### One step -/

/-- A character with which nothing begins is a token of its own. -/
theorem first_of_other {c : Char} {rest : List Char} (hpair : c = '\\' → rest = [])
    (hstars : c = '*' → rest.head? ≠ some '*') (hnegated : c = '[' → rest.head? ≠ some '!')
    (hclass : ∀ token name behind, IsClass token name → c :: rest ≠ token ++ behind) :
    (Token.first true c rest).IsKnown ∧ (Token.first true c rest).width = 1 := by
  by_cases hspecial : c ∈ ['*', '?', '[', '\\']
  · simp only [List.mem_cons, List.not_mem_nil, or_false] at hspecial
    rcases hspecial with rfl | rfl | rfl | rfl
    · rw [Token.first_of_no_look (by decide), if_pos rfl, if_neg (hstars rfl)]
      exact ⟨trivial, rfl⟩
    · exact ⟨trivial, rfl⟩
    · have hnone : ∀ more, rest = '[' :: ':' :: more → Token.classInner? more = none := by
        rintro more rfl
        rw [Option.eq_none_iff_forall_ne_some]
        intro inner hinner
        obtain ⟨behind, rfl, hmem, hlast⟩ := Token.classInner?_eq_some_iff.mp hinner
        exact hclass _ _ behind (isClass_of_inner hmem hlast) (by simp)
      rw [Token.first_bracket hnone, beq_eq_false_iff_ne.mpr (hnegated rfl)]
      exact ⟨trivial, rfl⟩
    · obtain rfl := hpair rfl
      exact ⟨trivial, rfl⟩
  · rw [Token.first_plain hspecial]
    exact ⟨trivial, rfl⟩

/-- Whatever is passed over is one token, which is no class of unknown name. -/
theorem Passes.eq_drop {c : Char} {tail rest : List Char} (h : Passes (c :: tail) rest) :
    (Token.first true c tail).IsKnown ∧ rest = (c :: tail).drop (Token.first true c tail).width := by
  generalize htext : c :: tail = text at h
  cases h with
  | pair d rest =>
    obtain ⟨rfl, rfl⟩ := List.cons_eq_cons.mp htext
    by_cases hd : isEscapable d = true
    · simp [Token.first, hd, Token.IsKnown, Token.width]
    · simp [Token.first, hd, Token.IsKnown, Token.width]
  | stars rest =>
    obtain ⟨rfl, rfl⟩ := List.cons_eq_cons.mp htext
    exact ⟨trivial, rfl⟩
  | negated rest =>
    obtain ⟨rfl, rfl⟩ := List.cons_eq_cons.mp htext
    exact ⟨trivial, rfl⟩
  | closed hclass hname rest =>
    obtain ⟨d, more, inner, hcons, hinner, hfirst, hdrop⟩ := hclass.first_eq (']' :: rest)
    obtain ⟨rfl, rfl⟩ := List.cons_eq_cons.mp (htext.trans hcons)
    rw [← hcons] at hdrop
    refine ⟨?_, hdrop.symm⟩
    rw [hfirst, Token.IsKnown, hinner, hname]
    rfl
  | opened hclass hname hrest =>
    obtain ⟨d, more, inner, hcons, hinner, hfirst, hdrop⟩ := hclass.first_eq rest
    obtain ⟨rfl, rfl⟩ := List.cons_eq_cons.mp (htext.trans hcons)
    rw [if_neg hrest, ← hcons] at hdrop
    refine ⟨?_, hdrop.symm⟩
    rw [hfirst, Token.IsKnown, hinner, hname]
    rfl
  | other hpair hstars hnegated hclass =>
    obtain ⟨rfl, rfl⟩ := List.cons_eq_cons.mp htext
    obtain ⟨hknown, hwidth⟩ := first_of_other hpair hstars hnegated hclass
    rw [hwidth]
    exact ⟨hknown, rfl⟩

/-- Only a class of unknown name stops the scan. -/
theorem exists_passes {c : Char} {tail : List Char} (h : (Token.first true c tail).IsKnown) :
    ∃ rest, Passes (c :: tail) rest := by
  by_cases hclass : ∃ name token behind, IsClass token name ∧ c :: tail = token ++ behind
  · obtain ⟨name, token, behind, hclass, htext⟩ := hclass
    obtain ⟨inner, closed, hfirst, hinner⟩ := exists_class_iff.mp ⟨token, behind, hclass, htext⟩
    rw [hfirst, Token.IsKnown, hinner] at h
    obtain ⟨cls, hname⟩ := Option.isSome_iff_exists.mp h
    rw [htext]
    by_cases hclosed : behind.head? = some ']'
    · obtain ⟨rest, rfl⟩ := List.head?_eq_some_iff.mp hclosed
      exact ⟨rest, .closed hclass hname rest⟩
    · exact ⟨behind, .opened hclass hname hclosed⟩
  · by_cases hpair : c = '\\' → tail = []
    · by_cases hstars : c = '*' → tail.head? ≠ some '*'
      · by_cases hnegated : c = '[' → tail.head? ≠ some '!'
        · refine ⟨tail, .other hpair hstars hnegated ?_⟩
          exact fun token name behind hc htext => hclass ⟨name, token, behind, hc, htext⟩
        · obtain ⟨rfl, hhead⟩ := Classical.not_imp.mp hnegated
          obtain ⟨rest, rfl⟩ := List.head?_eq_some_iff.mp (Classical.not_not.mp hhead)
          exact ⟨rest, .negated rest⟩
      · obtain ⟨rfl, hhead⟩ := Classical.not_imp.mp hstars
        obtain ⟨rest, rfl⟩ := List.head?_eq_some_iff.mp (Classical.not_not.mp hhead)
        exact ⟨rest, .stars rest⟩
    · obtain ⟨rfl, hne⟩ := Classical.not_imp.mp hpair
      obtain ⟨d, rest, rfl⟩ := List.exists_cons_of_ne_nil hne
      exact ⟨rest, .pair d rest⟩

theorem passes_iff {c : Char} {tail rest : List Char} :
    Passes (c :: tail) rest ↔
      (Token.first true c tail).IsKnown ∧
        rest = (c :: tail).drop (Token.first true c tail).width := by
  constructor
  · exact Passes.eq_drop
  · rintro ⟨hknown, rfl⟩
    obtain ⟨rest, hrest⟩ := exists_passes hknown
    rwa [hrest.eq_drop.2] at hrest

/-! ### The whole scan -/

theorem IsClass.exists_cons {token name : List Char} (h : IsClass token name) :
    ∃ tail, token = '[' :: tail := by
  cases h with
  | bare => exact ⟨_, rfl⟩
  | named => exact ⟨_, rfl⟩

theorem Passes.suffix {text rest : List Char} (h : Passes text rest) : rest <:+ text := by
  cases h with
  | pair c rest => exact ⟨['\\', c], rfl⟩
  | stars rest => exact ⟨['*', '*'], rfl⟩
  | negated rest => exact ⟨['[', '!'], rfl⟩
  | closed hclass hname rest => exact ⟨_ ++ [']'], by rw [List.append_assoc]; rfl⟩
  | opened hclass hname hrest => exact List.suffix_append _ _
  | other => exact List.suffix_cons _ _

theorem Reaches.suffix {text rest : List Char} (h : Reaches text rest) : rest <:+ text := by
  induction h with
  | refl => exact List.suffix_refl text
  | tail _ hstep ih => exact hstep.suffix.trans ih

theorem CharClass.ofName?_eq_none_iff {name : List Char} :
    ofName? name = none ↔ ∀ cls : CharClass, cls.name.toList ≠ Text.lower name := by
  have hall : ∀ cls : CharClass, cls ∈ all := by
    intro cls
    cases cls <;> decide
  rw [ofName?, List.find?_eq_none]
  constructor
  · intro h cls
    simpa using h cls (hall cls)
  · intro h cls _
    simpa using h cls

/-- What is found behind a token that is no class of unknown name. -/
theorem findsUnknown_cons_iff {c : Char} {tail rest name : List Char}
    (hknown : (Token.first true c tail).IsKnown) :
    FindsUnknown (c :: tail) rest name ↔
      FindsUnknown ((c :: tail).drop (Token.first true c tail).width) rest name := by
  have hstep := passes_iff.mpr ⟨hknown, rfl⟩
  constructor
  · rintro ⟨hreaches, hfront, hunknown⟩
    refine ⟨?_, hfront, hunknown⟩
    rcases Relation.ReflTransGen.cases_head hreaches with rfl | ⟨left, hleft, hreaches⟩
    · -- the token in front is a class of known name, if any, and this one has none
      obtain ⟨token, behind, hclass, htext⟩ := hfront
      obtain ⟨inner, closed, hfirst, rfl⟩ := exists_class_iff.mp ⟨token, behind, hclass, htext⟩
      rw [hfirst, Token.IsKnown, CharClass.ofName?_eq_none_iff.mpr hunknown] at hknown
      cases hknown
    · rwa [hleft.eq_drop.2] at hreaches
  · rintro ⟨hreaches, hfront, hunknown⟩
    exact ⟨.head hstep hreaches, hfront, hunknown⟩

/-- A class of unknown name in front is found, and nothing behind it. -/
theorem findsUnknown_iff_of_first {c : Char} {tail rest inner name : List Char} {closed : Bool}
    (hfirst : Token.first true c tail = .named inner closed)
    (hname : CharClass.ofName? inner.dropLast = none) :
    FindsUnknown (c :: tail) rest name ↔ rest = c :: tail ∧ name = inner.dropLast := by
  constructor
  · rintro ⟨hreaches, hfront, -⟩
    rcases Relation.ReflTransGen.cases_head hreaches with rfl | ⟨left, hleft, -⟩
    · obtain ⟨token, behind, hclass, htext⟩ := hfront
      obtain ⟨inner', closed', hfirst', rfl⟩ := exists_class_iff.mp ⟨token, behind, hclass, htext⟩
      obtain ⟨rfl, -⟩ := Token.named.inj (hfirst.symm.trans hfirst')
      exact ⟨rfl, rfl⟩
    · have hknown := hleft.eq_drop.1
      rw [hfirst, Token.IsKnown, hname] at hknown
      cases hknown
  · rintro ⟨rfl, rfl⟩
    exact ⟨.refl, exists_class_iff.mpr ⟨inner, closed, hfirst, rfl⟩,
      CharClass.ofName?_eq_none_iff.mp hname⟩

theorem unknownClass?_cons_of_known {t : Token} (h : t.IsKnown) (i : Nat) (ts : List Token) :
    unknownClass? i (t :: ts) = unknownClass? (i + t.width) ts := by
  cases t with
  | named inner closed =>
    obtain ⟨cls, hcls⟩ := Option.isSome_iff_exists.mp h
    rw [unknownClass?, hcls]
    rfl
  | _ => rfl

/-- The tokens of a text have the class of unknown name that the scan comes to. -/
theorem unknownClass?_tokensFrom_iff {text name : List Char} {i j : Nat} :
    unknownClass? i (tokensFrom true 0 text) = some (j, name) ↔
      ∃ rest, FindsUnknown text rest name ∧ j = i + (text.length - rest.length) := by
  -- a step takes several characters, so the induction is on the length of the text
  induction hn : text.length using Nat.strongRecOn generalizing text i with
  | ind n ih =>
    cases text with
    | nil =>
      refine iff_of_false (fun h => Option.some_ne_none _ h.symm) ?_
      rintro ⟨rest, ⟨hreaches, ⟨token, behind, hclass, rfl⟩, -⟩, -⟩
      obtain ⟨tail, rfl⟩ := hclass.exists_cons
      cases List.suffix_nil.mp hreaches.suffix
    | cons c tail =>
      rw [tokensFrom_cons]
      by_cases hknown : (Token.first true c tail).IsKnown
      · have hpos := Token.width_pos (Token.first true c tail)
        have hlt : ((c :: tail).drop (Token.first true c tail).width).length < n := by
          rw [List.length_drop, hn]
          rw [List.length_cons] at hn
          omega
        rw [unknownClass?_cons_of_known hknown, ih _ hlt rfl]
        refine exists_congr fun rest => ?_
        rw [findsUnknown_cons_iff hknown]
        refine and_congr_right fun hfinds => ?_
        -- something is left at the place that was found, so the token lies within the text
        have hle := hfinds.reaches.suffix.length_le
        obtain ⟨token, behind, hclass, rfl⟩ := hfinds.class_front
        obtain ⟨more, rfl⟩ := hclass.exists_cons
        rw [List.length_drop, hn] at hle ⊢
        rw [List.cons_append, List.length_cons] at hle ⊢
        omega
      · obtain ⟨inner, closed, hfirst, hname⟩ := Token.exists_named_of_not_isKnown hknown
        rw [hfirst, unknownClass?, if_pos (by rw [hname]; rfl)]
        simp only [findsUnknown_iff_of_first hfirst hname]
        constructor
        · rintro heq
          obtain ⟨rfl, rfl⟩ := Prod.mk.inj (Option.some.inj heq)
          exact ⟨_, ⟨rfl, rfl⟩, by rw [hn, Nat.sub_self, Nat.add_zero]⟩
        · rintro ⟨rest, ⟨rfl, rfl⟩, rfl⟩
          rw [hn, Nat.sub_self, Nat.add_zero]

/-- **The class of unknown name that is found in a body, and its place.** -/
theorem unknownClass?_tokens_iff {body name : List Char} {i : Nat} :
    unknownClass? 0 (tokens body) = some (i, name) ↔
      ∃ rest, FindsUnknown body rest name ∧ i = body.length - rest.length := by
  rw [tokens]
  cases hwild : hasWildcards body with
  | true =>
    rw [unknownClass?_tokensFrom_iff]
    simp only [Nat.zero_add]
  | false =>
    -- without brackets there is no class, and backslashes do not matter
    rw [unknownClass?_eq_none_iff.mpr (Glob.counted_of_not_hasWildcards hwild).known]
    refine iff_of_false (fun h => Option.some_ne_none _ h.symm) ?_
    rintro ⟨rest, ⟨hreaches, ⟨token, behind, hclass, rfl⟩, -⟩, -⟩
    obtain ⟨tail, rfl⟩ := hclass.exists_cons
    have hmem : '[' ∈ body := hreaches.suffix.subset (List.mem_cons_self ..)
    have hsome : hasWildcards body = true := List.any_eq_true.mpr ⟨'[', hmem, by decide⟩
    rw [hwild] at hsome
    cases hsome

/-- A class that the scan comes to is refused for its name only, with its bracket closed once
more. -/
theorem IsClass.cause_of_toExpression_error {token name : List Char} (h : IsClass token name)
    {e : Error} (he : CharClass.toExpression (token ++ [']']) = .error e) :
    e.cause = .unknownClass name := by
  cases h with
  | bare =>
    -- one colon counts as the end of the opening and as the beginning of the closing
    have herror : CharClass.toExpression ['[', '[', ':', ']', ']'] =
        .error ⟨.unknownClass [], "[[:]]", none⟩ := rfl
    obtain rfl := Except.error.inj (herror.symm.trans he)
    rfl
  | @named name hname =>
    have htoken : '[' :: '[' :: ':' :: (name ++ [':', ']']) ++ [']'] =
        CharClass.opening ++ name ++ CharClass.closing := by
      simp [CharClass.opening, CharClass.closing]
    rw [htoken, CharClass.toExpression_closed] at he
    cases hcls : CharClass.ofName? name with
    | none =>
      rw [hcls] at he
      obtain rfl := Except.error.inj he
      rfl
    | some cls =>
      rw [hcls] at he
      cases he

theorem cause_of_checkSize_error {text : List Char} {wildcards : Nat} {e : Error}
    (h : checkSize text wildcards = .error e) :
    e.cause = .tooLong ∨ e.cause = .tooManyWildcards := by
  unfold checkSize at h
  split at h
  · cases h
    exact .inl rfl
  · split at h
    · cases h
      exact .inr rfl
    · cases h

/-- A body is refused for a class of unknown name, or else for its size. -/
theorem writeBody_eq_error_cases {body : List Char} {e : Error} (h : writeBody body = .error e) :
    (∃ rest name, FindsUnknown body rest name ∧
      e = ⟨.unknownClass name, String.ofList body, some (body.length - rest.length)⟩) ∨
      e.cause = .tooLong ∨ e.cause = .tooManyWildcards := by
  cases hfound : unknownClass? 0 (tokens body) with
  | some place =>
    obtain ⟨i, name⟩ := place
    obtain ⟨rest, hfinds, rfl⟩ := unknownClass?_tokens_iff.mp hfound
    rw [writeBody, hfound] at h
    exact .inl ⟨rest, name, hfinds, (Except.error.inj h).symm⟩
  | none =>
    rw [writeBody, hfound] at h
    rcases Outcome.bind_eq_error_iff.mp h with hsize | ⟨_, -, h⟩
    · exact .inr (cause_of_checkSize_error hsize)
    · cases h

/-- The class of unknown name that a body is refused for. -/
theorem writeBody_eq_unknownClass_iff {body name : List Char} {e : Error} :
    writeBody body = .error e ∧ e.cause = .unknownClass name ↔
      ∃ rest, FindsUnknown body rest name ∧
        e = ⟨.unknownClass name, String.ofList body, some (body.length - rest.length)⟩ := by
  constructor
  · rintro ⟨herror, hcause⟩
    rcases writeBody_eq_error_cases herror with ⟨rest, name', hfinds, rfl⟩ | hsize | hsize
    · obtain rfl := Cause.unknownClass.inj hcause
      exact ⟨rest, hfinds, rfl⟩
    · rw [hsize] at hcause
      cases hcause
    · rw [hsize] at hcause
      cases hcause
  · rintro ⟨rest, hfinds, rfl⟩
    rw [writeBody, unknownClass?_tokens_iff.mpr ⟨rest, hfinds, rfl⟩]
    exact ⟨rfl, rfl⟩

end ExcludeRules.Rule
