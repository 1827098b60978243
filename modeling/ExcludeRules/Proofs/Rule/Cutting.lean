/-
Cutting a body at a place that no token reaches over.

A star looks at the next character, a backslash takes it, and a class looks for the
bracket that closes it.  Where none of these looks over a place, what stands before it
and what stands behind it are cut into tokens on their own.  Main statements:
  * `tokensFrom_append` : the tokens of a text in two parts;
  * `tokensFrom_append_plain` : a part without brackets and backslashes;
  * `tokensFrom_append_bracket` : the place in front of a bracket that is never closed;
  * `mergeStars_append` : stars are merged on either side of what is no star.
-/
import ExcludeRules.Proofs.Rule.GlobTokens

namespace ExcludeRules.Rule

variable {wild : Bool} {text rest : List Char}

namespace Token

/-- The token at the front of a part lies within it, is the same if `rest` follows the part,
and leaves a part of which `P` holds. -/
structure StaysWithin (wild : Bool) (rest : List Char) (P : List Char → Prop) (c : Char)
    (tail : List Char) : Prop where
  first_eq : first wild c (tail ++ rest) = first wild c tail
  width_le : (first wild c tail).width ≤ (c :: tail).length
  left : P ((c :: tail).drop (first wild c tail).width)

theorem StaysWithin.of_eq {P : List Char → Prop} {c : Char} {tail : List Char} {t : Token}
    (hfirst : first wild c tail = t) (hrest : first wild c (tail ++ rest) = t)
    (hwidth : t.width ≤ (c :: tail).length) (hleft : P ((c :: tail).drop t.width)) :
    StaysWithin wild rest P c tail := by
  subst hfirst
  exact ⟨hrest, hwidth, hleft⟩

end Token

/-- The tokens of a text in two parts, if each of those of the first part stays within it. -/
theorem tokensFrom_append {P : List Char → Prop}
    (hP : ∀ c tail, P (c :: tail) → Token.StaysWithin wild rest P c tail) (h : P text) :
    tokensFrom wild 0 (text ++ rest) = tokensFrom wild 0 text ++ tokensFrom wild 0 rest := by
  -- a token takes several characters, so the induction is on the length of the first part
  induction hn : text.length using Nat.strongRecOn generalizing text with
  | ind n ih =>
    cases text with
    | nil => rfl
    | cons c tail =>
      obtain ⟨hfirst, hwidth, hleft⟩ := hP c tail h
      have hpos := Token.width_pos (Token.first wild c tail)
      have hlt : ((c :: tail).drop (Token.first wild c tail).width).length < n := by
        rw [List.length_drop, hn]
        rw [List.length_cons] at hn
        omega
      have hcut : (c :: (tail ++ rest)).drop (Token.first wild c tail).width =
          (c :: tail).drop (Token.first wild c tail).width ++ rest :=
        List.drop_append_of_le_length hwidth
      rw [List.cons_append, tokensFrom_cons, hfirst, hcut, ih _ hlt hleft rfl,
        tokensFrom_cons wild c tail]
      rfl

theorem mergeStars_ne_nil {ts : List Token} (h : ts ≠ []) : mergeStars ts ≠ [] := by
  obtain ⟨t, ts, rfl⟩ := List.exists_cons_of_ne_nil h
  rw [mergeStars]
  cases mergeStars ts with
  | nil => exact List.cons_ne_nil _ _
  | cons u us =>
    dsimp only
    split <;> exact List.cons_ne_nil _ _

/-- Stars on either side of a token that is no star are not merged with each other. -/
theorem mergeStars_append {t : Token} (ht : t.isStar = false) (ts us : List Token) :
    mergeStars (ts ++ t :: us) = mergeStars ts ++ t :: mergeStars us := by
  induction ts with
  | nil => exact mergeStars_cons_of_not_star ht us
  | cons s ts ih =>
    rw [List.cons_append, mergeStars, ih, mergeStars]
    cases mergeStars ts with
    | nil => simp [ht]
    | cons u merged =>
      by_cases hstar : (s.isStar && u.isStar) = true
      · simp [hstar]
      · simp [hstar]

/-! ### Parts without brackets and backslashes -/

/-- Of the characters that open nothing and escape nothing only a star looks ahead. -/
theorem Token.first_of_no_look {c : Char} (hc : c ∉ ['[', '\\']) (rest : List Char) :
    Token.first wild c rest =
      if c = '*' then if rest.head? = some '*' then .anything else .segment
      else if c = '?' then .single else .plain c := by
  simp only [List.mem_cons, List.not_mem_nil, or_false, not_or] at hc
  by_cases hstar : c = '*'
  · subst hstar
    cases rest with
    | nil => rfl
    | cons d rest =>
      by_cases hd : d = '*'
      · simp [Token.first, hd]
      · simp [Token.first, hd]
  · by_cases hmark : c = '?'
    · subst hmark
      rfl
    · rw [if_neg hstar, if_neg hmark]
      exact Token.first_plain (by simp [hstar, hmark, hc]) rest

theorem Token.staysWithin_of_no_look {P : List Char → Prop} {c : Char} {tail : List Char}
    (hc : c ∉ ['[', '\\']) (hrest : rest.head? ≠ some '*') (hone : P tail)
    (htwo : ∀ more, tail = '*' :: more → P more) : Token.StaysWithin wild rest P c tail := by
  have hfirst := @Token.first_of_no_look wild _ hc
  by_cases hstar : c = '*'
  · by_cases hnext : tail.head? = some '*'
    · obtain ⟨more, rfl⟩ := List.head?_eq_some_iff.mp hnext
      have hsame : ∀ tail : List Char, tail.head? = some '*' →
          Token.first wild c tail = .anything := fun tail htail => by
        rw [hfirst, if_pos hstar, if_pos htail]
      exact .of_eq (hsame _ rfl) (hsame _ rfl) (by simp [width]) (htwo more rfl)
    · have hnext' : (tail ++ rest).head? ≠ some '*' := by
        cases tail with
        | nil => exact hrest
        | cons d tail => exact hnext
      have hsame : ∀ tail : List Char, tail.head? ≠ some '*' →
          Token.first wild c tail = .segment := fun tail htail => by
        rw [hfirst, if_pos hstar, if_neg htail]
      exact .of_eq (hsame _ hnext) (hsame _ hnext') (by simp [width]) hone
  · have hsame : ∀ tail, Token.first wild c tail = if c = '?' then .single else .plain c :=
      fun tail => by rw [hfirst, if_neg hstar]
    have hwidth : (if c = '?' then Token.single else .plain c).width = 1 := by
      split <;> rfl
    exact .of_eq (hsame _) (hsame _) (by simp [hwidth]) (by rw [hwidth]; exact hone)

theorem tokensFrom_append_plain (h : ∀ c ∈ text, c ∉ ['[', '\\']) (hrest : rest.head? ≠ some '*') :
    tokensFrom wild 0 (text ++ rest) = tokensFrom wild 0 text ++ tokensFrom wild 0 rest := by
  refine tokensFrom_append (P := fun text => ∀ c ∈ text, c ∉ ['[', '\\']) ?_ h
  intro c tail htext
  obtain ⟨hc, htail⟩ := List.forall_mem_cons.mp htext
  refine Token.staysWithin_of_no_look hc hrest htail ?_
  rintro more rfl
  exact fun d hd => htail d (List.mem_cons_of_mem _ hd)

/-! ### In front of a bracket that is never closed -/

/-- Whether pairs of a backslash and a character, taken from the front, end with the text. -/
def endsPaired : List Char → Bool
  | '\\' :: _ :: rest => endsPaired rest
  | ['\\'] => false
  | _ :: rest => endsPaired rest
  | [] => true

theorem endsPaired_cons {c : Char} (hc : c ≠ '\\') (rest : List Char) :
    endsPaired (c :: rest) = endsPaired rest := by
  rw [endsPaired]
  · rintro d rest' rfl
    exact absurd rfl hc
  · rintro rfl
    exact absurd rfl hc

/-- Two characters that are no backslashes end whatever pair began before them. -/
theorem endsPaired_append {c d : Char} (hc : c ≠ '\\') (hd : d ≠ '\\') (text rest : List Char) :
    endsPaired (text ++ c :: d :: rest) = endsPaired rest := by
  fun_induction endsPaired text with
  | case1 e text ih => exact ih
  | case2 => exact endsPaired_cons hd rest
  | case3 e text hpair hend ih =>
    have he : e ≠ '\\' := by
      rintro rfl
      cases text with
      | nil => exact hend rfl rfl
      | cons f text => exact hpair f text rfl rfl
    rw [List.cons_append, endsPaired_cons he, ih]
  | case4 => rw [List.nil_append, endsPaired_cons hc, endsPaired_cons hd]

namespace Token

/-- A class that ends before a part without closing brackets ends where that part is missing. -/
theorem classInner?_append {rest post : List Char} (hpost : ']' ∉ post) :
    classInner? (rest ++ post) = classInner? rest := by
  apply Option.ext
  intro inner
  rw [classInner?_eq_some_iff, classInner?_eq_some_iff]
  constructor
  · rintro ⟨tail, heq, hmem, hlast⟩
    -- the bracket that ends the class is none of `post`, so it stands in front of it
    rcases List.append_eq_append_iff.mp heq with ⟨more, -, hmore⟩ | ⟨more, rfl, hmore⟩
    · exact absurd (hmore ▸ List.mem_append_right _ (List.mem_cons_self ..)) hpost
    · cases more with
      | nil =>
        obtain rfl : ']' :: tail = post := hmore
        exact absurd (List.mem_cons_self ..) hpost
      | cons c more =>
        obtain ⟨rfl, -⟩ := List.cons_eq_cons.mp hmore
        exact ⟨more, rfl, hmem, hlast⟩
  · rintro ⟨tail, rfl, hmem, hlast⟩
    exact ⟨tail ++ post, by rw [List.append_assoc]; rfl, hmem, hlast⟩

theorem first_bracket {tail : List Char}
    (h : ∀ more, tail = '[' :: ':' :: more → classInner? more = none) :
    first wild '[' tail = bracket (tail.head? == some '!') := by
  cases tail with
  | nil => rfl
  | cons d more =>
    unfold first
    split <;> simp_all

end Token

/-- A bracket that nothing closes opens no class. -/
theorem Token.first_open {post : List Char} (hpost : ']' ∉ post) :
    Token.first wild '[' post = .bracket (post.head? == some '!') := by
  refine Token.first_bracket ?_
  rintro more rfl
  have hmore : ']' ∉ more := fun hmem =>
    hpost (List.mem_cons_of_mem _ (List.mem_cons_of_mem _ hmem))
  exact @Token.classInner?_append [] more hmore

/-- A colon and the bracket behind it end whatever pair began in a class. -/
theorem endsPaired_class {inner : List Char} (hlast : (':' :: inner).getLast? = some ':')
    (behind : List Char) :
    endsPaired ('[' :: ':' :: (inner ++ ']' :: behind)) = endsPaired behind := by
  obtain ⟨before, hbefore⟩ := List.getLast?_eq_some_iff.mp hlast
  have htext : '[' :: ':' :: (inner ++ ']' :: behind) =
      ('[' :: before) ++ ':' :: ']' :: behind := by
    have hcons : '[' :: ':' :: (inner ++ ']' :: behind) =
        '[' :: ((':' :: inner) ++ ']' :: behind) := rfl
    rw [hcons, hbefore, List.append_assoc]
    rfl
  rw [htext, endsPaired_append (by decide) (by decide)]

theorem Token.staysWithin_class {post inner behind : List Char} (hmem : ']' ∉ inner)
    (hlast : (':' :: inner).getLast? = some ':') (hpaired : endsPaired behind = true) :
    Token.StaysWithin wild ('[' :: post) (endsPaired · = true) '['
      ('[' :: ':' :: (inner ++ ']' :: behind)) := by
  -- whether brackets are closed behind the class is seen within the part: what follows opens one
  have hhead : ((behind ++ '[' :: post).head? == some ']') = (behind.head? == some ']') := by
    cases behind with
    | nil => rfl
    | cons c behind => rfl
  have hassoc : '[' :: ':' :: (inner ++ ']' :: behind) ++ '[' :: post =
      '[' :: ':' :: (inner ++ ']' :: (behind ++ '[' :: post)) := by simp
  have hrest : first wild '[' ('[' :: ':' :: (inner ++ ']' :: behind) ++ '[' :: post) =
      named inner (behind.head? == some ']') := by
    rw [hassoc, first_class hmem hlast, hhead]
  refine .of_eq (first_class hmem hlast) hrest ?_ ?_
  · by_cases hclosed : behind.head? = some ']'
    · obtain ⟨behind, rfl⟩ := List.head?_eq_some_iff.mp hclosed
      simp [width]
    · simp [width, hclosed]
  · rw [drop_class]
    by_cases hclosed : behind.head? = some ']'
    · obtain ⟨behind, rfl⟩ := List.head?_eq_some_iff.mp hclosed
      rwa [endsPaired_cons (by decide)] at hpaired
    · rwa [if_neg hclosed]

theorem Token.staysWithin_open {post tail : List Char} (hpost : ']' ∉ post)
    (htail : endsPaired tail = true) :
    Token.StaysWithin wild ('[' :: post) (endsPaired · = true) '[' tail := by
  have hopen : ']' ∉ '[' :: post := by simpa using hpost
  by_cases hclass : ∃ more inner, tail = '[' :: ':' :: more ∧ classInner? more = some inner
  · obtain ⟨more, inner, rfl, hinner⟩ := hclass
    obtain ⟨behind, rfl, hmem, hlast⟩ := classInner?_eq_some_iff.mp hinner
    rw [endsPaired_class hlast] at htail
    exact staysWithin_class hmem hlast htail
  · have hnone : ∀ more, tail = '[' :: ':' :: more → classInner? more = none := by
      intro more hmore
      cases hinner : classInner? more with
      | none => rfl
      | some inner => exact absurd ⟨more, inner, hmore, hinner⟩ hclass
    have hnone' : ∀ more, tail ++ '[' :: post = '[' :: ':' :: more → classInner? more = none := by
      intro more hmore
      -- the bracket and the colon that open a class may stand on either side of the place
      match tail with
      | [] =>
        obtain rfl : post = ':' :: more := (List.cons_eq_cons.mp hmore).2
        exact @classInner?_append [] more fun hmem => hpost (List.mem_cons_of_mem _ hmem)
      | [d] => cases hmore
      | d :: e :: tail =>
        obtain ⟨rfl, hbehind⟩ := List.cons_eq_cons.mp hmore
        obtain ⟨rfl, rfl⟩ := List.cons_eq_cons.mp hbehind
        exact (classInner?_append hopen).trans (hnone tail rfl)
    have hhead : ((tail ++ '[' :: post).head? == some '!') = (tail.head? == some '!') := by
      cases tail with
      | nil => rfl
      | cons d tail => rfl
    have hrest := (@first_bracket wild _ hnone').trans (by rw [hhead])
    by_cases hmark : tail.head? = some '!'
    · obtain ⟨tail, rfl⟩ := List.head?_eq_some_iff.mp hmark
      refine .of_eq (first_bracket hnone) hrest (by simp [width]) ?_
      rwa [endsPaired_cons (by decide)] at htail
    · refine .of_eq (first_bracket hnone) hrest (by simp [width, hmark]) ?_
      rw [width, beq_eq_false_iff_ne.mpr hmark]
      exact htail

theorem tokensFrom_append_bracket {post : List Char} (h : endsPaired text = true)
    (hpost : ']' ∉ post) :
    tokensFrom true 0 (text ++ '[' :: post) =
      tokensFrom true 0 text ++ tokensFrom true 0 ('[' :: post) := by
  refine tokensFrom_append (P := (endsPaired · = true)) ?_ h
  intro c tail htext
  by_cases hslash : c = '\\'
  · subst hslash
    cases tail with
    | nil => cases htext
    | cons e tail =>
      have hfirst : ∀ more, Token.first true '\\' (e :: more) =
          if isEscapable e then .escaped e else .kept e := fun more => rfl
      have hwidth : (if isEscapable e then Token.escaped e else .kept e).width = 2 := by
        split <;> rfl
      refine .of_eq (hfirst tail) (hfirst _) (by simp [hwidth]) ?_
      rw [hwidth]
      exact htext
  · rw [endsPaired_cons hslash] at htext
    by_cases hbracket : c = '['
    · subst hbracket
      exact Token.staysWithin_open hpost htext
    · refine Token.staysWithin_of_no_look (by simp [hslash, hbracket]) (by simp) htext ?_
      rintro more rfl
      rwa [endsPaired_cons (by decide)] at htext

end ExcludeRules.Rule
