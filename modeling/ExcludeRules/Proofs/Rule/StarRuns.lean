/-
Runs of stars, however long, are one star.

What a body is written as is gathered text by text.  A star is made one with the star that
was gathered last, so no two stars are gathered side by side, and each that is gathered counts
as a wildcard of the body.  Which star a run becomes is told by its first two stars.
Main statements:
  * `foldl_emit_eq` : the texts that are gathered are those of the tokens, stars merged;
  * `isChain_emit`, `countP_emit_le` : what gathering one token keeps;
  * `exists_keeps` : shortening runs of stars keeps the token at the front;
  * `exists_counted_shortened` : the tokens of a body whose runs of stars are shortened;
  * `writeBody_shortened` : a body that is accepted, and what is gathered for it.
-/
import ExcludeRules.Proofs.Rule.Cutting
import ExcludeRules.Proofs.Rule.Wildcards
import Mathlib.Data.List.Chain

namespace ExcludeRules.Rule

/-! ### Gathering the texts of tokens -/

/-- Whether a text is what a star is written as. -/
def isStarText (text : List Char) : Bool := text == ".*".toList || text == "[^/]*".toList

/-- Adds the text of a star.  Behind a star it is one with it, and the wider of both remains. -/
def appendStar (out : List (List Char)) (star : List Char) : List (List Char) :=
  if out.getLast?.any isStarText then
    if star = ".*".toList then out.dropLast ++ [star] else out
  else out ++ [star]

/-- The texts that a token is written with. -/
def Token.texts : Token → List (List Char)
  | kept c => [['\\', '\\'], writeChar c]
  | t => [t.write?.getD []]

/-- Adds what a token is written with. -/
def emit (out : List (List Char)) (t : Token) : List (List Char) :=
  if t.isStar then appendStar out (t.write?.getD []) else out ++ t.texts

/-- The texts that are gathered for a body, from its first token to its last. -/
def emitted (body : List Char) : List (List Char) := (tokens body).foldl emit []

namespace Token

theorem isStar_eq_true_iff {t : Token} : t.isStar = true ↔ t = segment ∨ t = anything := by
  cases t <;> simp [isStar]

theorem isStar_merge (t u : Token) : (t.merge u).isStar = true := by
  rcases t.merge_eq u with h | h
  · rw [h]
    rfl
  · rw [h]
    rfl

theorem flatten_texts (t : Token) : t.texts.flatten = t.write?.getD [] := by
  cases t <;> simp [texts, write?]

/-- Only stars are written as stars. -/
theorem isStarText_eq_false {t : Token} (ht : t.isStar = false) :
    ∀ text ∈ t.texts, isStarText text = false := by
  have hchar : ∀ c, isStarText (writeChar c) = false := by
    intro c
    unfold writeChar
    split <;> simp [isStarText]
  cases t with
  | anything => cases ht
  | segment => cases ht
  | single => simp [texts, write?, isStarText]
  | escaped c => simp [texts, write?, isStarText]
  | kept c => simpa [texts, isStarText] using hchar c
  | backslash => simp [texts, write?, isStarText]
  | named inner closed =>
    rw [texts, write?]
    · cases CharClass.ofName? inner.dropLast with
      | none => simp [isStarText]
      | some cls => cases cls <;> cases closed <;> decide
    · intro c hc
      cases hc
  | bracket negated => cases negated <;> decide
  | plain c => simp [texts, write?, hchar]

theorem texts_ne_nil (t : Token) : t.texts ≠ [] := by
  cases t <;> simp [texts]

end Token

theorem appendStar_of_not_star {out : List (List Char)} (h : out.getLast?.any isStarText = false)
    (star : List Char) : appendStar out star = out ++ [star] := by
  rw [appendStar, if_neg (Bool.eq_false_iff.mp h)]

/-- A star behind a star is one with it. -/
theorem appendStar_merge {t u : Token} (ht : t.isStar = true) (hu : u.isStar = true)
    (out : List (List Char)) :
    appendStar (out ++ [t.write?.getD []]) (u.write?.getD []) =
      out ++ [(t.merge u).write?.getD []] := by
  rcases Token.isStar_eq_true_iff.mp ht with rfl | rfl <;>
    rcases Token.isStar_eq_true_iff.mp hu with rfl | rfl <;>
      simp [appendStar, Token.write?, Token.merge, isStarText]

theorem getLast?_append_texts {t : Token} (ht : t.isStar = false) (out : List (List Char)) :
    (out ++ t.texts).getLast?.any isStarText = false := by
  rw [List.getLast?_append]
  cases hlast : t.texts.getLast? with
  | none => exact absurd (List.getLast?_eq_none_iff.mp hlast) t.texts_ne_nil
  | some text => exact Token.isStarText_eq_false ht text (List.mem_of_getLast? hlast)

/-- Merging two stars first does not change what the rest is merged with. -/
theorem mergeStars_cons_merge {t u : Token} (ht : t.isStar = true) (hu : u.isStar = true)
    (ts : List Token) : mergeStars (t :: u :: ts) = mergeStars (t.merge u :: ts) := by
  cases hts : mergeStars ts with
  | nil => simp [mergeStars, hts, ht, hu]
  | cons v vs =>
    by_cases hv : v.isStar = true
    · have hassoc : t.merge (u.merge v) = (t.merge u).merge v := by
        rcases Token.isStar_eq_true_iff.mp ht with rfl | rfl <;>
          rcases Token.isStar_eq_true_iff.mp hu with rfl | rfl <;>
            rcases Token.isStar_eq_true_iff.mp hv with rfl | rfl <;> rfl
      rw [mergeStars_cons_of_star (mergeStars_cons_of_star hts hu hv) ht (u.isStar_merge v),
        mergeStars_cons_of_star hts (t.isStar_merge u) hv, hassoc]
    · simp [mergeStars, hts, ht, hu, hv]

/-- **What is gathered are the texts of the tokens, stars merged.**  The star that was gathered
last, if any, is merged with those that come next. -/
theorem foldl_emit_eq (ts : List Token) (out : List (List Char)) :
    (out.getLast?.any isStarText = false →
      ts.foldl emit out = out ++ (mergeStars ts).flatMap Token.texts) ∧
    ∀ t : Token, t.isStar = true →
      ts.foldl emit (out ++ [t.write?.getD []]) =
        out ++ (mergeStars (t :: ts)).flatMap Token.texts := by
  -- a star that was gathered may still grow, so the induction carries both forms
  induction ts generalizing out with
  | nil =>
    refine ⟨fun _ => by simp [mergeStars], fun t ht => ?_⟩
    rcases Token.isStar_eq_true_iff.mp ht with rfl | rfl <;> rfl
  | cons u ts ih =>
    by_cases hu : u.isStar = true
    · refine ⟨fun hout => ?_, fun t ht => ?_⟩
      · rw [List.foldl_cons, emit, if_pos hu, appendStar_of_not_star hout]
        exact (ih out).2 u hu
      · rw [List.foldl_cons, emit, if_pos hu, appendStar_merge ht hu,
          (ih out).2 _ (t.isStar_merge u), mergeStars_cons_merge ht hu]
    · have hplain : u.isStar = false := Bool.eq_false_iff.mpr hu
      have hstep : ∀ out, (u :: ts).foldl emit out =
          out ++ u.texts ++ (mergeStars ts).flatMap Token.texts := by
        intro out
        rw [List.foldl_cons, emit, if_neg hu]
        exact (ih _).1 (getLast?_append_texts hplain out)
      refine ⟨fun _ => ?_, fun t ht => ?_⟩
      · rw [hstep, mergeStars_cons_of_not_star hplain, List.flatMap_cons, List.append_assoc]
      · have htexts : t.texts = [t.write?.getD []] := by
          rcases Token.isStar_eq_true_iff.mp ht with rfl | rfl <;> rfl
        have hmerged := mergeStars_cons_of_not_star hplain ts
        rw [hstep, mergeStars, hmerged]
        simp [hplain, htexts]

/-! ### What gathering one token keeps -/

/-- At most one of two texts is a star. -/
def NotBothStars (f g : List Char) : Prop := ¬ (isStarText f = true ∧ isStarText g = true)

theorem isChain_append_of_not_star {out texts : List (List Char)} (hout : out.IsChain NotBothStars)
    (htexts : ∀ text ∈ texts, isStarText text = false) :
    (out ++ texts).IsChain NotBothStars := by
  induction texts generalizing out with
  | nil => rwa [List.append_nil]
  | cons text texts ih =>
    obtain ⟨htext, htexts⟩ := List.forall_mem_cons.mp htexts
    rw [List.append_cons]
    refine ih (hout.append (List.isChain_singleton text) ?_) htexts
    intro f _ g hg hboth
    obtain rfl : text = g := Option.some.inj hg
    rw [htext] at hboth
    cases hboth.2

/-- What a star is behind: another star, with which it is one, or none. -/
theorem appendStar_cases (out : List (List Char)) (star : List Char) :
    (∃ front last, out = front ++ [last] ∧ isStarText last = true ∧
      (appendStar out star = front ++ [star] ∨ appendStar out star = out)) ∨
      out.getLast?.any isStarText = false ∧ appendStar out star = out ++ [star] := by
  by_cases hlast : out.getLast?.any isStarText = true
  · obtain ⟨last, hout, hstar⟩ := (Option.any_eq_true _ _).mp hlast
    obtain ⟨front, rfl⟩ := List.getLast?_eq_some_iff.mp hout
    refine .inl ⟨front, last, rfl, hstar, ?_⟩
    rw [appendStar, if_pos hlast]
    split
    · exact .inl (by rw [List.dropLast_concat])
    · exact .inr rfl
  · have hnone := Bool.eq_false_iff.mpr hlast
    exact .inr ⟨hnone, appendStar_of_not_star hnone star⟩

theorem isChain_appendStar {out : List (List Char)} (hout : out.IsChain NotBothStars)
    (star : List Char) : (appendStar out star).IsChain NotBothStars := by
  rcases appendStar_cases out star with ⟨front, last, rfl, hlast, heq | heq⟩ | ⟨hnone, heq⟩
  · -- in front of the star that was replaced there is none, and so there is none now
    obtain ⟨hfront, -, hjoin⟩ := List.isChain_append.mp hout
    rw [heq]
    refine hfront.append (List.isChain_singleton star) fun f hf g _ hboth => ?_
    exact hjoin f hf last rfl ⟨hboth.1, hlast⟩
  · rwa [heq]
  · rw [heq]
    refine hout.append (List.isChain_singleton star) fun f hf g _ hboth => ?_
    rw [Option.mem_def.mp hf] at hnone
    exact Bool.eq_false_iff.mp hnone hboth.1

/-- Side by side no two stars are gathered. -/
theorem isChain_emit {out : List (List Char)} (hout : out.IsChain NotBothStars) (t : Token) :
    (emit out t).IsChain NotBothStars := by
  by_cases ht : t.isStar = true
  · rw [emit, if_pos ht]
    exact isChain_appendStar hout _
  · rw [emit, if_neg ht]
    exact isChain_append_of_not_star hout (Token.isStarText_eq_false (Bool.eq_false_iff.mpr ht))

theorem countP_appendStar_le (out : List (List Char)) (star : List Char) :
    (appendStar out star).countP isStarText ≤ out.countP isStarText + 1 := by
  have hone : ∀ text : List Char, [text].countP isStarText ≤ 1 := fun text =>
    List.countP_le_length
  rcases appendStar_cases out star with ⟨front, last, rfl, -, heq | heq⟩ | ⟨-, heq⟩
  · rw [heq, List.countP_append, List.countP_append]
    have hstar := hone star
    omega
  · rw [heq]
    exact Nat.le_succ _
  · rw [heq, List.countP_append]
    exact Nat.add_le_add_left (hone star) _

/-- A star that is gathered counts as a wildcard. -/
theorem countP_emit_le (out : List (List Char)) (t : Token) :
    (emit out t).countP isStarText ≤ out.countP isStarText + t.weight := by
  by_cases ht : t.isStar = true
  · have hweight : 1 ≤ t.weight := by
      rcases Token.isStar_eq_true_iff.mp ht with rfl | rfl <;> decide
    rw [emit, if_pos ht]
    exact Nat.le_trans (countP_appendStar_le out _) (Nat.add_le_add_left hweight _)
  · have hnone : t.texts.countP isStarText = 0 := List.countP_eq_zero.mpr fun text htext =>
      Bool.eq_false_iff.mp (Token.isStarText_eq_false (Bool.eq_false_iff.mpr ht) text htext)
    rw [emit, if_neg ht, List.countP_append, hnone]
    exact Nat.le_add_right _ _

/-! ### What gathering all of them keeps -/

theorem isChain_foldl_emit (ts : List Token) {out : List (List Char)}
    (hout : out.IsChain NotBothStars) : (ts.foldl emit out).IsChain NotBothStars := by
  induction ts generalizing out with
  | nil => exact hout
  | cons t ts ih => exact ih (isChain_emit hout t)

theorem countP_foldl_emit_le (ts : List Token) (out : List (List Char)) :
    (ts.foldl emit out).countP isStarText ≤
      out.countP isStarText + ts.foldr (fun t n => t.weight + n) 0 := by
  induction ts generalizing out with
  | nil => exact Nat.le_refl _
  | cons t ts ih =>
    rw [List.foldl_cons, List.foldr_cons]
    have hrest := ih (emit out t)
    have hstep := countP_emit_le out t
    omega

theorem flatten_emitted (body : List Char) :
    (emitted body).flatten = (mergeStars (tokens body)).flatMap fun t => t.write?.getD [] := by
  rw [emitted, (foldl_emit_eq (tokens body) []).1 rfl, List.nil_append]
  induction mergeStars (tokens body) with
  | nil => rfl
  | cons t ts ih => rw [List.flatMap_cons, List.flatten_append, ih, t.flatten_texts]; rfl

/-! ### Shortening runs of stars -/

/-- The text with two stars in place of each run of two or more that no backslash escapes.  So
many stars stand directly before the text. -/
def shortened (stars : Nat) : List Char → List Char
  | '*' :: rest =>
    if stars < 2 then '*' :: shortened (stars + 1) rest else shortened (stars + 1) rest
  | '\\' :: c :: rest => '\\' :: c :: shortened 0 rest
  | c :: rest => c :: shortened 0 rest
  | [] => []

theorem shortened_cons {c : Char} (hc : c ∉ ['*', '\\']) (stars : Nat) (rest : List Char) :
    shortened stars (c :: rest) = c :: shortened 0 rest := by
  simp only [List.mem_cons, List.not_mem_nil, or_false, not_or] at hc
  rw [shortened]
  · exact hc.1
  · rintro d rest' rfl
    exact absurd rfl hc.2

theorem shortened_of_head? {rest : List Char} (h : rest.head? ≠ some '*') (stars : Nat) :
    shortened stars rest = shortened 0 rest := by
  cases rest with
  | nil => rfl
  | cons c rest =>
    have hc : c ≠ '*' := by simpa using h
    by_cases hslash : c = '\\'
    · subst hslash
      cases rest with
      | nil => rfl
      | cons d rest => rfl
    · rw [shortened_cons (by simp [hc, hslash]), shortened_cons (by simp [hc, hslash])]

theorem shortened_replicate (stars n : Nat) (rest : List Char) :
    shortened stars (List.replicate n '*' ++ rest) =
      List.replicate (min n (2 - stars)) '*' ++ shortened (stars + n) rest := by
  induction n generalizing stars with
  | zero => simp
  | succ n ih =>
    have hsum : stars + 1 + n = stars + (n + 1) := by omega
    rw [List.replicate_succ, List.cons_append, shortened, ih, hsum]
    by_cases h : stars < 2
    · have hmin : min (n + 1) (2 - stars) = min n (2 - (stars + 1)) + 1 := by omega
      rw [if_pos h, hmin, List.replicate_succ, List.cons_append]
    · have hmin : min n (2 - (stars + 1)) = min (n + 1) (2 - stars) := by omega
      rw [if_neg h, hmin]

/-- A run of two stars or more becomes two, and a star alone remains. -/
theorem shortened_stars {rest : List Char} (h : rest.head? ≠ some '*') (n : Nat) :
    shortened 0 (List.replicate n '*' ++ rest) =
      List.replicate (min n 2) '*' ++ shortened 0 rest := by
  rw [shortened_replicate, shortened_of_head? h]

theorem shortened_append {text : List Char} (h : ∀ c ∈ text, c ∉ ['*', '\\'])
    (rest : List Char) : shortened 0 (text ++ rest) = text ++ shortened 0 rest := by
  induction text with
  | nil => rfl
  | cons c text ih =>
    obtain ⟨hc, htext⟩ := List.forall_mem_cons.mp h
    rw [List.cons_append, shortened_cons hc, ih htext]
    rfl

theorem head?_shortened (text : List Char) : (shortened 0 text).head? = text.head? := by
  fun_cases shortened 0 text <;> simp_all

theorem length_shortened_le (stars : Nat) (text : List Char) :
    (shortened stars text).length ≤ text.length := by
  fun_induction shortened stars text <;> grind

/-- Shortening takes no wildcard character away that was the only one of its kind. -/
theorem hasWildcards_shortened {stars : Nat} (h : stars < 2) (text : List Char) :
    hasWildcards (shortened stars text) = hasWildcards text := by
  fun_induction shortened stars text <;> simp_all [hasWildcards]

theorem shortened_of_not_mem {text : List Char} (h : '*' ∉ text) (stars : Nat) :
    shortened stars text = text := by
  fun_induction shortened stars text <;> simp_all

/-! ### Classes in a shortened text -/

theorem CharClass.toLower_mem_lowerAfter {c : Char} {name : List Char} (hc : c ∈ name)
    (hascii : c.toNat < 0x80) (before : List Char) : c.toLower ∈ Text.lowerAfter before name := by
  induction name generalizing before with
  | nil => cases hc
  | cons d name ih =>
    rw [Text.lowerAfter, List.mem_append]
    rcases List.mem_cons.mp hc with rfl | hc
    · have hsigma : c ≠ 'Σ' := by
        rintro rfl
        exact absurd hascii (by decide)
      rw [if_neg hsigma, Text.lowerChar_of_ascii hascii]
      exact .inl (List.mem_singleton.mpr rfl)
    · exact .inr (ih hc _)

/-- The name of a class has neither a star nor a backslash, whatever it is lowered from. -/
theorem CharClass.not_mem_of_ofName? {name : List Char} {cls : CharClass}
    (h : ofName? name = some cls) : ∀ c ∈ name, c ∉ ['*', '\\'] := by
  intro c hc hmem
  have hname : cls.name.toList = Text.lower name := by
    simpa using List.find?_some h
  have hletters : '*' ∉ cls.name.toList ∧ '\\' ∉ cls.name.toList := by
    cases cls <;> decide
  rw [hname] at hletters
  simp only [List.mem_cons, List.not_mem_nil, or_false] at hmem
  rcases hmem with rfl | rfl
  · exact hletters.1 (toLower_mem_lowerAfter hc (by decide) [])
  · exact hletters.2 (toLower_mem_lowerAfter hc (by decide) [])

/-- The first closing bracket of a shortened text is that of the text, and a colon in front of
it was there before: what is left out stands behind a star.  Directly before the text stands `c`. -/
theorem exists_close_of_shortened {stars : Nat} {c : Char} {text inner tail : List Char}
    (hc : 0 < stars → c = '*') (h : shortened stars text = inner ++ ']' :: tail)
    (hmem : ']' ∉ inner) (hlast : (c :: inner).getLast? = some ':') :
    ∃ inner' tail', text = inner' ++ ']' :: tail' ∧ ']' ∉ inner' ∧
      (c :: inner').getLast? = some ':' := by
  fun_induction shortened stars text generalizing c inner with
  | case1 stars rest hlt ih =>
    cases inner with
    | nil => cases h
    | cons d inner =>
      obtain ⟨rfl, hrest⟩ := List.cons_eq_cons.mp h
      rw [List.mem_cons, not_or] at hmem
      rw [List.getLast?_cons_cons] at hlast
      obtain ⟨inner', tail', rfl, hmem', hlast'⟩ := ih (fun _ => rfl) hrest hmem.2 hlast
      exact ⟨'*' :: inner', tail', rfl, by simp [hmem'], by rwa [List.getLast?_cons_cons]⟩
  | case2 stars rest hlt ih =>
    -- the star that is left out stands behind a star, so no colon is in front of a new bracket
    obtain rfl := hc (by omega)
    obtain ⟨inner', tail', rfl, hmem', hlast'⟩ := ih (fun _ => rfl) h hmem hlast
    exact ⟨'*' :: inner', tail', rfl, by simp [hmem'], by rwa [List.getLast?_cons_cons]⟩
  | case3 stars d rest ih =>
    match inner with
    | [] => cases h
    | [e] =>
      -- a bracket behind a backslash has no colon in front of it
      obtain ⟨rfl, -⟩ := List.cons_eq_cons.mp h
      simp at hlast
    | e :: f :: inner =>
      obtain ⟨rfl, hrest⟩ := List.cons_eq_cons.mp h
      obtain ⟨rfl, htail⟩ := List.cons_eq_cons.mp hrest
      rw [List.mem_cons, List.mem_cons, not_or, not_or] at hmem
      rw [List.getLast?_cons_cons, List.getLast?_cons_cons] at hlast
      obtain ⟨inner', tail', rfl, hmem', hlast'⟩ := ih (by simp) htail hmem.2.2 hlast
      refine ⟨'\\' :: d :: inner', tail', rfl, by simp [hmem, hmem'], ?_⟩
      rwa [List.getLast?_cons_cons, List.getLast?_cons_cons]
  | case4 stars d rest hstar hslash ih =>
    cases inner with
    | nil =>
      obtain ⟨rfl, -⟩ := List.cons_eq_cons.mp h
      exact ⟨[], rest, rfl, hmem, hlast⟩
    | cons e inner =>
      obtain ⟨rfl, hrest⟩ := List.cons_eq_cons.mp h
      rw [List.mem_cons, not_or] at hmem
      rw [List.getLast?_cons_cons] at hlast
      obtain ⟨inner', tail', rfl, hmem', hlast'⟩ := ih (by simp) hrest hmem.2 hlast
      refine ⟨d :: inner', tail', rfl, by simp [hmem, hmem'], ?_⟩
      rwa [List.getLast?_cons_cons]
  | case5 => cases inner <;> cases h

/-- Shortening makes no class where there was none. -/
theorem Token.classInner?_shortened {rest : List Char} (h : classInner? rest = none) :
    classInner? (shortened 0 rest) = none := by
  rw [Option.eq_none_iff_forall_ne_some]
  intro inner hinner
  obtain ⟨tail, htext, hmem, hlast⟩ := classInner?_eq_some_iff.mp hinner
  obtain ⟨inner', tail', htext', hmem', hlast'⟩ :=
    exists_close_of_shortened (fun hpos => absurd hpos (Nat.lt_irrefl 0)) htext hmem hlast
  rw [classInner?_eq_some_iff.mpr ⟨tail', htext', hmem', hlast'⟩] at h
  cases h

theorem exists_of_shortened_eq_cons {c : Char} (hc : c ∉ ['*', '\\']) {text rest : List Char}
    (h : shortened 0 text = c :: rest) :
    ∃ tail, text = c :: tail ∧ shortened 0 tail = rest := by
  have hhead := head?_shortened text
  rw [h] at hhead
  obtain ⟨tail, rfl⟩ := List.head?_eq_some_iff.mp hhead.symm
  rw [shortened_cons hc] at h
  exact ⟨tail, rfl, (List.cons_eq_cons.mp h).2⟩

/-! ### The tokens of a shortened text -/

/-- The token of a text, and the text behind it, when the text is shortened. -/
structure Keeps (c : Char) (tail tail' : List Char) : Prop where
  shortened_eq : shortened 0 (c :: tail) = c :: tail'
  first_eq : Token.first true c tail' = Token.first true c tail
  drop_eq : (c :: tail').drop (Token.first true c tail).width =
    shortened 0 ((c :: tail).drop (Token.first true c tail).width)

/-- What a class of a known name holds is neither a star nor a backslash. -/
theorem CharClass.not_mem_of_ofName?_dropLast {inner : List Char}
    (hlast : (':' :: inner).getLast? = some ':')
    (hknown : (ofName? inner.dropLast).isSome = true) : ∀ c ∈ inner, c ∉ ['*', '\\'] := by
  obtain ⟨cls, hcls⟩ := Option.isSome_iff_exists.mp hknown
  rcases List.eq_nil_or_concat inner with rfl | ⟨name, d, rfl⟩
  · exact List.forall_mem_nil _
  · rw [List.concat_eq_append] at hlast hcls ⊢
    rw [← List.cons_append, List.getLast?_concat, Option.some.injEq] at hlast
    rw [List.dropLast_concat] at hcls
    intro c hc
    rcases List.mem_append.mp hc with hc | hc
    · exact not_mem_of_ofName? hcls c hc
    · obtain rfl := List.mem_singleton.mp hc
      rw [hlast]
      decide

theorem exists_keeps_class {inner behind : List Char} (hmem : ']' ∉ inner)
    (hlast : (':' :: inner).getLast? = some ':')
    (hknown : (CharClass.ofName? inner.dropLast).isSome = true) :
    ∃ tail', Keeps '[' ('[' :: ':' :: (inner ++ ']' :: behind)) tail' := by
  have hinner := CharClass.not_mem_of_ofName?_dropLast hlast hknown
  have hshort : shortened 0 ('[' :: '[' :: ':' :: (inner ++ ']' :: behind)) =
      '[' :: '[' :: ':' :: (inner ++ ']' :: shortened 0 behind) := by
    rw [shortened_cons (by decide), shortened_cons (by decide), shortened_cons (by decide),
      shortened_append hinner, shortened_cons (by decide)]
  refine ⟨'[' :: ':' :: (inner ++ ']' :: shortened 0 behind), hshort, ?_, ?_⟩
  · rw [Token.first_class hmem hlast, Token.first_class hmem hlast, head?_shortened]
  · -- a class takes the bracket right behind it along, and that is no star
    rw [Token.first_class hmem hlast, Token.drop_class, ← head?_shortened behind,
      Token.drop_class]
    by_cases hclosed : behind.head? = some ']'
    · obtain ⟨rest, rfl⟩ := List.head?_eq_some_iff.mp hclosed
      rw [shortened_cons (by decide)]
      rfl
    · rw [head?_shortened, if_neg hclosed, if_neg hclosed]

/-- What opens no class opens none when the text is shortened. -/
theorem exists_keeps_bracket {tail : List Char}
    (hnone : ∀ more, tail = '[' :: ':' :: more → Token.classInner? more = none) :
    ∃ tail', Keeps '[' tail tail' := by
  have hnone' : ∀ more, shortened 0 tail = '[' :: ':' :: more → Token.classInner? more = none := by
    intro more hmore
    obtain ⟨rest, rfl, hrest⟩ := exists_of_shortened_eq_cons (by decide) hmore
    obtain ⟨rest, rfl, rfl⟩ := exists_of_shortened_eq_cons (by decide) hrest
    exact Token.classInner?_shortened (hnone rest rfl)
  refine ⟨shortened 0 tail, shortened_cons (by decide) 0 tail, ?_, ?_⟩
  · rw [Token.first_bracket hnone, Token.first_bracket hnone', head?_shortened]
  · rw [Token.first_bracket hnone]
    by_cases hmark : tail.head? = some '!'
    · obtain ⟨tail, rfl⟩ := List.head?_eq_some_iff.mp hmark
      rw [shortened_cons (by decide)]
      rfl
    · rw [Token.width, beq_eq_false_iff_ne.mpr hmark]
      rfl

/-- A text that begins with no star keeps its first token, unless that is a class of unknown
name: in it a run of stars would be shortened, too. -/
theorem exists_keeps {c : Char} (hc : c ≠ '*') {tail : List Char}
    (hknown : (Token.first true c tail).IsKnown) : ∃ tail', Keeps c tail tail' := by
  by_cases hslash : c = '\\'
  · subst hslash
    cases tail with
    | nil => exact ⟨[], rfl, rfl, rfl⟩
    | cons d more =>
      have hwidth : ∀ more, (Token.first true '\\' (d :: more)).width = 2 := by
        intro more
        show (if isEscapable d then Token.escaped d else .kept d).width = 2
        split <;> rfl
      exact ⟨d :: shortened 0 more, rfl, rfl, by rw [hwidth]; rfl⟩
  by_cases hbracket : c = '['
  · subst hbracket
    by_cases hclass : ∃ more inner, tail = '[' :: ':' :: more ∧ Token.classInner? more = some inner
    · obtain ⟨more, inner, rfl, hinner⟩ := hclass
      obtain ⟨behind, rfl, hmem, hlast⟩ := Token.classInner?_eq_some_iff.mp hinner
      rw [Token.first_class hmem hlast] at hknown
      exact exists_keeps_class hmem hlast hknown
    · refine exists_keeps_bracket fun more hmore => ?_
      rw [Option.eq_none_iff_forall_ne_some]
      exact fun inner hinner => hclass ⟨more, inner, hmore, hinner⟩
  · -- no other character looks at what follows it
    have hshort : shortened 0 (c :: tail) = c :: shortened 0 tail :=
      shortened_cons (by simp [hc, hslash]) 0 tail
    have hfirst : ∀ rest, Token.first true c rest = if c = '?' then .single else .plain c := by
      intro rest
      rw [Token.first_of_no_look (by simp [hslash, hbracket]), if_neg hc]
    have hwidth : (if c = '?' then Token.single else .plain c).width = 1 := by
      split <;> rfl
    refine ⟨shortened 0 tail, hshort, by rw [hfirst, hfirst], ?_⟩
    rw [hfirst, hwidth]
    rfl

/-- A run of stars is one wildcard, which its first two stars tell. -/
theorem starOf_min (n : Nat) : starOf (min (n + 1) 2 - 1) = starOf n := by
  cases n with
  | zero => rfl
  | succ n =>
    have hmin : min (n + 1 + 1) 2 - 1 = 1 := by omega
    rw [hmin, starOf, starOf, if_neg (Nat.succ_ne_zero n)]
    rfl

/-- What the tokens of a text become when its runs of stars are shortened: no more wildcards
are counted, and when stars are merged they are the same. -/
theorem exists_counted_shortened {text : List Char} {n : Nat}
    (h : Counted (tokensFrom true 0 text) n) :
    (∃ m ≤ n, Counted (tokensFrom true 0 (shortened 0 text)) m) ∧
      mergeStars (tokensFrom true 0 (shortened 0 text)) = mergeStars (tokensFrom true 0 text) := by
  -- a run of stars is taken at once, so the induction is on the length of the text
  induction hlength : text.length using Nat.strongRecOn generalizing text n with
  | ind length ih =>
    obtain ⟨stars, rest, rfl, hrest⟩ := exists_stars text
    cases stars with
    | succ stars =>
      rw [tokensFrom_stars hrest] at h
      obtain ⟨k, rfl, hk⟩ := counted_of_starTokens_append h
      have hlt : rest.length < length := by
        rw [← hlength, List.length_append, List.length_replicate]
        omega
      obtain ⟨⟨m, hm, hcounted⟩, hmerged⟩ := ih _ hlt hk rfl
      have hrest' : (shortened 0 rest).head? ≠ some '*' := by rwa [head?_shortened]
      have hmin : min (stars + 1) 2 = (min (stars + 1) 2 - 1) + 1 := by omega
      rw [shortened_stars hrest]
      -- the first two stars remain, of which the run is merged into the same star
      constructor
      · rw [tokensFrom_stars hrest']
        exact ⟨_, by omega, counted_starTokens_append hcounted _⟩
      · rw [hmin, mergeStars_tokensFrom_stars hrest', mergeStars_tokensFrom_stars hrest,
          starOf_min, hmerged]
    | zero =>
      cases rest with
      | nil => exact ⟨⟨n, Nat.le_refl n, h⟩, rfl⟩
      | cons c tail =>
        have hc : c ≠ '*' := by simpa using hrest
        simp only [List.replicate_zero, List.nil_append] at h hlength ⊢
        rw [tokensFrom_cons] at h
        obtain ⟨k, rfl, hknown, hk⟩ := h.of_cons
        obtain ⟨tail', hshort, hfirst, hdrop⟩ := exists_keeps hc hknown
        have hpos := Token.width_pos (Token.first true c tail)
        have hlt : ((c :: tail).drop (Token.first true c tail).width).length < length := by
          rw [List.length_drop, hlength]
          rw [List.length_cons] at hlength
          omega
        obtain ⟨⟨m, hm, hcounted⟩, hmerged⟩ := ih _ hlt hk rfl
        rw [← hdrop] at hcounted hmerged
        rw [hshort]
        constructor
        · exact ⟨_, Nat.add_le_add_right hm _, counted_tokensFrom_cons hfirst hknown hcounted⟩
        · rw [mergeStars_tokensFrom_cons hc hfirst, mergeStars_tokensFrom_cons hc rfl, hmerged]

/-! ### Bodies that are accepted -/

theorem wildcardCount_shortened_le {body : List Char} (h : unknownClass? 0 (tokens body) = none) :
    wildcardCount (shortened 0 body) ≤ wildcardCount body ∧
      unknownClass? 0 (tokens (shortened 0 body)) = none ∧
      mergeStars (tokens (shortened 0 body)) = mergeStars (tokens body) := by
  rw [wildcardCount, wildcardCount]
  have hshort : hasWildcards (shortened 0 body) = hasWildcards body :=
    hasWildcards_shortened (by decide) body
  cases hwild : hasWildcards body with
  | false =>
    -- where there is no wildcard there is no star
    have hstar : '*' ∉ body := fun hmem =>
      absurd (List.any_eq_true.mpr ⟨'*', hmem, by decide⟩) (Bool.eq_false_iff.mp hwild)
    rw [shortened_of_not_mem hstar]
    exact ⟨Nat.le_refl _, h, rfl⟩
  | true =>
    have hcounted : Counted (tokens body) ((tokens body).foldr (fun t n => t.weight + n) 0) :=
      ⟨rfl, unknownClass?_eq_none_iff.mp h⟩
    rw [tokens, hwild] at hcounted
    obtain ⟨⟨m, hm, hcounted'⟩, hmerged⟩ := exists_counted_shortened hcounted
    rw [tokens, tokens, hshort, hwild, hcounted'.count_eq]
    exact ⟨hm, unknownClass?_eq_none_iff.mpr hcounted'.known, hmerged⟩

/-- **Runs of stars have one form.**  A body that is accepted is accepted with its runs of
stars shortened to two stars, too, and is written the same; what it is written as are texts of
which no two side by side are stars, and no more than 256 are. -/
theorem writeBody_shortened {body source : List Char} (h : writeBody body = .ok source) :
    writeBody (shortened 0 body) = .ok source ∧ (emitted body).flatten = source ∧
      (emitted body).IsChain NotBothStars ∧ (emitted body).countP isStarText ≤ 256 := by
  obtain ⟨hknown, hlength, hcount, hsource⟩ := writeBody_eq_ok_iff.mp h
  obtain ⟨hle, hknown', hmerged⟩ := wildcardCount_shortened_le hknown
  refine ⟨?_, ?_, isChain_foldl_emit _ List.isChain_nil, ?_⟩
  · have hlength' := Nat.le_trans (length_shortened_le 0 body) hlength
    refine writeBody_eq_ok_iff.mpr ⟨hknown', hlength', Nat.le_trans hle hcount, ?_⟩
    rw [hmerged, hsource]
  · rw [flatten_emitted, hsource]
  · have hstars := countP_foldl_emit_le (tokens body) []
    rw [List.countP_nil, Nat.zero_add] at hstars
    exact Nat.le_trans hstars hcount

/-- An escaped star is in no run, and runs in brackets are shortened like any other. -/
theorem writeBody_shortened_escaped :
    writeBody "\\****a[***]?***[[:digit:]*****]".toList =
        .ok "\\*.*a[.*][^/].*[0-9.*]".toList ∧
      writeBody "\\***a[**]?**[[:digit:]**]".toList =
        .ok "\\*.*a[.*][^/].*[0-9.*]".toList := by
  have hbody : writeBody "\\****a[***]?***[[:digit:]*****]".toList =
      .ok "\\*.*a[.*][^/].*[0-9.*]".toList := by decide +kernel
  have hshort : shortened 0 "\\****a[***]?***[[:digit:]*****]".toList =
      "\\***a[**]?**[[:digit:]**]".toList := by decide
  exact ⟨hbody, hshort ▸ (writeBody_shortened hbody).1⟩

end ExcludeRules.Rule
