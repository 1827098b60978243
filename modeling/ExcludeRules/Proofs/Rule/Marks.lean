/-
Wildcards that are written as bracket expressions.

A question mark and a star that stands alone keep out the slash, and the text written
for them has brackets of its own; two stars and more are written without.  So these
two are all that matters between brackets.  Main statements:
  * `exists_leavesOpen`, `forall_glyphs_ne_close` : where they are missing, nothing closes a
    bracket, token by token and in a whole text;
  * `writesBracket_iff` : they are the tokens for a character and for a segment;
  * `mem_chars_iff` : where they are missing, a text is written with its characters.
-/
import ExcludeRules.Proofs.Rule.Cutting
import ExcludeRules.Proofs.Rule.Wildcards

namespace ExcludeRules.Rule

open Expression (Glyph)

/-- Whether a text holds a question mark, or a star that stands alone, and no backslash
escapes it.  So many stars stand directly before the text. -/
def writesBracket (stars : Nat) : List Char → Bool
  | '*' :: rest => writesBracket (stars + 1) rest
  | '\\' :: _ :: rest => stars == 1 || writesBracket 0 rest
  | c :: rest => stars == 1 || c == '?' || writesBracket 0 rest
  | [] => stars == 1

theorem writesBracket_replicate (stars n : Nat) (rest : List Char) :
    writesBracket stars (List.replicate n '*' ++ rest) = writesBracket (stars + n) rest := by
  induction n generalizing stars with
  | zero => rfl
  | succ n ih =>
    rw [List.replicate_succ, List.cons_append, writesBracket, ih]
    congr 1
    omega

/-- Stars in front of a text that go on in it no further are told from their number. -/
theorem writesBracket_of_head? {rest : List Char} (h : rest.head? ≠ some '*') (stars : Nat) :
    writesBracket stars rest = (stars == 1 || writesBracket 0 rest) := by
  cases rest with
  | nil => simp [writesBracket]
  | cons c rest =>
    have hc : c ≠ '*' := by simpa using h
    by_cases hslash : c = '\\'
    · subst hslash
      cases rest with
      | nil => simp [writesBracket]
      | cons d rest => simp [writesBracket]
    · simp [writesBracket, hslash, Bool.or_assoc]

theorem writesBracket_stars {rest : List Char} (h : rest.head? ≠ some '*') (n : Nat) :
    writesBracket 0 (List.replicate (n + 1) '*' ++ rest) = (n == 0 || writesBracket 0 rest) := by
  have hone : (n + 1 == 1) = (n == 0) := by
    cases n with
    | zero => rfl
    | succ n => rfl
  rw [writesBracket_replicate, writesBracket_of_head? h, Nat.zero_add, hone]

theorem writesBracket_cons {c : Char} (hc : c ∉ ['*', '?', '\\']) (rest : List Char) :
    writesBracket 0 (c :: rest) = writesBracket 0 rest := by
  simp only [List.mem_cons, List.not_mem_nil, or_false, not_or] at hc
  simp [writesBracket, hc]

/-- Without stars and question marks there is none. -/
theorem writesBracket_of_literal {text : List Char} (h : ∀ c ∈ text, c ∉ ['*', '?', '\\']) :
    writesBracket 0 text = false := by
  induction text with
  | nil => rfl
  | cons c text ih =>
    obtain ⟨hc, htext⟩ := List.forall_mem_cons.mp h
    rw [writesBracket_cons hc, ih htext]

/-- What is left of a text behind its first token, stars merged, if nothing of that token is
written with a closing bracket. -/
structure LeavesOpen (text rest : List Char) (t : Token) : Prop where
  merged : mergeStars (tokensFrom true 0 text) = t :: mergeStars (tokensFrom true 0 rest)
  length_lt : rest.length < text.length
  no_close : ']' ∉ rest
  no_marks : writesBracket 0 rest = false
  glyphs_ne : ∀ g ∈ t.glyphs, g ≠ .plain ']'

theorem leavesOpen_of_first {c : Char} {tail : List Char} {t : Token} (hc : c ≠ '*')
    (hfirst : Token.first true c tail = t) (hclose : ']' ∉ c :: tail)
    (hmarks : writesBracket 0 ((c :: tail).drop t.width) = false)
    (hglyphs : ∀ g ∈ t.glyphs, g ≠ .plain ']') :
    LeavesOpen (c :: tail) ((c :: tail).drop t.width) t := by
  refine ⟨mergeStars_tokensFrom_cons hc hfirst, ?_, ?_, hmarks, hglyphs⟩
  · have hpos := t.width_pos
    rw [List.length_drop, List.length_cons]
    omega
  · exact fun hmem => hclose (List.mem_of_mem_drop hmem)

/-- A run of stars leaves open: a star alone would be written with a closing bracket. -/
theorem leavesOpen_stars {n : Nat} {rest : List Char} (hrest : rest.head? ≠ some '*')
    (hclose : ']' ∉ rest) (hmarks : writesBracket 0 (List.replicate (n + 1) '*' ++ rest) = false) :
    LeavesOpen (List.replicate (n + 1) '*' ++ rest) rest (starOf n) := by
  rw [writesBracket_stars hrest, Bool.or_eq_false_iff] at hmarks
  obtain ⟨hone, hmarks⟩ := hmarks
  have hn : n ≠ 0 := by simpa using hone
  refine ⟨mergeStars_tokensFrom_stars hrest n, ?_, hclose, hmarks, ?_⟩
  · rw [List.length_append, List.length_replicate]
    omega
  · rw [starOf, if_neg hn]
    decide

theorem exists_leavesOpen_backslash {tail : List Char} (hclose : ']' ∉ '\\' :: tail)
    (hmarks : writesBracket 0 ('\\' :: tail) = false) :
    ∃ rest t, LeavesOpen ('\\' :: tail) rest t := by
  cases tail with
  | nil => exact ⟨_, .backslash, leavesOpen_of_first (by decide) rfl hclose rfl (by decide)⟩
  | cons e tail =>
    have hpair : writesBracket 0 tail = false := by simpa [writesBracket] using hmarks
    by_cases he : isEscapable e = true
    · have hfirst : Token.first true '\\' (e :: tail) = .escaped e := by
        simp [Token.first, he]
      exact ⟨_, _, leavesOpen_of_first (by decide) hfirst hclose hpair (by simp [Token.glyphs])⟩
    · have hfirst : Token.first true '\\' (e :: tail) = .kept e := by
        simp [Token.first, he]
      have hne : e ≠ ']' := by
        rintro rfl
        exact hclose (by simp)
      exact ⟨_, _, leavesOpen_of_first (by decide) hfirst hclose hpair
        (by simp [Token.glyphs, Token.glyphOf_ne hne])⟩

/-- A bracket that is never closed opens no class, so its token is the bracket and the mark
that negates it. -/
theorem exists_leavesOpen_bracket {tail : List Char} (hclose : ']' ∉ '[' :: tail)
    (hmarks : writesBracket 0 ('[' :: tail) = false) :
    ∃ rest t, LeavesOpen ('[' :: tail) rest t := by
  rw [writesBracket_cons (by decide)] at hmarks
  have hfirst := @Token.first_open true tail fun hmem => hclose (List.mem_cons_of_mem _ hmem)
  by_cases hmark : tail.head? = some '!'
  · obtain ⟨tail, rfl⟩ := List.head?_eq_some_iff.mp hmark
    rw [beq_iff_eq.mpr hmark] at hfirst
    rw [writesBracket_cons (by decide)] at hmarks
    exact ⟨_, _, leavesOpen_of_first (by decide) hfirst hclose hmarks (by decide)⟩
  · rw [beq_eq_false_iff_ne.mpr hmark] at hfirst
    exact ⟨_, _, leavesOpen_of_first (by decide) hfirst hclose hmarks (by decide)⟩

theorem leavesOpen_plain {c : Char} {tail : List Char} (hc : c ∉ ['*', '?', '[', '\\'])
    (hclose : ']' ∉ c :: tail) (hmarks : writesBracket 0 (c :: tail) = false) :
    LeavesOpen (c :: tail) tail (.plain c) := by
  have hne : c ≠ ']' := by
    rintro rfl
    exact hclose (List.mem_cons_self ..)
  have hfirst := @Token.first_plain true _ hc tail
  simp only [List.mem_cons, List.not_mem_nil, or_false, not_or] at hc
  rw [writesBracket_cons (by simp [hc])] at hmarks
  exact leavesOpen_of_first hc.1 hfirst hclose hmarks (by simp [Token.glyphs, Token.glyphOf_ne hne])

theorem exists_leavesOpen {c : Char} {tail : List Char} (hclose : ']' ∉ c :: tail)
    (hmarks : writesBracket 0 (c :: tail) = false) :
    ∃ rest t, LeavesOpen (c :: tail) rest t := by
  by_cases hspecial : c ∈ ['*', '?', '[', '\\']
  · simp only [List.mem_cons, List.not_mem_nil, or_false] at hspecial
    rcases hspecial with rfl | rfl | rfl | rfl
    · obtain ⟨n, rest, rfl, hrest⟩ := exists_stars tail
      have hbehind : ']' ∉ rest := fun hmem =>
        hclose (List.mem_cons_of_mem _ (List.mem_append_right _ hmem))
      exact ⟨rest, starOf n, leavesOpen_stars hrest hbehind hmarks⟩
    · cases hmarks
    · exact exists_leavesOpen_bracket hclose hmarks
    · exact exists_leavesOpen_backslash hclose hmarks
  · exact ⟨tail, .plain c, leavesOpen_plain hspecial hclose hmarks⟩

/-- Where brackets are not closed, no token is written with a closing bracket but a question
mark and a star that stands alone. -/
theorem forall_glyphs_ne_close {text : List Char} (hclose : ']' ∉ text)
    (hmarks : writesBracket 0 text = false) :
    ∀ t ∈ mergeStars (tokensFrom true 0 text), ∀ g ∈ t.glyphs, g ≠ .plain ']' := by
  induction hn : text.length using Nat.strongRecOn generalizing text with
  | ind n ih =>
    cases text with
    | nil => simp [tokensFrom, mergeStars]
    | cons c tail =>
      -- what is left behind the first token is again without either mark
      obtain ⟨rest, t, hleaves⟩ := exists_leavesOpen hclose hmarks
      have hlength : rest.length < n := hn ▸ hleaves.length_lt
      rw [hleaves.merged]
      exact List.forall_mem_cons.mpr
        ⟨hleaves.glyphs_ne, ih _ hlength hleaves.no_close hleaves.no_marks rfl⟩

/-! ### Texts without brackets and backslashes -/

/-- A text is read run by run of stars, and elsewhere character by character. -/
theorem starRuns_induction {P : List Char → Prop} (hnil : P [])
    (hstars : ∀ n rest, rest.head? ≠ some '*' → P rest → P (List.replicate (n + 1) '*' ++ rest))
    (hcons : ∀ c rest, c ≠ '*' → P rest → P (c :: rest)) (text : List Char) : P text := by
  induction hn : text.length using Nat.strongRecOn generalizing text with
  | ind n ih =>
    cases text with
    | nil => exact hnil
    | cons c tail =>
      by_cases hc : c = '*'
      · subst hc
        obtain ⟨m, rest, rfl, hrest⟩ := exists_stars tail
        have hlength : rest.length < n := by
          rw [← hn, List.length_cons, List.length_append]
          omega
        exact hstars m rest hrest (ih _ hlength rest rfl)
      · have hlength : tail.length < n := by
          rw [← hn]
          exact Nat.lt_succ_self _
        exact hcons c tail hc (ih _ hlength tail rfl)

/-- What the first token is where no run of stars begins. -/
theorem mergeStars_tokensFrom_of_no_look {c : Char} (hc : c ∉ ['*', '[', '\\'])
    (rest : List Char) :
    mergeStars (tokensFrom true 0 (c :: rest)) =
      (if c = '?' then .single else .plain c) :: mergeStars (tokensFrom true 0 rest) := by
  simp only [List.mem_cons, List.not_mem_nil, or_false, not_or] at hc
  have hfirst : Token.first true c rest = if c = '?' then .single else .plain c := by
    rw [Token.first_of_no_look (by simp [hc]), if_neg hc.1]
  by_cases hmark : c = '?'
  · rw [if_pos hmark] at hfirst ⊢
    exact mergeStars_tokensFrom_cons hc.1 hfirst
  · rw [if_neg hmark] at hfirst ⊢
    exact mergeStars_tokensFrom_cons hc.1 hfirst

/-- A token for one character or for a segment keeps out the slash by a bracket expression. -/
def Token.Closes (t : Token) : Prop := t = single ∨ t = segment

/-- Of a text without brackets and backslashes it can be told whether such a token is in it. -/
theorem writesBracket_iff {text : List Char} (h : ∀ c ∈ text, c ∉ ['[', '\\']) :
    writesBracket 0 text = true ↔ ∃ t ∈ mergeStars (tokensFrom true 0 text), t.Closes := by
  induction text using starRuns_induction with
  | hnil => simp [writesBracket, tokensFrom, mergeStars]
  | hstars n rest hrest ih =>
    have ih := ih fun c hc => h c (List.mem_append_right _ hc)
    simp only [writesBracket_stars hrest, mergeStars_tokensFrom_stars hrest, List.mem_cons,
      exists_eq_or_imp, Bool.or_eq_true, ih]
    refine or_congr_left ?_
    by_cases hn : n = 0
    · simp [hn, starOf, Token.Closes]
    · simp [hn, starOf, Token.Closes]
  | hcons c rest hc ih =>
    obtain ⟨hlook, hrest⟩ := List.forall_mem_cons.mp h
    have ih := ih hrest
    simp only [List.mem_cons, List.not_mem_nil, or_false, not_or] at hlook
    rw [mergeStars_tokensFrom_of_no_look (by simp [hc, hlook])]
    simp only [List.mem_cons, exists_eq_or_imp, ← ih]
    by_cases hmark : c = '?'
    · simp [hmark, writesBracket, Token.Closes]
    · rw [writesBracket_cons (by simp [hc, hmark, hlook])]
      simp [hmark, Token.Closes]

/-- The characters that the glyphs of a text stand for, stars merged. -/
def chars (text : List Char) : List Char :=
  ((mergeStars (tokensFrom true 0 text)).flatMap Token.glyphs).map Glyph.char

/-- Where nothing is written with a closing bracket these are the characters of the text,
but for the dot that stands in front of two stars. -/
theorem mem_chars_iff {text : List Char} (h : ∀ c ∈ text, c ∉ ['[', '\\'])
    (hmarks : writesBracket 0 text = false) {d : Char} (hd : d ≠ '.') :
    d ∈ chars text ↔ d ∈ text := by
  induction text using starRuns_induction with
  | hnil => simp [chars, tokensFrom, mergeStars]
  | hstars n rest hrest ih =>
    rw [writesBracket_stars hrest, Bool.or_eq_false_iff] at hmarks
    have ih := ih (fun c hc => h c (List.mem_append_right _ hc)) hmarks.2
    have hn : n ≠ 0 := by simpa using hmarks.1
    -- a run of two stars or more is written with a dot and one star
    have hchars : chars (List.replicate (n + 1) '*' ++ rest) = '.' :: '*' :: chars rest := by
      rw [chars, mergeStars_tokensFrom_stars hrest, starOf, if_neg hn]
      rfl
    rw [hchars, List.mem_cons, List.mem_cons, ih, List.mem_append, List.mem_replicate]
    simp [hd]
  | hcons c rest hc ih =>
    obtain ⟨hlook, hrest⟩ := List.forall_mem_cons.mp h
    simp only [List.mem_cons, List.not_mem_nil, or_false, not_or] at hlook
    have hmark : c ≠ '?' := by
      rintro rfl
      cases hmarks
    rw [writesBracket_cons (by simp [hc, hmark, hlook])] at hmarks
    have hchars : chars (c :: rest) = c :: chars rest := by
      rw [chars, mergeStars_tokensFrom_of_no_look (by simp [hc, hlook]), if_neg hmark,
        List.flatMap_cons, List.map_append]
      show [(Token.glyphOf c).char] ++ chars rest = c :: chars rest
      rw [Token.char_glyphOf]
      rfl
    rw [hchars, List.mem_cons, List.mem_cons, ih hrest hmarks]

end ExcludeRules.Rule
