/-
What the tokens of a rule become when their expression is read.

A token is written as whole glyphs.  Outside of brackets most tokens are atoms;
between brackets a token only adds members, or closes the brackets and is then
part of one set.  Whatever the body of a rule holds, what it reads as is thus a
list of atoms: nothing of it looks at its surroundings, opens a group or repeats
what stands before it.  Main statements:
  * `tokens_sound` : the characters of tokens are of the kind that the token says;
  * `glyphs_write` : the glyphs that a token is written with;
  * `run_of_atoms?` : what a token is outside of brackets;
  * `ends_run_glyphs` : a token completes atoms, wherever it stands;
  * `reads_or_unclosed` : a body is a list of atoms, or it leaves brackets open.
-/
import ExcludeRules.Proofs.Expression.Parts
import ExcludeRules.Rule.Basic

namespace ExcludeRules.Rule

open Expression (Glyph Mode Atom Piece Fault)

/-! ### The characters of tokens -/

namespace Token

/-- The character of a token is one that the token can hold. -/
def Sound : Token → Prop
  | escaped c => isEscapable c = true
  | kept c => isEscapable c = false
  | plain c => c ∉ ['*', '?', '\\', '[']
  | _ => True

theorem sound_first (wild : Bool) (c : Char) (rest : List Char) : (first wild c rest).Sound := by
  unfold first
  split
  case h_4 _ _ e tail =>
    cases wild with
    | false => trivial
    | true =>
      by_cases he : isEscapable e = true
      · simp [he, Sound]
      · simp [he, Sound]
  case h_6 _ _ rest =>
    cases classInner? rest <;> trivial
  case h_9 _ _ hstar hmark hbracket hstars hpair hend hclass hnot =>
    -- a backslash was taken by the cases before, whether a character follows it or not
    have hslash : c ≠ '\\' := by
      rintro rfl
      cases rest with
      | nil => exact hend rfl rfl
      | cons e tail => exact hpair e tail rfl rfl
    simp only [Sound, List.mem_cons, List.not_mem_nil, or_false, not_or]
    exact ⟨hstar, hmark, hslash, hbracket⟩
  all_goals trivial

theorem merge_eq (t u : Token) : t.merge u = segment ∨ t.merge u = anything := by
  unfold merge
  split
  · exact .inl rfl
  · exact .inr rfl

end Token

theorem tokensFrom_sound (wild : Bool) (skip : Nat) (text : List Char) :
    ∀ t ∈ tokensFrom wild skip text, t.Sound := by
  fun_induction tokensFrom wild skip text with
  | case1 => simp
  | case2 skip c rest ih => exact ih
  | case3 c rest t ih =>
    intro u hu
    rcases List.mem_cons.mp hu with rfl | hu
    · exact Token.sound_first wild c rest
    · exact ih u hu

theorem tokens_sound (body : List Char) : ∀ t ∈ tokens body, t.Sound :=
  tokensFrom_sound (hasWildcards body) 0 body

/-- What holds of the tokens and of stars holds of the tokens in which stars are merged. -/
theorem forall_mem_mergeStars {P : Token → Prop} (hsegment : P .segment) (hanything : P .anything)
    {ts : List Token} (h : ∀ t ∈ ts, P t) : ∀ t ∈ mergeStars ts, P t := by
  induction ts with
  | nil => simp [mergeStars]
  | cons t ts ih =>
    obtain ⟨ht, hts⟩ := List.forall_mem_cons.mp h
    have ih := ih hts
    rw [mergeStars]
    cases hmerged : mergeStars ts with
    | nil => simpa using ht
    | cons u us =>
      rw [hmerged] at ih
      obtain ⟨hu, hus⟩ := List.forall_mem_cons.mp ih
      by_cases hstar : (t.isStar && u.isStar) = true
      · have hmerge : P (t.merge u) := by
          rcases t.merge_eq u with heq | heq
          · exact heq ▸ hsegment
          · exact heq ▸ hanything
        simp only [hstar, if_true]
        exact List.forall_mem_cons.mpr ⟨hmerge, hus⟩
      · simp only [hstar]
        exact List.forall_mem_cons.mpr ⟨ht, List.forall_mem_cons.mpr ⟨hu, hus⟩⟩

theorem mergeStars_sound {ts : List Token} (h : ∀ t ∈ ts, t.Sound) :
    ∀ t ∈ mergeStars ts, t.Sound :=
  forall_mem_mergeStars trivial trivial h

/-! ### The glyphs of tokens -/

namespace CharClass

/-- The members of a class, each with those up to which it ranges. -/
def ranges : CharClass → List (Char × Char)
  | alnum => [('a', 'z'), ('A', 'Z'), ('0', '9')]
  | alpha => [('a', 'z'), ('A', 'Z')]
  | ascii => [('\x00', '\x7f')]
  | blank => [(' ', ' '), ('\t', '\t')]
  | cntrl => [('\x00', '\x1f'), ('\x7f', '\x7f')]
  | digit => [('0', '9')]
  | graph => [('!', '~')]
  | lower => [('a', 'z')]
  | print => [(' ', '~')]
  | punct => "!\"#$%&'()*+,-./:;<=>?@[\\]^_`\x7b|\x7d~".toList.map fun c => (c, c)
  | space => [' ', '\t', '\r', '\n', '\x0b', '\x0c'].map fun c => (c, c)
  | upper => [('A', 'Z')]
  | word => [('A', 'Z'), ('a', 'z'), ('0', '9'), ('_', '_')]
  | xdigit => [('A', 'F'), ('a', 'f'), ('0', '9')]

/-- The glyphs of the members of a class. -/
def glyphs (cls : CharClass) : List Glyph :=
  (Expression.glyphs cls.members.toList).toOption.getD []

theorem glyphs_members (cls : CharClass) :
    Expression.glyphs cls.members.toList = .ok cls.glyphs := by
  cases cls <;> rfl

/-- No member of a class closes the brackets around it, and the last does not negate them. -/
theorem glyphs_eq_append (cls : CharClass) :
    ∃ gs g, cls.glyphs = gs ++ [g] ∧ (∀ h ∈ gs, h ≠ .plain ']') ∧ g ≠ .plain ']' ∧
      g ≠ .plain '^' := by
  have hclose : ∀ h ∈ cls.glyphs, h ≠ .plain ']' := by
    cases cls <;> decide +kernel
  have hlast : cls.glyphs.getLast? ≠ none ∧ cls.glyphs.getLast? ≠ some (.plain '^') := by
    cases cls <;> decide +kernel
  rcases List.eq_nil_or_concat cls.glyphs with hnil | ⟨gs, g, hgs⟩
  · rw [hnil] at hlast
    exact absurd rfl hlast.1
  · rw [List.concat_eq_append] at hgs
    rw [hgs, List.getLast?_append] at hlast
    rw [hgs] at hclose
    exact ⟨gs, g, hgs, fun h hh => hclose h (List.mem_append_left _ hh), hclose g (by simp),
      fun hg => hlast.2 (by simp [hg])⟩

theorem run_outside (cls : CharClass) :
    Mode.outside.run (.plain '[' :: (cls.glyphs ++ [.plain ']'])) =
      .ok (.outside, [.one (.ranges false cls.ranges)]) := by
  cases cls <;> rfl

end CharClass

namespace Token

/-- A character as the glyph that stands for it. -/
def glyphOf (c : Char) : Glyph := if isSpecial c then .escape c c else .plain c

theorem glyphs_writeChar {c : Char} (hc : c ≠ '\\') :
    Expression.glyphs (writeChar c) = .ok [glyphOf c] := by
  unfold writeChar glyphOf
  by_cases hs : isSpecial c = true
  · rw [if_pos hs, if_pos hs]
    simp only [isSpecial, List.mem_cons, List.not_mem_nil, or_false, decide_eq_true_eq] at hs
    rcases hs with rfl | rfl | rfl | rfl | rfl | rfl | rfl | rfl | rfl <;> rfl
  · rw [if_neg hs, if_neg hs]
    simp [Expression.glyphs, hc]

theorem glyphOf_ne {c d : Char} (hc : c ≠ d) : glyphOf c ≠ .plain d := by
  unfold glyphOf
  split
  · simp
  · simpa using hc

theorem char_glyphOf (c : Char) : (glyphOf c).char = c := by
  unfold glyphOf
  split <;> rfl

/-- The glyphs that a token is written with. -/
def glyphs : Token → List Glyph
  | anything => [.plain '.', .plain '*']
  | segment => [.plain '[', .plain '^', .plain '/', .plain ']', .plain '*']
  | single => [.plain '[', .plain '^', .plain '/', .plain ']']
  | escaped c => [.escape c c]
  | kept c => [.escape '\\' '\\', glyphOf c]
  | backslash => [.escape '\\' '\\']
  | named inner closed =>
    match CharClass.ofName? inner.dropLast with
    | none => []
    | some cls => .plain '[' :: (cls.glyphs ++ if closed then [.plain ']'] else [])
  | bracket negated => if negated then [.plain '[', .plain '^'] else [.plain '[']
  | plain c => [glyphOf c]

theorem glyphs_write {t : Token} (ht : t.Sound) :
    Expression.glyphs (t.write?.getD []) = .ok t.glyphs := by
  cases t with
  | anything => rfl
  | segment => rfl
  | single => rfl
  | escaped c =>
    simp only [Sound, isEscapable, List.mem_cons, List.not_mem_nil, or_false,
      decide_eq_true_eq] at ht
    rcases ht with rfl | rfl | rfl | rfl | rfl | rfl | rfl | rfl | rfl <;> rfl
  | kept c =>
    -- a backslash can be escaped, so it is not what a token keeps
    have hc : c ≠ '\\' := by
      rintro rfl
      simp [Sound, isEscapable] at ht
    have hfirst : Expression.glyphs ['\\', '\\'] = .ok [.escape '\\' '\\'] := rfl
    have happ := Expression.glyphs_append hfirst (b := writeChar c)
    rw [glyphs_writeChar hc] at happ
    exact happ
  | backslash => rfl
  | named inner closed =>
    rw [write?, glyphs]
    cases CharClass.ofName? inner.dropLast with
    | none => rfl
    | some cls =>
      have hopen : Expression.glyphs ('[' :: cls.members.toList) =
          .ok (.plain '[' :: cls.glyphs) := by
        have happ := Expression.glyphs_append (a := ['[']) (b := cls.members.toList) rfl
        rw [cls.glyphs_members] at happ
        exact happ
      cases closed with
      | false => simpa using hopen
      | true =>
        have happ := Expression.glyphs_append hopen (b := [']'])
        simpa [CharClass.expression, Expression.glyphs] using happ
  | bracket negated => cases negated <;> rfl
  | plain c =>
    have hc : c ≠ '\\' := by
      rintro rfl
      simp [Sound] at ht
    exact glyphs_writeChar hc

/-! ### The atoms of tokens -/

/-- One character that is not a slash. -/
def notSlash : CharSet := .ranges true [('/', '/')]

/-- What a token is outside of brackets; nothing for one that leaves brackets open. -/
def atoms? : Token → Option (List Atom)
  | anything => some [.many .any]
  | segment => some [.many notSlash]
  | single => some [.one notSlash]
  | escaped c => some [.one (.only c)]
  | kept c => some [.one (.only '\\'), .one (.only c)]
  | backslash => some [.one (.only '\\')]
  | named inner closed =>
    match CharClass.ofName? inner.dropLast with
    | none => none
    | some cls => if closed then some [.one (.ranges false cls.ranges)] else none
  | bracket _ => none
  | plain c => some [.one (.only c)]

theorem run_glyphOf {c : Char} (hc : c ∉ ['*', '?', '[']) :
    Mode.outside.run [glyphOf c] = .ok (.outside, [.one (.only c)]) := by
  rw [Mode.run_singleton, glyphOf]
  by_cases hs : isSpecial c = true
  · rw [if_pos hs]
    rfl
  · rw [if_neg hs]
    simp only [isSpecial, List.mem_cons, List.not_mem_nil, or_false, decide_eq_true_eq,
      not_or] at hs hc
    have hplain : Piece.ofGlyph (.plain c) = .ok (.one (.only c)) := by
      simp [Piece.ofGlyph, hs, hc]
    rw [Mode.step_outside (by simpa using hc.2.2) (by simpa using hs.2.2.2.2.2.2.2.1), hplain]
    rfl

theorem run_of_atoms? {t : Token} (ht : t.Sound) {atoms : List Atom} (h : t.atoms? = some atoms) :
    Mode.outside.run t.glyphs = .ok (.outside, atoms.flatMap Atom.pieces) := by
  cases t with
  | anything => cases h; rfl
  | segment => cases h; rfl
  | single => cases h; rfl
  | escaped c => cases h; rfl
  | kept c =>
    cases h
    have hc : c ∉ ['*', '?', '['] := by
      intro hmem
      simp only [List.mem_cons, List.not_mem_nil, or_false] at hmem
      rcases hmem with rfl | rfl | rfl <;> simp [Sound, isEscapable] at ht
    have hfirst : Mode.outside.step (.escape '\\' '\\') =
        .ok (.outside, [.one (.only '\\')]) := rfl
    rw [glyphs, Mode.run_cons, hfirst, Outcome.ok_bind, run_glyphOf hc]
    rfl
  | backslash => cases h; rfl
  | named inner closed =>
    rw [atoms?] at h
    rw [glyphs]
    cases hcls : CharClass.ofName? inner.dropLast with
    | none => simp [hcls] at h
    | some cls =>
      cases closed with
      | false => simp [hcls] at h
      | true =>
        simp only [hcls, if_true, Option.some.injEq] at h
        subst h
        exact cls.run_outside
  | bracket negated => cases h
  | plain c =>
    cases h
    have hc : c ∉ ['*', '?', '['] := by
      intro hmem
      simp only [List.mem_cons, List.not_mem_nil, or_false] at hmem
      rcases hmem with rfl | rfl | rfl <;> simp [Sound] at ht
    have hrun := run_glyphOf hc
    exact hrun

theorem ends_run_glyphs {t : Token} (ht : t.Sound) {m : Mode} (hm : m.Settled) :
    Mode.Ends Mode.Whole (m.run t.glyphs) := by
  have houtside : ∀ {atoms : List Atom}, t.atoms? = some atoms → m = .outside →
      Mode.Ends Mode.Whole (m.run t.glyphs) := by
    rintro atoms h rfl
    rw [run_of_atoms? ht h]
    exact ⟨.inl rfl, atoms, rfl⟩
  -- a token without closing bracket leaves a reading between brackets where it is
  have hinside : (∀ g ∈ t.glyphs, g ≠ .plain ']') → m.InSet →
      Mode.Ends Mode.Whole (m.run t.glyphs) := by
    intro hgs hset
    refine (Mode.ends_run hset hgs).imp ?_
    rintro m' _ ⟨hm', rfl⟩
    exact hm'.whole
  cases t with
  | anything => exact hm.elim (houtside rfl) (hinside (by simp [glyphs]))
  | segment =>
    have hcut : (segment).glyphs =
        [.plain '[', .plain '^', .plain '/', .plain ']'] ++ [.plain '*'] := rfl
    rw [hcut]
    -- inside brackets the set of the star closes them, and its repetition applies to that
    refine (Mode.ends_run_notSlash hm).append ?_
    rintro m' _ ⟨rfl, set, rfl⟩
    exact ⟨.inl rfl, [.many set], rfl⟩
  | single =>
    refine (Mode.ends_run_notSlash hm).imp ?_
    rintro m' _ ⟨rfl, set, rfl⟩
    exact ⟨.inl rfl, [.one set], rfl⟩
  | escaped c => exact hm.elim (houtside rfl) (hinside (by simp [glyphs]))
  | kept c =>
    have hc : c ≠ ']' := by
      rintro rfl
      simp [Sound, isEscapable] at ht
    exact hm.elim (houtside rfl) (hinside (by simp [glyphs, glyphOf_ne hc]))
  | backslash => exact hm.elim (houtside rfl) (hinside (by simp [glyphs]))
  | named inner closed =>
    rw [glyphs]
    cases hcls : CharClass.ofName? inner.dropLast with
    | none => exact ⟨hm, [], rfl⟩
    | some cls =>
      obtain ⟨gs, g, heq, hgs, hg, hcaret⟩ := cls.glyphs_eq_append
      cases closed with
      | true =>
        simp only [heq, if_true, List.append_assoc, List.singleton_append]
        refine (Mode.ends_run_bracketed hm hgs hg hcaret).imp ?_
        rintro m' _ ⟨rfl, set, rfl⟩
        exact ⟨.inl rfl, [.one set], rfl⟩
      | false =>
        have hmem : ∀ h ∈ gs ++ [g], h ≠ .plain ']' :=
          List.forall_mem_append.mpr ⟨hgs, by simpa using hg⟩
        simp only [heq, List.append_nil, Bool.false_eq_true, if_false]
        refine (Mode.ends_run_open hm hmem).imp ?_
        rintro m' _ ⟨hm', rfl⟩
        exact hm'.whole
  | bracket negated =>
    have heq : (bracket negated).glyphs =
        .plain '[' :: if negated then [.plain '^'] else [] := by
      cases negated <;> rfl
    rw [heq]
    refine (Mode.ends_run_open hm (by cases negated <;> decide)).imp ?_
    rintro m' _ ⟨hm', rfl⟩
    exact hm'.whole
  | plain c =>
    rcases hm with hm | hm
    · exact houtside rfl hm
    · -- the only plain character that is more than a member between brackets
      by_cases hc : c = ']'
      · subst hc
        rw [glyphs, Mode.run_singleton]
        exact Mode.ends_step_bracket hm
      · exact hinside (by simp [glyphs, glyphOf_ne hc]) hm

end Token

/-! ### The body of a rule -/

theorem glyphs_flatMap_write {ts : List Token} (h : ∀ t ∈ ts, t.Sound) :
    Expression.glyphs (ts.flatMap fun t => t.write?.getD []) = .ok (ts.flatMap Token.glyphs) := by
  induction ts with
  | nil => rfl
  | cons t ts ih =>
    obtain ⟨ht, hts⟩ := List.forall_mem_cons.mp h
    rw [List.flatMap_cons, Expression.glyphs_append (Token.glyphs_write ht), ih hts]
    rfl

theorem ends_run_tokens {ts : List Token} (h : ∀ t ∈ ts, t.Sound) {m : Mode} (hm : m.Settled) :
    Mode.Ends Mode.Whole (m.run (ts.flatMap Token.glyphs)) := by
  induction ts generalizing m with
  | nil => exact ⟨hm, [], rfl⟩
  | cons t ts ih =>
    obtain ⟨ht, hts⟩ := List.forall_mem_cons.mp h
    refine (Token.ends_run_glyphs ht hm).append ?_
    intro m' ps hps
    refine (ih hts hps.1).imp ?_
    intro m'' qs hqs
    exact hps.append hqs

/-- Tokens that are all read on their own are read as their atoms. -/
theorem reads_tokens {ts : List Token} (hsound : ∀ t ∈ ts, t.Sound)
    (h : ∀ t ∈ ts, t.atoms?.isSome = true) :
    Expression.Reads (ts.flatMap fun t => t.write?.getD [])
      ((ts.flatMap fun t => t.atoms?.getD []).map Atom.expression) := by
  refine Expression.reads_atoms (glyphs_flatMap_write hsound) ?_
  induction ts with
  | nil => rfl
  | cons t ts ih =>
    obtain ⟨ht, hts⟩ := List.forall_mem_cons.mp hsound
    obtain ⟨hsome, hrest⟩ := List.forall_mem_cons.mp h
    obtain ⟨atoms, hatoms⟩ := Option.isSome_iff_exists.mp hsome
    rw [List.flatMap_cons, Mode.run_append, Token.run_of_atoms? ht hatoms, Outcome.ok_bind,
      ih hts hrest, Outcome.map_ok, List.flatMap_cons, List.flatMap_append, hatoms]
    rfl

/-- What is asked of a body, and the text that it becomes. -/
theorem writeBody_eq_ok_iff {body source : List Char} :
    writeBody body = .ok source ↔
      unknownClass? 0 (tokens body) = none ∧ body.length ≤ maxLength ∧
        wildcardCount body ≤ maxWildcards ∧
        source = (mergeStars (tokens body)).flatMap fun t => t.write?.getD [] := by
  unfold writeBody
  cases unknownClass? 0 (tokens body) with
  | some place => simp
  | none =>
    constructor
    · intro h
      obtain ⟨⟨⟩, hsize, hsource⟩ := Outcome.bind_eq_ok_iff.mp h
      obtain ⟨hlength, hcount⟩ := checkSize_eq_ok_iff.mp hsize
      cases hsource
      exact ⟨rfl, hlength, hcount, rfl⟩
    · rintro ⟨-, hlength, hcount, rfl⟩
      exact Outcome.bind_eq_ok_iff.mpr ⟨(), checkSize_eq_ok_iff.mpr ⟨hlength, hcount⟩, rfl⟩

/-- The expression of a body is a list of atoms, or it leaves brackets open or is at fault there. -/
theorem reads_or_unclosed {body source : List Char} (h : writeBody body = .ok source) :
    (∃ atoms : List Atom, Expression.Reads source (atoms.map Atom.expression)) ∨
      Expression.Unclosed source := by
  obtain ⟨-, -, -, rfl⟩ := writeBody_eq_ok_iff.mp h
  have hsound := mergeStars_sound (tokens_sound body)
  have hglyphs := glyphs_flatMap_write hsound
  have hends := ends_run_tokens hsound (m := .outside) (.inl rfl)
  cases hrun : Mode.outside.run ((mergeStars (tokens body)).flatMap Token.glyphs) with
  | error f =>
    rw [hrun] at hends
    exact .inr ⟨_, hglyphs, by rw [hrun]; exact hends⟩
  | ok r =>
    obtain ⟨m, ps⟩ := r
    rw [hrun] at hends
    obtain ⟨rfl | hm, atoms, rfl⟩ : m.Whole ps := hends
    · exact .inl ⟨atoms, Expression.reads_atoms hglyphs hrun⟩
    · exact .inr ⟨_, hglyphs, by rw [hrun]; exact hm⟩

end ExcludeRules.Rule
