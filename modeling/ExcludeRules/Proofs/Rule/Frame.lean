/-
What stands around the body of a rule in its expression.

The parts in front of a body and behind it match nothing, or whole segments of the
path; the body itself is a list of atoms.  So a rule matches a path exactly if its
body matches a stretch of it that has only whole segments around it.  Main
statements:
  * `write_eq_ok_iff` : what is asked of a rule, and the text that it becomes;
  * `read_frame` : the expression of a rule, and which paths it accepts;
  * `read_write_iff_body` : the rule and its body alone.
-/
import ExcludeRules.Proofs.Rule.Writing

namespace ExcludeRules.Rule

open Expression

namespace Stem

/-- What may stand in a path before the stretch that the body matches. -/
def MayPrecede (stem : Stem) (u : List Char) : Prop :=
  u = [] ∨ stem.anchored = false ∧ u.getLast? = some '/'

/-- What may stand in a path behind the stretch that the body matches. -/
def MayFollow (stem : Stem) (w : List Char) : Prop :=
  w = [] ∨ (stem.anchored = true ∨ stem.directoryOnly = true) ∧ w.head? = some '/'

/-! ### The parts -/

/-- Any text up to a slash. -/
def upToSlash : Expression := .seq (.many .any) (.one (.only '/'))

/-- Any text from a slash on. -/
def fromSlash : Expression := .seq (.one (.only '/')) (.many .any)

/-- What stands in front of the body. -/
def headParts (stem : Stem) : List Expression :=
  if stem.anchored then [.start]
  else .optional upToSlash :: if stem.spansSegments then [.alt .start upToSlash] else []

/-- What stands behind the body. -/
def tailParts (stem : Stem) : List Expression :=
  if stem.anchored then [.alt .finish fromSlash, .finish]
  else if stem.directoryOnly then [.optional fromSlash, .finish] else [.finish]

theorem reads_tailPrefix : Reads "(?:.*/)?".toList [.optional upToSlash] :=
  ⟨_, _, rfl, rfl, fun _ _ => rfl⟩

theorem reads_head (stem : Stem) : Reads stem.head stem.headParts := by
  have hfull : Reads "(?:^|.*/)".toList [.alt .start upToSlash] :=
    ⟨_, _, rfl, rfl, fun _ _ => rfl⟩
  unfold head headParts
  by_cases hanchor : stem.anchored = true
  · rw [if_pos hanchor, if_pos hanchor]
    exact ⟨_, _, rfl, rfl, fun _ _ => rfl⟩
  · rw [if_neg hanchor, if_neg hanchor]
    by_cases hspans : stem.spansSegments = true
    · rw [if_pos hspans, if_pos hspans]
      exact reads_tailPrefix.append hfull
    · rw [if_neg hspans, if_neg hspans, List.append_nil]
      exact reads_tailPrefix

/-- What stands behind a body is read on its own, and closes no bracket. -/
theorem reads_tail (stem : Stem) :
    Reads stem.tail stem.tailParts ∧
      ∃ gs, glyphs stem.tail = .ok gs ∧ ∀ g ∈ gs, g ≠ .plain ']' := by
  unfold tail tailParts
  by_cases hanchor : stem.anchored = true
  · rw [if_pos hanchor, if_pos hanchor]
    exact ⟨⟨_, _, rfl, rfl, fun _ _ => rfl⟩, _, rfl, by decide⟩
  · rw [if_neg hanchor, if_neg hanchor]
    by_cases hdir : stem.directoryOnly = true
    · rw [if_pos hdir, if_pos hdir]
      exact ⟨⟨_, _, rfl, rfl, fun _ _ => rfl⟩, _, rfl, by decide⟩
    · rw [if_neg hdir, if_neg hdir]
      exact ⟨⟨_, _, rfl, rfl, fun _ _ => rfl⟩, _, rfl, by decide⟩

/-! ### What the parts match -/

theorem matches_upToSlash {pre mid post : List Char} :
    upToSlash.Matches pre mid post ↔ mid.getLast? = some '/' := by
  rw [List.getLast?_eq_some_iff]
  constructor
  · rintro ⟨u, v, rfl, -, c, rfl, hc⟩
    exact ⟨u, by rw [← eq_of_beq hc]⟩
  · rintro ⟨u, rfl⟩
    exact ⟨u, ['/'], rfl, fun _ _ => rfl, '/', rfl, rfl⟩

theorem matches_fromSlash {pre mid post : List Char} :
    fromSlash.Matches pre mid post ↔ mid.head? = some '/' := by
  rw [List.head?_eq_some_iff]
  constructor
  · rintro ⟨u, v, rfl, ⟨c, rfl, hc⟩, -⟩
    exact ⟨v, by rw [← eq_of_beq hc]; rfl⟩
  · rintro ⟨v, rfl⟩
    exact ⟨['/'], v, rfl, ⟨'/', rfl, rfl⟩, fun _ _ => rfl⟩

theorem matchesAll_tailPrefix {mid post : List Char} :
    MatchesAll [.optional upToSlash] [] mid post ↔ mid = [] ∨ mid.getLast? = some '/' := by
  rw [matchesAll_singleton, Matches, matches_upToSlash]

theorem matchesAll_headParts {stem : Stem} {mid post : List Char} :
    MatchesAll stem.headParts [] mid post ↔ stem.MayPrecede mid := by
  unfold headParts MayPrecede
  by_cases hanchor : stem.anchored = true
  · rw [if_pos hanchor, matchesAll_singleton]
    simp [hanchor, Matches]
  · have hfree : stem.anchored = false := by simpa using hanchor
    rw [if_neg hanchor]
    by_cases hspans : stem.spansSegments = true
    · -- two parts in front: whatever they match, the second ends it at a slash
      rw [if_pos hspans, ← List.singleton_append, matchesAll_append]
      constructor
      · rintro ⟨u, v, rfl, hu, hv⟩
        rcases matchesAll_singleton.mp hv with ⟨rfl, hstart⟩ | hv
        · exact .inl (by simpa using hstart)
        · right
          rw [matches_upToSlash, List.getLast?_eq_some_iff] at hv
          obtain ⟨v, rfl⟩ := hv
          exact ⟨hfree, List.getLast?_eq_some_iff.mpr ⟨u ++ v, by simp⟩⟩
      · rintro (rfl | ⟨-, hslash⟩)
        · exact ⟨[], [], rfl, matchesAll_tailPrefix.mpr (.inl rfl),
            matchesAll_singleton.mpr (.inl ⟨rfl, rfl⟩)⟩
        · -- the second part alone takes all that comes before
          refine ⟨[], mid, rfl, matchesAll_tailPrefix.mpr (.inl rfl), ?_⟩
          exact matchesAll_singleton.mpr (.inr (matches_upToSlash.mpr hslash))
    · rw [if_neg hspans, matchesAll_tailPrefix]
      simp [hfree]

/-- At the end of the whole text nothing is left for `finish` to ask. -/
theorem matchesAll_finish (es : List Expression) {pre mid : List Char} :
    MatchesAll (es ++ [.finish]) pre mid [] ↔ MatchesAll es pre mid [] := by
  rw [matchesAll_append]
  constructor
  · rintro ⟨u, v, rfl, hes, hfinish⟩
    obtain ⟨rfl, -⟩ := matchesAll_singleton.mp hfinish
    simpa using hes
  · intro hes
    exact ⟨mid, [], by simp, by simpa using hes, matchesAll_singleton.mpr ⟨rfl, .inl rfl⟩⟩

theorem matchesAll_tailParts {stem : Stem} {pre mid : List Char} :
    MatchesAll stem.tailParts pre mid [] ↔ stem.MayFollow mid := by
  unfold tailParts MayFollow
  by_cases hanchor : stem.anchored = true
  · rw [if_pos hanchor]
    refine (matchesAll_finish [.alt .finish fromSlash]).trans ?_
    rw [matchesAll_singleton, Matches, matches_fromSlash]
    simp [hanchor, Matches]
  · rw [if_neg hanchor]
    by_cases hdir : stem.directoryOnly = true
    · rw [if_pos hdir]
      refine (matchesAll_finish [.optional fromSlash]).trans ?_
      rw [matchesAll_singleton, Matches, matches_fromSlash]
      simp [hdir]
    · rw [if_neg hdir]
      refine (matchesAll_finish []).trans ?_
      simp [hanchor, hdir, MatchesAll]

/-- Parts around atoms match the texts in which the atoms take a stretch between theirs. -/
theorem matchesAll_around {hs ts : List Expression} {atoms : List Atom} {P Q : List Char → Prop}
    (hP : ∀ {mid post}, MatchesAll hs [] mid post ↔ P mid)
    (hQ : ∀ {pre mid}, MatchesAll ts pre mid [] ↔ Q mid) {text : List Char} :
    MatchesAll (hs ++ atoms.map Atom.expression ++ ts) [] text [] ↔
      ∃ u v w, text = u ++ v ++ w ∧ Atom.TakeAll atoms v ∧ P u ∧ Q w := by
  rw [matchesAll_append]
  constructor
  · rintro ⟨x, w, rfl, hx, hw⟩
    obtain ⟨u, v, rfl, hu, hv⟩ := matchesAll_append.mp hx
    exact ⟨u, v, w, rfl, matchesAll_atoms.mp hv, hP.mp hu, hQ.mp hw⟩
  · rintro ⟨u, v, w, rfl, hv, hu, hw⟩
    refine ⟨u ++ v, w, rfl, ?_, hQ.mpr hw⟩
    exact matchesAll_append.mpr ⟨u, v, rfl, hP.mpr hu, matchesAll_atoms.mpr hv⟩

end Stem

/-! ### The whole expression -/

theorem write_eq_ok_iff {text source : List Char} :
    write text = .ok source ↔
      text.length ≤ maxLength ∧ ∃ stem body, Stem.ofText text = .ok stem ∧
        writeBody stem.body = .ok body ∧ source = stem.head ++ body ++ stem.tail := by
  unfold write
  constructor
  · intro h
    obtain ⟨⟨⟩, hsize, h⟩ := Outcome.bind_eq_ok_iff.mp h
    obtain ⟨stem, hstem, h⟩ := Outcome.bind_eq_ok_iff.mp h
    obtain ⟨body, hbody, h⟩ := Outcome.bind_eq_ok_iff.mp h
    cases h
    exact ⟨(checkSize_eq_ok_iff.mp hsize).1, stem, body, hstem,
      Outcome.mapError_eq_ok_iff.mp hbody, rfl⟩
  · rintro ⟨hlength, stem, body, hstem, hbody, rfl⟩
    refine Outcome.bind_eq_ok_iff.mpr ⟨(), checkSize_eq_ok_iff.mpr ⟨hlength, Nat.zero_le _⟩, ?_⟩
    refine Outcome.bind_eq_ok_iff.mpr ⟨stem, hstem, ?_⟩
    exact Outcome.bind_eq_ok_iff.mpr ⟨body, Outcome.mapError_eq_ok_iff.mpr hbody, rfl⟩

/-- The atoms take a stretch of the path that may stand between what is left of it. -/
def Covers (stem : Stem) (atoms : List Atom) (path : List Char) : Prop :=
  ∃ u v w, path = u ++ v ++ w ∧ Atom.TakeAll atoms v ∧ stem.MayPrecede u ∧ stem.MayFollow w

/-- The expression of a rule whose body is read as atoms, and what it accepts. -/
theorem read_frame (stem : Stem) {body : List Char} {atoms : List Atom}
    (h : Reads body (atoms.map Atom.expression)) :
    ∃ e, Expression.read (stem.head ++ body ++ stem.tail) = .ok e ∧
      ∀ path, e.accepts path = true ↔ Covers stem atoms path := by
  refine ⟨_, ((stem.reads_head.append h).append stem.reads_tail.1).read_eq, fun path => ?_⟩
  rw [accepts_sequence]
  exact Stem.matchesAll_around Stem.matchesAll_headParts Stem.matchesAll_tailParts

/-- A body that is read as atoms is an expression on its own. -/
theorem read_body {body : List Char} {atoms : List Atom}
    (h : Reads body (atoms.map Atom.expression)) :
    ∃ b, Expression.read body = .ok b ∧ ∀ v, b.accepts v = true ↔ Atom.TakeAll atoms v := by
  refine ⟨_, h.read_eq, fun v => ?_⟩
  rw [accepts_sequence, matchesAll_atoms]

/-- No body that leaves brackets open is mended by what stands around it. -/
theorem read_frame_of_unclosed (stem : Stem) {body : List Char} (h : Unclosed body) :
    ∃ f : Fault, f.OfSet ∧ Expression.read (stem.head ++ body ++ stem.tail) = .error f := by
  obtain ⟨cs, hcs, hclose⟩ := stem.reads_tail.2
  exact h.read_eq stem.reads_head hcs hclose

theorem read_body_of_unclosed {body : List Char} (h : Unclosed body) :
    ∃ f : Fault, f.OfSet ∧ Expression.read body = .error f := by
  have hnil : Reads [] [] := ⟨[], [], rfl, rfl, fun _ _ => rfl⟩
  have hglyphs : glyphs [] = .ok [] := rfl
  obtain ⟨f, hf, hread⟩ := h.read_eq hnil hglyphs (List.forall_mem_nil _)
  rw [List.nil_append, List.append_nil] at hread
  exact ⟨f, hf, hread⟩

/-- **A rule is composed of its body and what stands around it.**  The expression
of a rule can be read exactly if that of its body can, and is at fault only in
bracket expressions.  It accepts the paths in which the body accepts a stretch that
whole segments may precede and follow; the second part in front of a rule that spans
segments changes nothing. -/
theorem read_write_iff_body {text source : List Char} (h : write text = .ok source) :
    ∃ stem body, Stem.ofText text = .ok stem ∧ writeBody stem.body = .ok body ∧
      ((∃ e, Expression.read source = .ok e) ↔ ∃ b, Expression.read body = .ok b) ∧
      (∀ f, Expression.read source = .error f → f.OfSet) ∧
      ∀ e b, Expression.read source = .ok e → Expression.read body = .ok b →
        (∀ path, e.accepts path = true ↔
          ∃ u v w, path = u ++ v ++ w ∧ b.accepts v = true ∧ stem.MayPrecede u ∧
            stem.MayFollow w) ∧
        (stem.anchored = false →
          ∃ e', Expression.read ("(?:.*/)?".toList ++ body ++ stem.tail) = .ok e' ∧
            ∀ path, e'.accepts path = e.accepts path) := by
  obtain ⟨-, stem, body, hstem, hbody, rfl⟩ := write_eq_ok_iff.mp h
  refine ⟨stem, body, hstem, hbody, ?_⟩
  rcases reads_or_unclosed hbody with ⟨atoms, hatoms⟩ | hopen
  · obtain ⟨e, he, haccepts⟩ := read_frame stem hatoms
    obtain ⟨b, hb, hbaccepts⟩ := read_body hatoms
    refine ⟨⟨fun _ => ⟨b, hb⟩, fun _ => ⟨e, he⟩⟩, fun f hf => ?_, ?_⟩
    · rw [he] at hf
      cases hf
    · intro e₁ b₁ he₁ hb₁
      obtain rfl : e = e₁ := Except.ok.inj (he.symm.trans he₁)
      obtain rfl : b = b₁ := Except.ok.inj (hb.symm.trans hb₁)
      refine ⟨fun path => ?_, fun hfree => ?_⟩
      · simp only [haccepts, hbaccepts, Covers]
      · have hshort := (Stem.reads_tailPrefix.append hatoms).append stem.reads_tail.1
        refine ⟨_, hshort.read_eq, fun path => Bool.eq_iff_iff.mpr ?_⟩
        rw [accepts_sequence, haccepts, Stem.matchesAll_around Stem.matchesAll_tailPrefix
          Stem.matchesAll_tailParts]
        simp only [Covers, Stem.MayPrecede, hfree, true_and]
  · obtain ⟨f, hf, hread⟩ := read_frame_of_unclosed stem hopen
    obtain ⟨fb, -, hbread⟩ := read_body_of_unclosed hopen
    refine ⟨⟨?_, ?_⟩, fun f' hf' => ?_, fun e b he => ?_⟩
    · rintro ⟨e, he⟩
      rw [hread] at he
      cases he
    · rintro ⟨b, hb⟩
      rw [hbread] at hb
      cases hb
    · rw [hread] at hf'
      cases hf'
      exact hf
    · rw [hread] at he
      cases he

theorem read_write_bracket_rule :
    write "- lib/[!a-c]*.o/".toList =
        .ok "(?:.*/)?(?:^|.*/)lib/[^a-c][^/]*\\.o(?:/.*)?$".toList ∧
      ∃ e b, Expression.read "(?:.*/)?(?:^|.*/)lib/[^a-c][^/]*\\.o(?:/.*)?$".toList = .ok e ∧
        Expression.read "lib/[^a-c][^/]*\\.o".toList = .ok b ∧
        ∀ path, e.accepts path = true ↔
          ∃ u v w, path = u ++ v ++ w ∧ b.accepts v = true ∧
            (u = [] ∨ u.getLast? = some '/') ∧ (w = [] ∨ w.head? = some '/') := by
  have hwrite : write "- lib/[!a-c]*.o/".toList =
      .ok "(?:.*/)?(?:^|.*/)lib/[^a-c][^/]*\\.o(?:/.*)?$".toList := rfl
  obtain ⟨stem, body, hstem, hbody, hread, -, hpaths⟩ := read_write_iff_body hwrite
  obtain rfl : ⟨"lib/[!a-c]*.o/".toList, false⟩ = stem := Except.ok.inj hstem
  obtain rfl : "lib/[^a-c][^/]*\\.o".toList = body := Except.ok.inj hbody
  obtain ⟨b, hb, -⟩ := Outcome.exists_of_any (p := fun _ => true)
    (x := Expression.read "lib/[^a-c][^/]*\\.o".toList) (by decide +kernel)
  obtain ⟨e, he⟩ := hread.mpr ⟨b, hb⟩
  refine ⟨hwrite, e, b, he, hb, fun path => ((hpaths e b he hb).1 path).trans ?_⟩
  have hdir : Stem.directoryOnly ⟨"lib/[!a-c]*.o/".toList, false⟩ = true := rfl
  simp only [Stem.MayPrecede, Stem.MayFollow, hdir, or_true, true_and]

end ExcludeRules.Rule
