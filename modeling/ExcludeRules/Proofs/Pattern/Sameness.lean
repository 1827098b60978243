/-
What patterns have in common that are the same.

Rules are the same when their expressions are, so they agree on which paths their
expressions accept.  The expression tells a rule for directories from any other,
unless the rule is anchored: behind an anchored body stands the same in both cases.
Two patterns that are the same therefore match the same paths, with one exception:
of an anchored rule written with and without a slash behind it, the former also asks
the disk, which may show something else or not answer.  Main statements:
  * `anchored_of_same` : only anchored rules are the same and differ in the slash;
  * `matchesCandidate_of_same` : a pattern matches what one that is the same matches;
  * `judge?_eq_of_same` : they agree, if both are for directories or neither is;
  * `matchesCandidate_directory_iff` : what the slash takes away from an anchored rule;
  * `asksDisk_directory_iff` : what the slash makes it ask the disk about.
-/
import ExcludeRules.Proofs.Pattern.Inheritance

namespace ExcludeRules

open Expression (Atom Reads)

/-! ### What an expression tells of its rule -/

namespace Rule.Stem

/-- The parts of the expression of a rule. -/
def parts (stem : Stem) (atoms : List Atom) : List Expression :=
  stem.headParts ++ atoms.map Atom.expression ++ stem.tailParts

theorem isPart_of_mem_parts {stem : Stem} {atoms : List Atom} :
    ∀ e ∈ stem.parts atoms, e.IsPart := by
  have hhead : ∀ e ∈ stem.headParts, e.IsPart := by
    unfold headParts
    split
    · simp [Expression.IsPart]
    · split <;> simp [Expression.IsPart]
  have htail : ∀ e ∈ stem.tailParts, e.IsPart := by
    unfold tailParts
    split
    · simp [Expression.IsPart]
    · split <;> simp [Expression.IsPart]
  have hatoms : ∀ e ∈ atoms.map Atom.expression, e.IsPart := by
    intro e he
    obtain ⟨a, -, rfl⟩ := List.mem_map.mp he
    cases a <;> trivial
  intro e he
  rcases List.mem_append.mp he with he | he
  · exact (List.mem_append.mp he).elim (hhead e) (hatoms e)
  · exact htail e he

theorem parts_ne_nil (stem : Stem) (atoms : List Atom) : stem.parts atoms ≠ [] := by
  have htail : stem.tailParts ≠ [] := by
    unfold tailParts
    split
    · simp
    · split <;> simp
  exact List.append_ne_nil_of_right_ne_nil _ htail

/-- What asks more than the set of one character is no part of a body. -/
theorem not_mem_expressions {e : Expression} (hone : ∀ set, e ≠ .one set)
    (hmany : ∀ set, e ≠ .many set) {atoms : List Atom} : e ∉ atoms.map Atom.expression := by
  intro h
  obtain ⟨a, -, rfl⟩ := List.mem_map.mp h
  cases a with
  | one set => exact hone set rfl
  | many set => exact hmany set rfl

/-- Only an anchored rule asks that nothing stands before it. -/
theorem start_mem_parts_iff {stem : Stem} {atoms : List Atom} :
    .start ∈ stem.parts atoms ↔ stem.anchored = true := by
  have hatoms : .start ∉ atoms.map Atom.expression := not_mem_expressions (by simp) (by simp)
  unfold parts headParts tailParts
  by_cases hanchor : stem.anchored = true
  · simp [hanchor]
  · by_cases hdir : stem.directoryOnly = true <;> by_cases hspans : stem.spansSegments = true <;>
      simp [hanchor, hdir, hspans, hatoms]

/-- Where there is no anchor, only a rule for directories may be followed by what lies below. -/
theorem fromSlash_mem_parts_iff {stem : Stem} {atoms : List Atom} (hfree : stem.anchored = false) :
    .optional fromSlash ∈ stem.parts atoms ↔ stem.directoryOnly = true := by
  have hatoms : .optional fromSlash ∉ atoms.map Atom.expression :=
    not_mem_expressions (by simp) (by simp)
  have hne : fromSlash ≠ upToSlash := by decide
  unfold parts headParts tailParts
  by_cases hdir : stem.directoryOnly = true <;> by_cases hspans : stem.spansSegments = true <;>
    simp [hfree, hdir, hspans, hatoms, hne]

/-- An expression determines the anchor of its rule, and without an anchor also the slash. -/
theorem anchored_or_directoryOnly_eq {stem stem' : Stem} {atoms atoms' : List Atom}
    (h : Expression.OpenGroup.sequence (stem.parts atoms).reverse =
      Expression.OpenGroup.sequence (stem'.parts atoms').reverse) :
    stem.anchored = true ∧ stem'.anchored = true ∨ stem.directoryOnly = stem'.directoryOnly := by
  have hparts : stem.parts atoms = stem'.parts atoms' :=
    Expression.eq_of_sequence_eq (stem.parts_ne_nil atoms) (stem'.parts_ne_nil atoms')
      isPart_of_mem_parts isPart_of_mem_parts h
  have hanchors : stem.anchored = true ↔ stem'.anchored = true := by
    rw [← start_mem_parts_iff, hparts, start_mem_parts_iff]
  by_cases hanchor : stem.anchored = true
  · exact .inl ⟨hanchor, hanchors.mp hanchor⟩
  · right
    have hfree : stem.anchored = false := Bool.eq_false_iff.mpr hanchor
    have hfree' : stem'.anchored = false := Bool.eq_false_iff.mpr (mt hanchors.mpr hanchor)
    have hdirs : stem.directoryOnly = true ↔ stem'.directoryOnly = true := by
      rw [← fromSlash_mem_parts_iff hfree, hparts, fromSlash_mem_parts_iff hfree']
    exact Bool.eq_iff_iff.mpr hdirs

end Rule.Stem

namespace Pattern

/-- The expression of a compiled rule is what its source is read as. -/
theorem read_source {text : String} {rule : CompiledRule} (h : compileRule text = .ok rule) :
    Expression.read rule.source.toList = .ok rule.expression := by
  obtain ⟨source, e, stem, -, he, -, rfl⟩ := compileRule_eq_ok_iff.mp h
  rw [String.toList_ofList]
  exact he

theorem expression_eq_sequence {text : String} {rule : CompiledRule} {stem : Rule.Stem}
    {atoms : List Atom} (h : compileRule text = .ok rule)
    (hdenotes : Rule.Denotes text.toList stem atoms) :
    rule.expression = Expression.OpenGroup.sequence (stem.parts atoms).reverse := by
  obtain ⟨source, e, -, hsource, he, -, rfl⟩ := compileRule_eq_ok_iff.mp h
  obtain ⟨-, stem', body, hstem', hbody, rfl⟩ := Rule.write_eq_ok_iff.mp hsource
  obtain rfl : stem = stem' := Except.ok.inj (hdenotes.stem_eq.symm.trans hstem')
  obtain ⟨body', hbody', hreads⟩ := hdenotes.body
  obtain rfl : body = body' := Except.ok.inj (hbody.symm.trans hbody')
  have hread := ((stem.reads_head.append hreads).append stem.reads_tail.1).read_eq
  exact Except.ok.inj (he.symm.trans hread)

/-! ### Patterns that are the same -/

/-- The pattern is what some line compiles to. -/
def FromLine (p : Pattern) : Prop := ∃ text, compile text = .ok p

/-- The pattern is a rule that is anchored. -/
def IsAnchored (p : Pattern) : Prop :=
  ∃ rule stem, p = compiled rule ∧ Rule.Stem.ofText rule.text.toList = .ok stem ∧
    stem.anchored = true

theorem FromLine.compileRule_text {rule : CompiledRule} (h : (compiled rule).FromLine) :
    compileRule rule.text = .ok rule := by
  obtain ⟨text, htext⟩ := h
  cases text with
  | none => cases htext
  | some text =>
    have hcompile := (compile_eq_compiled_iff.mp htext).2
    obtain ⟨source, e, stem, -, -, -, rfl⟩ := compileRule_eq_ok_iff.mp hcompile
    exact hcompile

/-- Two rules are the same, or two patterns that are none. -/
theorem same_cases {p q : Pattern} (h : p.same q = true) :
    (∃ rule rule', p = compiled rule ∧ q = compiled rule' ∧ rule.source = rule'.source) ∨
      p.isCompiled = false ∧ q.isCompiled = false := by
  cases p with
  | compiled rule =>
    cases q with
    | compiled rule' => exact .inl ⟨rule, rule', rfl, rfl, eq_of_beq h⟩
    | blank => cases h
    | comment => cases h
  | blank =>
    cases q with
    | compiled => cases h
    | blank => exact .inr ⟨rfl, rfl⟩
    | comment => cases h
  | comment =>
    cases q with
    | compiled => cases h
    | blank => cases h
    | comment => exact .inr ⟨rfl, rfl⟩

theorem directoryOnly_of_not_compiled {p : Pattern} (h : p.isCompiled = false) :
    p.directoryOnly = false := by
  cases p with
  | compiled => cases h
  | blank => rfl
  | comment => rfl

theorem expression_eq_of_source_eq {rule rule' : CompiledRule} (h : (compiled rule).FromLine)
    (h' : (compiled rule').FromLine) (hsource : rule.source = rule'.source) :
    rule.expression = rule'.expression := by
  have hread := read_source h.compileRule_text
  rw [hsource, read_source h'.compileRule_text] at hread
  exact (Except.ok.inj hread).symm

/-- Patterns that are the same differ in whether they are for directories only if anchored. -/
theorem anchored_of_same {p q : Pattern} (hp : p.FromLine) (hq : q.FromLine)
    (hsame : p.same q = true) (hdir : p.directoryOnly ≠ q.directoryOnly) :
    p.IsAnchored ∧ q.IsAnchored := by
  rcases same_cases hsame with ⟨rule, rule', rfl, rfl, hsource⟩ | ⟨hinert, hinert'⟩
  · obtain ⟨stem, atoms, hdenotes, hmeans⟩ := denotes_of_compileRule hp.compileRule_text
    obtain ⟨stem', atoms', hdenotes', hmeans'⟩ := denotes_of_compileRule hq.compileRule_text
    have hexpr := expression_eq_of_source_eq hp hq hsource
    rw [expression_eq_sequence hp.compileRule_text hdenotes,
      expression_eq_sequence hq.compileRule_text hdenotes'] at hexpr
    rcases Rule.Stem.anchored_or_directoryOnly_eq hexpr with ⟨hanchor, hanchor'⟩ | heq
    · exact ⟨⟨rule, stem, rfl, hdenotes.stem_eq, hanchor⟩,
        ⟨rule', stem', rfl, hdenotes'.stem_eq, hanchor'⟩⟩
    · refine absurd ?_ hdir
      show rule.directoryOnly = rule'.directoryOnly
      rw [hmeans.directoryOnly_eq, hmeans'.directoryOnly_eq, heq]
  · rw [directoryOnly_of_not_compiled hinert, directoryOnly_of_not_compiled hinert'] at hdir
    exact absurd rfl hdir

/-- The expressions of rules that are the same accept the same paths. -/
theorem matchesRelative_eq_of_source_eq {rule rule' : CompiledRule}
    (h : (compiled rule).FromLine) (h' : (compiled rule').FromLine)
    (hsource : rule.source = rule'.source) : rule.matchesRelative = rule'.matchesRelative := by
  funext path
  rw [CompiledRule.matchesRelative, CompiledRule.matchesRelative,
    expression_eq_of_source_eq h h' hsource]

/-- A pattern matches what one matches that is the same, unless it alone is for directories. -/
theorem matchesCandidate_of_same {p q : Pattern} (hp : p.FromLine) (hq : q.FromLine)
    (hsame : p.same q = true) (hdir : p.directoryOnly = true → q.directoryOnly = true)
    {probe : Probe} {c : Candidate} (h : q.matchesCandidate probe c = true) :
    p.matchesCandidate probe c = true := by
  rcases same_cases hsame with ⟨rule, rule', rfl, rfl, hsource⟩ | ⟨-, hinert⟩
  · have hfile : rule'.directoryOnly = false → rule.directoryOnly = false := fun hfile =>
      Bool.eq_false_iff.mpr fun hdir' => Bool.eq_false_iff.mp hfile (hdir hdir')
    simp only [matchesCandidate, CompiledRule.matchesCandidate,
      matchesRelative_eq_of_source_eq hp hq hsource, Bool.and_eq_true, Bool.or_eq_true,
      Bool.not_eq_true'] at h ⊢
    exact ⟨h.1, h.2.imp_left (Or.imp_left hfile)⟩
  · rw [matches_of_not_compiled hinert] at h
    cases h

theorem judge?_eq_of_same {p q : Pattern} (hp : p.FromLine) (hq : q.FromLine)
    (hsame : p.same q = true) (hdir : p.directoryOnly = q.directoryOnly) (probe : Probe)
    (c : Candidate) : p.judge? probe c = q.judge? probe c := by
  rcases same_cases hsame with ⟨rule, rule', rfl, rfl, hsource⟩ | ⟨hinert, hinert'⟩
  · have hrules : rule.directoryOnly = rule'.directoryOnly := hdir
    have hrelative := matchesRelative_eq_of_source_eq hp hq hsource
    have hasks : (compiled rule).asksDisk c = (compiled rule').asksDisk c := by
      simp only [asksDisk, CompiledRule.asksDisk, hrelative, hrules]
    have hmatches : (compiled rule).matchesCandidate probe c =
        (compiled rule').matchesCandidate probe c := by
      simp only [matchesCandidate, CompiledRule.matchesCandidate, hrelative, hrules]
    rw [judge?, judge?, fails, fails, hasks, hmatches]
  · rw [judge?_of_not_compiled hinert, judge?_of_not_compiled hinert']

/-- The pattern matches a directory between the root and the candidate. -/
def MatchesAbove (q : Pattern) (probe : Probe) (c : Candidate) : Prop :=
  ∃ above : Candidate, above.IsPlaced ∧ above.root = c.root ∧ above.path.StrictlyAbove c.path ∧
    q.matchesCandidate probe above = true

/-- A plain rule matches further up exactly where its expression accepts an ancestor. -/
theorem matchesAbove_iff {rule : CompiledRule} (h : (compiled rule).FromLine)
    (hfile : rule.directoryOnly = false) {probe : Probe} {c : Candidate} (hc : c.IsPlaced) :
    (compiled rule).MatchesAbove probe c ↔ c.ancestors.any rule.matchesRelative = true := by
  obtain ⟨stem, atoms, -, hmeans⟩ := denotes_of_compileRule h.compileRule_text
  have hstemfile : stem.directoryOnly = false := hmeans.directoryOnly_eq.symm.trans hfile
  rw [hmeans.any_ancestors_iff hc]
  constructor
  · rintro ⟨above, hplaced, hroot, hup, hmatch⟩
    obtain ⟨bs, hbs, hbelow⟩ := (hplaced.strictlyAbove_iff hc hroot).mp hup
    obtain ⟨hne, hcovers, -⟩ := (hmeans.matchesCandidate_iff hplaced).mp hmatch
    exact ⟨above.below, bs, hne, hbs, hbelow, hcovers⟩
  · rintro ⟨as, bs, has, hbs, hbelow, hcovers⟩
    have hplaced : Candidate.IsPlaced ⟨c.root, ⟨c.root.slashes, c.root.segments ++ as⟩, as⟩ :=
      ⟨hc.root, fun s hs => hc.below s (hbelow ▸ List.mem_append_left bs hs), rfl⟩
    refine ⟨_, hplaced, rfl, (hplaced.strictlyAbove_iff hc rfl).mpr ⟨bs, hbs, hbelow⟩, ?_⟩
    exact (hmeans.matchesCandidate_iff hplaced).mpr ⟨has, hcovers, .inl hstemfile⟩

section Slash

variable {p q : Pattern} (hp : p.FromLine) (hq : q.FromLine) (hsame : p.same q = true)
  (hdir : p.directoryOnly = true) (hfile : q.directoryOnly = false) {probe : Probe}
  {c : Candidate} (hc : c.IsPlaced)

include hp hq hsame hdir hfile hc

/-- Of two patterns that are the same, the one for directories matches what the other
does where that matches a directory further up or the disk shows no other thing. -/
theorem matchesCandidate_directory_iff :
    p.matchesCandidate probe c = true ↔
      q.matchesCandidate probe c = true ∧
        (q.MatchesAbove probe c ∨ probe.mayShowDirectory c.path.toString = true) := by
  rcases same_cases hsame with ⟨rule, rule', rfl, rfl, hsource⟩ | ⟨hinert, -⟩
  · have hruledir : rule.directoryOnly = true := hdir
    have hrulefile : rule'.directoryOnly = false := hfile
    rw [matchesAbove_iff hq hfile hc]
    simp only [matchesCandidate, CompiledRule.matchesCandidate, hruledir, hrulefile,
      matchesRelative_eq_of_source_eq hp hq hsource, Bool.not_true, Bool.not_false,
      Bool.false_or, Bool.true_or, Bool.and_true, Bool.and_eq_true, Bool.or_eq_true]
  · rw [directoryOnly_of_not_compiled hinert] at hdir
    cases hdir

/-- The one for directories has to ask the disk about the rest of what the other matches. -/
theorem asksDisk_directory_iff :
    p.asksDisk c = true ↔ q.matchesCandidate probe c = true ∧ ¬ q.MatchesAbove probe c := by
  rcases same_cases hsame with ⟨rule, rule', rfl, rfl, hsource⟩ | ⟨hinert, -⟩
  · have hruledir : rule.directoryOnly = true := hdir
    have hrulefile : rule'.directoryOnly = false := hfile
    rw [matchesAbove_iff hq hfile hc, Bool.not_eq_true]
    simp only [asksDisk, CompiledRule.asksDisk, matchesCandidate, CompiledRule.matchesCandidate,
      hruledir, hrulefile, matchesRelative_eq_of_source_eq hp hq hsource, Bool.not_false,
      Bool.true_or, Bool.and_true, Bool.and_eq_true, Bool.not_eq_true']
  · rw [directoryOnly_of_not_compiled hinert] at hdir
    cases hdir

end Slash

end Pattern

end ExcludeRules
