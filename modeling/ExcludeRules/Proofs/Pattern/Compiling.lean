/-
What a compiled rule knows of its text.

A text that compiles has a stem, and its body is read as atoms; stem and atoms
together say which paths the rule covers.  Conversely such a text compiles.  Main
statements:
  * `compile_eq_compiled_iff` : which lines become rules;
  * `denotes_of_compileRule` : the paths that a compiled rule accepts;
  * `compileRule_of_denotes` : what is enough for a text to compile.
-/
import ExcludeRules.Pattern.Matching
import ExcludeRules.Proofs.Rule.Frame

namespace ExcludeRules

open Expression (Atom Reads)

namespace Rule

/-- The text is a rule with this stem, and its body is read as these atoms. -/
structure Denotes (text : List Char) (stem : Stem) (atoms : List Atom) : Prop where
  length_le : text.length ≤ maxLength
  stem_eq : Stem.ofText text = .ok stem
  body : ∃ body, writeBody stem.body = .ok body ∧ Reads body (atoms.map Atom.expression)

/-- The text is neither blank nor a comment. -/
def IsRuleText (text : List Char) : Prop :=
  ∃ c rest, Text.trimLeft text = c :: rest ∧ Pattern.isCommentMark c = false

end Rule

/-- The rule accepts the paths that this stem and these atoms cover. -/
structure CompiledRule.Means (rule : CompiledRule) (stem : Rule.Stem) (atoms : List Atom) :
    Prop where
  directoryOnly_eq : rule.directoryOnly = stem.directoryOnly
  accepts_iff : ∀ path, rule.expression.accepts path = true ↔ Rule.Covers stem atoms path

namespace Pattern

theorem compile_eq_compiled_iff {text : String} {rule : CompiledRule} :
    compile (some text) = .ok (.compiled rule) ↔
      Rule.IsRuleText text.toList ∧ compileRule text = .ok rule := by
  unfold compile Rule.IsRuleText
  cases htrim : Text.trimLeft text.toList with
  | nil => simp [htrim]
  | cons c rest =>
    by_cases hc : isCommentMark c = true
    · simp [htrim, hc]
    · cases hr : compileRule text <;> simp [htrim, hc, hr]

/-- The rule that a text compiles to, if the compiling can be run. -/
theorem exists_compiled (text : String) {p : CompiledRule → Bool}
    (htext : Rule.IsRuleText text.toList) (h : (compileRule text).toOption.any p = true) :
    ∃ rule, compile (some text) = .ok (.compiled rule) ∧ p rule = true := by
  obtain ⟨rule, hrule, hp⟩ := Outcome.exists_of_any h
  exact ⟨rule, compile_eq_compiled_iff.mpr ⟨htext, hrule⟩, hp⟩

/-- What is asked of a text that compiles as a rule. -/
theorem compileRule_eq_ok_iff {text : String} {rule : CompiledRule} :
    compileRule text = .ok rule ↔
      ∃ source e stem, Rule.write text.toList = .ok source ∧ Expression.read source = .ok e ∧
        Rule.Stem.ofText text.toList = .ok stem ∧
        rule = ⟨text, String.ofList source, e, stem.directoryOnly⟩ := by
  unfold compileRule Rule.isDirectoryOnly
  constructor
  · intro h
    obtain ⟨source, hsource, h⟩ := Outcome.bind_eq_ok_iff.mp h
    obtain ⟨e, he, h⟩ := Outcome.bind_eq_ok_iff.mp h
    obtain ⟨d, hd, h⟩ := Outcome.bind_eq_ok_iff.mp h
    obtain ⟨stem, hstem, rfl⟩ := Outcome.map_eq_ok_iff.mp hd
    cases h
    exact ⟨source, e, stem, hsource, Outcome.mapError_eq_ok_iff.mp he, hstem, rfl⟩
  · rintro ⟨source, e, stem, hsource, he, hstem, rfl⟩
    refine Outcome.bind_eq_ok_iff.mpr ⟨source, hsource, ?_⟩
    refine Outcome.bind_eq_ok_iff.mpr ⟨e, Outcome.mapError_eq_ok_iff.mpr he, ?_⟩
    exact Outcome.bind_eq_ok_iff.mpr
      ⟨stem.directoryOnly, Outcome.map_eq_ok_iff.mpr ⟨stem, hstem, rfl⟩, rfl⟩

/-- The paths that a compiled rule accepts are those that its stem and its atoms cover. -/
theorem denotes_of_compileRule {text : String} {rule : CompiledRule}
    (h : compileRule text = .ok rule) :
    ∃ stem atoms, Rule.Denotes text.toList stem atoms ∧ rule.Means stem atoms := by
  obtain ⟨source, e, stem, hsource, he, hstem, rfl⟩ := compileRule_eq_ok_iff.mp h
  obtain ⟨hlength, stem', body, hstem', hbody, rfl⟩ := Rule.write_eq_ok_iff.mp hsource
  obtain rfl : stem = stem' := Except.ok.inj (hstem.symm.trans hstem')
  rcases Rule.reads_or_unclosed hbody with ⟨atoms, hatoms⟩ | hopen
  · obtain ⟨e', he', haccepts⟩ := Rule.read_frame stem hatoms
    obtain rfl : e = e' := Except.ok.inj (he.symm.trans he')
    exact ⟨stem, atoms, ⟨hlength, hstem, body, hbody, hatoms⟩, ⟨rfl, haccepts⟩⟩
  · obtain ⟨f, -, hread⟩ := Rule.read_frame_of_unclosed stem hopen
    rw [hread] at he
    cases he

theorem compileRule_of_denotes {text : String} {stem : Rule.Stem} {atoms : List Atom}
    (h : Rule.Denotes text.toList stem atoms) :
    ∃ rule, compileRule text = .ok rule ∧ rule.Means stem atoms := by
  obtain ⟨body, hbody, hatoms⟩ := h.body
  obtain ⟨e, he, haccepts⟩ := Rule.read_frame stem hatoms
  refine ⟨_, compileRule_eq_ok_iff.mpr ⟨_, e, stem, ?_, he, h.stem_eq, rfl⟩, ⟨rfl, haccepts⟩⟩
  exact Rule.write_eq_ok_iff.mpr ⟨h.length_le, stem, body, h.stem_eq, hbody, rfl⟩

/-- A text that denotes something is a line that compiles to a rule. -/
theorem compile_of_denotes {text : List Char} (htext : Rule.IsRuleText text) {stem : Rule.Stem}
    {atoms : List Atom} (h : Rule.Denotes text stem atoms) :
    ∃ rule, compile (some (String.ofList text)) = .ok (.compiled rule) ∧
      rule.Means stem atoms := by
  rw [← String.toList_ofList (l := text)] at htext h
  obtain ⟨rule, hrule, hmeans⟩ := compileRule_of_denotes h
  exact ⟨rule, compile_eq_compiled_iff.mpr ⟨htext, hrule⟩, hmeans⟩

/-- Whatever a text denotes, the rule that it compiles to accepts. -/
theorem means_of_denotes {text : String} {rule : CompiledRule} {stem : Rule.Stem}
    {atoms : List Atom} (hrule : compileRule text = .ok rule)
    (h : Rule.Denotes text.toList stem atoms) : rule.Means stem atoms := by
  obtain ⟨rule', hrule', hmeans⟩ := compileRule_of_denotes h
  obtain rfl : rule = rule' := Except.ok.inj (hrule.symm.trans hrule')
  exact hmeans

end Pattern

end ExcludeRules
