/-
Rules with a class of unknown name.

A rule is refused for such a class as soon as the scan of its body comes to one, whatever
else is wrong with the body.  The error holds the whole text, its marker, its anchor and its
closing slash included, and points at the class in that text.  Main statements:
  * `drop_place` : a place in the body as a place in the text;
  * `tellsOfClass_write` : which rules are refused for a class, and with what error;
  * `tellsOfClass_compile` : so are the lines that are compiled;
  * `refused_for_class` : both, and that nothing but the name of a class can be wrong.
-/
import ExcludeRules.Proofs.Pattern.Acceptance
import ExcludeRules.Proofs.Rule.Scan

namespace ExcludeRules

namespace Rule

/-- The error of a rule in whose body the scan comes to a class of unknown name: it names the
class, holds the text, and its index is where that class stands in the text. -/
def Error.IsForClass (text name : List Char) (e : Error) : Prop :=
  ∃ rest i, FindsUnknown (Stem.cut text).body rest name ∧
    text.drop i = rest ++ (Stem.cut text).slash ∧
    e = ⟨.unknownClass name, String.ofList text, some i⟩

/-- What becomes of the text fails for a class exactly if the scan of the body comes to one of
unknown name, and it is that class and its place that the error tells of. -/
structure TellsOfClass {α : Type} (text : List Char) (outcome : Except Error α) : Prop where
  fails_iff : ∀ name, (∃ e, outcome = .error e ∧ e.cause = .unknownClass name) ↔
    ∃ rest, FindsUnknown (Stem.cut text).body rest name
  isForClass : ∀ name e, outcome = .error e → e.cause = .unknownClass name → e.IsForClass text name

variable {text : List Char}

/-- A place in the body, counted in the text. -/
theorem drop_place {rest : List Char} (h : rest <:+ (Stem.cut text).body) :
    text.drop ((Stem.cut text).body.length - rest.length +
      (text.length - (Stem.cut text).rest.length)) = rest ++ (Stem.cut text).slash := by
  obtain ⟨before, hbody⟩ := h
  obtain ⟨front, htext⟩ := Stem.rest_cut_suffix text
  have hrest := Stem.body_append_slash (Stem.cut text)
  rw [← hbody] at hrest
  have hplace : (Stem.cut text).body.length - rest.length +
      (text.length - (Stem.cut text).rest.length) = (front ++ before).length := by
    have hfront := congrArg List.length htext
    have hbefore := congrArg List.length hbody
    rw [List.length_append] at hfront hbefore ⊢
    omega
  have hcut : text = (front ++ before) ++ (rest ++ (Stem.cut text).slash) := by
    rw [List.append_assoc, ← List.append_assoc before, hrest, htext]
  have hdrop := congrArg (List.drop (front ++ before).length) hcut
  rw [List.drop_left] at hdrop
  rw [hplace, hdrop]

/-- What keeps a rule from being written, once it has a stem, is in its body. -/
theorem write_eq_error_iff {stem : Stem} {e : Error} (hlength : text.length ≤ maxLength)
    (hstem : Stem.ofText text = .ok stem) :
    write text = .error e ↔ ∃ e', writeBody stem.body = .error e' ∧ e'.ofBody text stem = e := by
  have hsize := (@checkSize_eq_ok_iff text 0).mpr ⟨hlength, Nat.zero_le maxWildcards⟩
  rw [write, hsize, hstem, Outcome.ok_bind, Outcome.ok_bind, Outcome.bind_eq_error_iff,
    Outcome.mapError_eq_error_iff]
  refine or_iff_left ?_
  rintro ⟨body, -, h⟩
  cases h

/-- A rule is refused for a class exactly if its body is, and for the class that stands there. -/
theorem tellsOfClass_write (hlength : text.length ≤ maxLength)
    (hplus : ['+', ' '].isPrefixOf (Stem.unmarked text) = false) (hne : Stem.unmarked text ≠ []) :
    TellsOfClass text (write text) := by
  have hstem : Stem.ofText text = .ok (Stem.cut text) :=
    Stem.ofText_eq_ok_iff_cut.mpr ⟨hplus, hne, rfl⟩
  have hfound : ∀ name e, write text = .error e → e.cause = .unknownClass name →
      ∃ rest, FindsUnknown (Stem.cut text).body rest name ∧ e.IsForClass text name := by
    intro name e herror hcause
    obtain ⟨e', hbody, rfl⟩ := (write_eq_error_iff hlength hstem).mp herror
    obtain ⟨rest, hfinds, rfl⟩ := writeBody_eq_unknownClass_iff.mp ⟨hbody, hcause⟩
    exact ⟨rest, hfinds, rest, _, hfinds, drop_place hfinds.reaches.suffix, rfl⟩
  refine ⟨fun name => ⟨?_, ?_⟩, fun name e herror hcause => ?_⟩
  · rintro ⟨e, herror, hcause⟩
    obtain ⟨rest, hfinds, -⟩ := hfound name e herror hcause
    exact ⟨rest, hfinds⟩
  · rintro ⟨rest, hfinds⟩
    obtain ⟨hbody, -⟩ := writeBody_eq_unknownClass_iff.mpr ⟨rest, hfinds, rfl⟩
    exact ⟨_, (write_eq_error_iff hlength hstem).mpr ⟨_, hbody, rfl⟩, rfl⟩
  · obtain ⟨-, -, hplace⟩ := hfound name e herror hcause
    exact hplace

theorem Stem.cause_of_ofText_error {e : Error} (h : ofText text = .error e) :
    e.cause = .includes ∨ e.cause = .empty := by
  unfold ofText at h
  dsimp only at h
  generalize (if ['-', ' '].isPrefixOf text then text.drop 2 else text) = rule at h
  split at h
  · cases h
    exact .inl rfl
  · split at h
    · cases h
      exact .inr rfl
    · cases h
    · cases h

/-- No rule is refused for a class that is not written as one. -/
theorem cause_ne_malformedClass {e : Error} (h : write text = .error e) :
    e.cause ≠ .malformedClass := by
  unfold write at h
  rcases Outcome.bind_eq_error_iff.mp h with hsize | ⟨_, -, h⟩
  · rcases cause_of_checkSize_error hsize with hcause | hcause <;> simp [hcause]
  · rcases Outcome.bind_eq_error_iff.mp h with hstem | ⟨stem, -, h⟩
    · rcases Stem.cause_of_ofText_error hstem with hcause | hcause <;> simp [hcause]
    · rcases Outcome.bind_eq_error_iff.mp h with hmapped | ⟨_, -, h⟩
      · -- an error of the body keeps its cause
        obtain ⟨e', hbody, rfl⟩ := Outcome.mapError_eq_error_iff.mp hmapped
        show e'.cause ≠ _
        rcases writeBody_eq_error_cases hbody with ⟨_, _, _, rfl⟩ | hcause | hcause
        · exact nofun
        · simp [hcause]
        · simp [hcause]
      · cases h

end Rule

namespace Pattern

/-- A line that is neither blank nor a comment is refused for a class as the rule that it is. -/
theorem compile_eq_unknownClass_iff {text : String} {name : List Char} {e : Rule.Error}
    (htext : Rule.IsRuleText text.toList) (hcause : e.cause = .unknownClass name) :
    compile (some text) = .error e ↔ Rule.write text.toList = .error e := by
  rw [compile_of_isRuleText htext, Outcome.map_eq_error_iff, compileRule,
    Outcome.bind_eq_error_iff]
  refine or_iff_left ?_
  rintro ⟨source, hsource, h⟩
  rcases Outcome.bind_eq_error_iff.mp h with hread | ⟨expression, -, h⟩
  · obtain ⟨fault, -, rfl⟩ := Outcome.mapError_eq_error_iff.mp hread
    cases hcause
  · obtain ⟨-, stem, body, hstem, -, -⟩ := Rule.write_eq_ok_iff.mp hsource
    rw [Rule.isDirectoryOnly, hstem] at h
    cases h

theorem tellsOfClass_compile {text : String} (htext : Rule.IsRuleText text.toList)
    (h : Rule.TellsOfClass text.toList (Rule.write text.toList)) :
    Rule.TellsOfClass text.toList (compile (some text)) := by
  refine ⟨fun name => ?_, fun name e herror hcause => ?_⟩
  · rw [← h.fails_iff name]
    exact exists_congr fun e => and_congr_left (compile_eq_unknownClass_iff htext)
  · exact h.isForClass name e ((compile_eq_unknownClass_iff htext hcause).mp herror) hcause

/-- **Rules that are refused for a class of unknown name.**  A rule of at most 4096 characters
that is no include, and of which something is left behind its marker, is refused for a class
exactly if the scan of its body comes to a class of unknown name; the error names that class,
holds the whole text, and points at the class in it.  The same holds of a line that is compiled,
unless it is blank or a comment.  No rule is refused because a class were not written as one:
whatever class the scan comes to can be wrong in its name only. -/
theorem refused_for_class (text : String) :
    (text.toList.length ≤ 4096 → ['+', ' '].isPrefixOf (Rule.Stem.unmarked text.toList) = false →
      Rule.Stem.unmarked text.toList ≠ [] →
        Rule.TellsOfClass text.toList (Rule.write text.toList) ∧
        (Rule.IsRuleText text.toList → Rule.TellsOfClass text.toList (compile (some text)))) ∧
      (∀ e, Rule.write text.toList = .error e → e.cause ≠ .malformedClass) ∧
      ∀ token name, Rule.IsClass token name → ∀ e,
        Rule.CharClass.toExpression (token ++ [']']) = .error e → e.cause = .unknownClass name := by
  refine ⟨fun hlength hplus hne => ?_, fun e => Rule.cause_ne_malformedClass, ?_⟩
  · have hwrite := Rule.tellsOfClass_write hlength hplus hne
    exact ⟨hwrite, fun htext => tellsOfClass_compile htext hwrite⟩
  · exact fun token name hclass e he => hclass.cause_of_toExpression_error he

/-- Behind the marker and the anchor come an escaped bracket, a class that is passed over, a
negated bracket that hides what looks like a class, and one colon that ends its class. -/
theorem refused_for_class_bare :
    ∃ e, compile (some "- /\\[[:a:]**[[:DIGIT:]]x[![:b:][[:]/") = .error e ∧
      e.IsForClass "- /\\[[:a:]**[[:DIGIT:]]x[![:b:][[:]/".toList [] ∧ e.index = some 31 := by
  obtain ⟨hfits, -⟩ := refused_for_class "- /\\[[:a:]**[[:DIGIT:]]x[![:b:][[:]/"
  obtain ⟨-, hcompile⟩ := hfits (by decide) (by decide) (by decide)
  have herror : compile (some "- /\\[[:a:]**[[:DIGIT:]]x[![:b:][[:]/") =
      .error ⟨.unknownClass [], "- /\\[[:a:]**[[:DIGIT:]]x[![:b:][[:]/", some 31⟩ := rfl
  exact ⟨_, herror, (hcompile ⟨'-', _, rfl, rfl⟩).isForClass [] _ herror rfl, rfl⟩

end Pattern

end ExcludeRules
