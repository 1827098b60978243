/-
Which rules are accepted.

A rule without bracket expressions is refused for its marker, for its size or for the
number of its wildcards, and for nothing else: its expression can always be read.  An
error names the whole text, whatever part of it was at fault.  Main statements:
  * `pattern_of_compileRule_error` : the text that an error names;
  * `compile_error_of_unclosed` : a body that cannot be read to its end;
  * `write_eq_ok_iff_of_simple` : when a rule without bracket expressions is written;
  * `compile_simple_dichotomy` : such a rule is accepted, or an error names it.
-/
import ExcludeRules.Proofs.Pattern.Compiling
import ExcludeRules.Proofs.Rule.Stem
import ExcludeRules.Proofs.Rule.Wildcards

namespace ExcludeRules

/-! ### The text that an error names -/

namespace Rule

theorem pattern_of_checkSize_error {text : List Char} {wildcards : Nat} {e : Error}
    (h : checkSize text wildcards = .error e) : e.pattern = String.ofList text := by
  unfold checkSize at h
  split at h
  · cases h
    rfl
  · split at h
    · cases h
      rfl
    · cases h

theorem Stem.pattern_of_ofText_error {text : List Char} {e : Error}
    (h : ofText text = .error e) : e.pattern = String.ofList text := by
  have hrule : (if ['-', ' '].isPrefixOf text then text.drop 2 else text) = unmarked text := rfl
  unfold ofText at h
  rw [hrule] at h
  generalize unmarked text = rule at h
  dsimp only at h
  by_cases hplus : ['+', ' '].isPrefixOf rule = true
  · rw [if_pos hplus] at h
    cases h
    rfl
  · rw [if_neg hplus] at h
    split at h
    case h_1 =>
      cases h
      rfl
    case h_2 => cases h
    case h_3 => cases h

/-- An error in the body is told as an error of the whole rule. -/
theorem pattern_of_write_error {text : List Char} {e : Error} (h : write text = .error e) :
    e.pattern = String.ofList text := by
  unfold write at h
  rcases Outcome.bind_eq_error_iff.mp h with hsize | ⟨_, -, h⟩
  · exact pattern_of_checkSize_error hsize
  · rcases Outcome.bind_eq_error_iff.mp h with hstem | ⟨stem, -, h⟩
    · exact Stem.pattern_of_ofText_error hstem
    · rcases Outcome.bind_eq_error_iff.mp h with hbody | ⟨body, -, h⟩
      · obtain ⟨e', -, he⟩ := Outcome.mapError_eq_error_iff.mp hbody
        rw [← he]
        rfl
      · cases h

end Rule

namespace Pattern

theorem pattern_of_compileRule_error {text : String} {e : Rule.Error}
    (h : compileRule text = .error e) : e.pattern = text := by
  unfold compileRule at h
  rcases Outcome.bind_eq_error_iff.mp h with hwrite | ⟨source, hsource, h⟩
  · rw [Rule.pattern_of_write_error hwrite, String.ofList_toList]
  · rcases Outcome.bind_eq_error_iff.mp h with hread | ⟨expression, -, h⟩
    · obtain ⟨fault, -, rfl⟩ := Outcome.mapError_eq_error_iff.mp hread
      rfl
    · -- whether it is for directories is asked of a stem that was found before
      obtain ⟨-, stem, body, hstem, -, -⟩ := Rule.write_eq_ok_iff.mp hsource
      rw [Rule.isDirectoryOnly, hstem] at h
      cases h

/-- A line that is neither blank nor a comment is compiled as a rule. -/
theorem compile_of_isRuleText {text : String} (h : Rule.IsRuleText text.toList) :
    compile (some text) = compiled <$> compileRule text := by
  obtain ⟨c, rest, htrim, hc⟩ := h
  simp [compile, htrim, hc]

/-- A rule whose body leaves brackets open is refused. -/
theorem compile_error_of_unclosed {text : String} (htext : Rule.IsRuleText text.toList)
    (h : ∀ source, Rule.writeBody (Rule.Stem.cut text.toList).body = .ok source →
      Expression.Unclosed source) :
    ∃ e, compile (some text) = .error e ∧ e.pattern = text := by
  rw [compile_of_isRuleText htext]
  cases hrule : compileRule text with
  | error e => exact ⟨e, rfl, pattern_of_compileRule_error hrule⟩
  | ok rule =>
    obtain ⟨source, e, stem, hsource, hread, -, -⟩ := compileRule_eq_ok_iff.mp hrule
    obtain ⟨-, stem', body, hstem, hwrite, rfl⟩ := Rule.write_eq_ok_iff.mp hsource
    obtain ⟨-, -, rfl⟩ := Rule.Stem.ofText_eq_ok_iff_cut.mp hstem
    obtain ⟨f, -, hfault⟩ := Rule.read_frame_of_unclosed (Rule.Stem.cut text.toList) (h _ hwrite)
    rw [hfault] at hread
    cases hread

end Pattern

/-! ### Rules without bracket expressions -/

/-- The text is no include, something is left behind its marker, and it keeps to the limits. -/
structure Rule.Fits (text : List Char) : Prop where
  length_le : text.length ≤ 4096
  not_include : ['+', ' '].isPrefixOf (Stem.unmarked text) = false
  ne_nil : Stem.unmarked text ≠ []
  wildcards_le : Glob.wildcards (Stem.cut text).body ≤ 256

namespace Rule

variable {text : List Char}

theorem Fits.ofText_eq (h : Fits text) : Stem.ofText text = .ok (Stem.cut text) :=
  Stem.ofText_eq_ok_iff_cut.mpr ⟨h.not_include, h.ne_nil, rfl⟩

/-- Nothing else is asked of a rule without bracket expressions before it is written. -/
theorem write_eq_ok_iff_of_simple (hsimple : Glob.Simple (Stem.cut text).body) :
    (∃ source, write text = .ok source) ↔ Fits text := by
  constructor
  · rintro ⟨source, hsource⟩
    obtain ⟨hlength, stem, body, hstem, hbody, -⟩ := write_eq_ok_iff.mp hsource
    obtain ⟨hplus, hne, rfl⟩ := Stem.ofText_eq_ok_iff_cut.mp hstem
    obtain ⟨-, -, hcount, -⟩ := writeBody_eq_ok_iff.mp hbody
    rw [hsimple.wildcardCount_eq] at hcount
    exact ⟨hlength, hplus, hne, hcount⟩
  · intro h
    have hlength : (Stem.cut text).body.length ≤ maxLength :=
      Nat.le_trans (Stem.length_body_cut_le text) h.length_le
    have hcount : wildcardCount (Stem.cut text).body ≤ maxWildcards :=
      hsimple.wildcardCount_eq ▸ h.wildcards_le
    have hbody := writeBody_eq_ok_iff.mpr ⟨hsimple.unknownClass?_eq_none, hlength, hcount, rfl⟩
    exact ⟨_, write_eq_ok_iff.mpr ⟨h.length_le, _, _, h.ofText_eq, hbody, rfl⟩⟩

/-- The expression of a rule without bracket expressions can always be read. -/
theorem read_write_of_simple (hsimple : Glob.Simple (Stem.cut text).body) {source : List Char}
    (hsource : write text = .ok source) : ∃ e, Expression.read source = .ok e := by
  obtain ⟨-, stem, body, hstem, hbody, rfl⟩ := write_eq_ok_iff.mp hsource
  obtain ⟨-, -, rfl⟩ := Stem.ofText_eq_ok_iff_cut.mp hstem
  have hreads := (Glob.readable_of_simple hsimple).reads hbody
  obtain ⟨e, he, -⟩ := read_frame (Stem.cut text) hreads
  exact ⟨e, he⟩

end Rule

namespace Pattern

/-- **A rule without bracket expressions is accepted unless it breaks a limit.**  It
compiles if it is at most 4096 characters long, is no include, has something behind its
marker, and counts at most 256 wildcards; otherwise an error names its whole text.
Its expression, once written, can always be read. -/
theorem compile_simple_dichotomy {text : String} (htext : Rule.IsRuleText text.toList)
    (hsimple : Rule.Glob.Simple (Rule.Stem.cut text.toList).body) :
    (Rule.Fits text.toList → ∃ rule, compile (some text) = .ok (.compiled rule)) ∧
      (¬ Rule.Fits text.toList → ∃ e, compile (some text) = .error e ∧ e.pattern = text) ∧
      ∀ source, Rule.write text.toList = .ok source → ∃ e, Expression.read source = .ok e := by
  refine ⟨fun hfits => ?_, fun hfits => ?_, fun source => Rule.read_write_of_simple hsimple⟩
  · obtain ⟨source, hsource⟩ := (Rule.write_eq_ok_iff_of_simple hsimple).mpr hfits
    obtain ⟨e, he⟩ := Rule.read_write_of_simple hsimple hsource
    have hrule := compileRule_eq_ok_iff.mpr ⟨source, e, _, hsource, he, hfits.ofText_eq, rfl⟩
    exact ⟨_, compile_eq_compiled_iff.mpr ⟨htext, hrule⟩⟩
  · rw [compile_of_isRuleText htext]
    cases hrule : compileRule text with
    | error e => exact ⟨e, rfl, pattern_of_compileRule_error hrule⟩
    | ok rule =>
      obtain ⟨source, -, -, hsource, -⟩ := compileRule_eq_ok_iff.mp hrule
      exact absurd ((Rule.write_eq_ok_iff_of_simple hsimple).mp ⟨source, hsource⟩) hfits

/-- An escaped bracket, a class in mixed case, and an anchor behind the marker. -/
theorem compile_simple_dichotomy_class :
    (∃ rule, compile (some "- /a\\[*[[:aLpha:]]+(/") = .ok (.compiled rule)) ∧
      ∃ e, compile (some "- + a\\[*[[:aLpha:]]") = .error e ∧
        e.pattern = "- + a\\[*[[:aLpha:]]" := by
  have halpha : ∀ {rest}, Rule.Glob.Simple rest → Rule.Glob.Simple ("[[:aLpha:]]".toList ++ rest) :=
    fun h => @Rule.Glob.Simple.named .alpha "aLpha".toList _ rfl h
  have hsimple : Rule.Glob.Simple (Rule.Stem.cut "- /a\\[*[[:aLpha:]]+(/".toList).body :=
    .plain (by decide) (.pair (.plain (by decide)
      (halpha (.plain (by decide) (.plain (by decide) .nil)))))
  have hsimple' : Rule.Glob.Simple (Rule.Stem.cut "- + a\\[*[[:aLpha:]]".toList).body :=
    .plain (by decide) (.plain (by decide) (.plain (by decide) (.pair (.plain (by decide)
      (halpha .nil)))))
  obtain ⟨hok, -⟩ := compile_simple_dichotomy ⟨'-', _, rfl, rfl⟩ hsimple
  obtain ⟨-, herror, -⟩ := compile_simple_dichotomy ⟨'-', _, rfl, rfl⟩ hsimple'
  refine ⟨hok ⟨by decide, by decide, by decide, by decide⟩, herror fun hfits => ?_⟩
  exact absurd hfits.not_include (by decide)

end Pattern

end ExcludeRules
