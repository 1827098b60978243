/-
Rules without bracket expressions are globs.

The expression of such a rule accepts exactly the paths in which the body takes, as a
glob, a stretch that whole segments may precede and follow.  Main statement:
  * `accepts_iff_takes` : the paths that a rule without bracket expressions accepts.
-/
import ExcludeRules.Proofs.Pattern.Compiling
import ExcludeRules.Proofs.Rule.GlobTokens

namespace ExcludeRules.Pattern

/-- A rule without bracket expressions is read as the atoms of its body. -/
theorem means_atoms {text : String} {rule : CompiledRule} {stem : Rule.Stem}
    (hrule : compileRule text = .ok rule) (hstem : Rule.Stem.ofText text.toList = .ok stem)
    (hsimple : Rule.Glob.Simple stem.body) :
    rule.Means stem (Rule.Glob.atoms (Rule.hasWildcards stem.body) stem.body) := by
  obtain ⟨stem', as, hdenotes, -⟩ := denotes_of_compileRule hrule
  obtain rfl : stem = stem' := Except.ok.inj (hstem.symm.trans hdenotes.stem_eq)
  obtain ⟨source, hsource, -⟩ := hdenotes.body
  have hreads := (Rule.Glob.readable_of_simple hsimple).reads hsource
  exact means_of_denotes hrule ⟨hdenotes.length_le, hstem, source, hsource, hreads⟩

/-- **A rule without bracket expressions is a glob.**  Its expression accepts the paths
in which the body takes a stretch, element by element, with nothing or whole segments
before it, and behind it nothing or, for an anchored rule and a rule for directories,
what lies below. -/
theorem accepts_iff_takes {text : String} {rule : CompiledRule} {stem : Rule.Stem}
    (hrule : compile (some text) = .ok (.compiled rule))
    (hstem : Rule.Stem.ofText text.toList = .ok stem) (hsimple : Rule.Glob.Simple stem.body)
    (path : List Char) :
    rule.expression.accepts path = true ↔
      ∃ u v w, path = u ++ v ++ w ∧
        Rule.Glob.Takes (Rule.hasWildcards stem.body) stem.body v ∧
        stem.MayPrecede u ∧ stem.MayFollow w := by
  have hmeans := means_atoms (compile_eq_compiled_iff.mp hrule).2 hstem hsimple
  rw [hmeans.accepts_iff]
  refine exists_congr fun u => exists_congr fun v => exists_congr fun w => ?_
  rw [(Rule.Glob.readable_of_simple hsimple).takeAll_atoms_iff]

theorem accepts_iff_takes_digit :
    ∃ rule, compile (some "- *\\?[[:Digit:]]/") = .ok (.compiled rule) ∧
      ∀ path, rule.expression.accepts path = true ↔
        ∃ u v w, path = u ++ v ++ w ∧
          Rule.Glob.Takes true "*\\?[[:Digit:]]".toList v ∧
          (u = [] ∨ u.getLast? = some '/') ∧ (w = [] ∨ w.head? = some '/') := by
  have hstem : Rule.Stem.ofText "- *\\?[[:Digit:]]/".toList =
      .ok ⟨"*\\?[[:Digit:]]/".toList, false⟩ := rfl
  have hdigit : Rule.Glob.Simple "[[:Digit:]]".toList :=
    @Rule.Glob.Simple.named .digit "Digit".toList [] rfl .nil
  have hsimple : Rule.Glob.Simple "*\\?[[:Digit:]]".toList := .plain (by decide) (.pair hdigit)
  obtain ⟨rule, hrule, -⟩ := exists_compiled "- *\\?[[:Digit:]]/" (p := fun _ => true)
    ⟨'-', _, rfl, rfl⟩ (by decide +kernel)
  refine ⟨rule, hrule, fun path => (accepts_iff_takes hrule hstem hsimple path).trans ?_⟩
  have hdir : Rule.Stem.directoryOnly ⟨"*\\?[[:Digit:]]/".toList, false⟩ = true := rfl
  have hwild : Rule.hasWildcards "*\\?[[:Digit:]]".toList = true := rfl
  have hbody : Rule.Stem.body ⟨"*\\?[[:Digit:]]/".toList, false⟩ = "*\\?[[:Digit:]]".toList := rfl
  simp only [hbody, hwild, Rule.Stem.MayPrecede, Rule.Stem.MayFollow, hdir, or_true, true_and]

end ExcludeRules.Pattern
