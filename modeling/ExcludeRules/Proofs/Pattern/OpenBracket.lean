/-
Brackets that are never closed.

A rule with an opening bracket behind which no closing bracket stands is refused, and
the error names its text.  There is one exception: a question mark and a star that
stands alone are written as bracket expressions of their own, also behind an open
bracket, and the closing bracket of what is written closes the open one too.
Main statements:
  * `unclosed_of_open_bracket` : a body with such a bracket leaves it open;
  * `compile_error_of_open_bracket` : such a rule is refused;
  * `compile_open_bracket_mark` : the exception.
-/
import ExcludeRules.Proofs.Pattern.Acceptance
import ExcludeRules.Proofs.Rule.Marks

namespace ExcludeRules

open Expression (Mode)

namespace Rule

/-- **A body with a bracket that is never closed leaves it open.** -/
theorem unclosed_of_open_bracket {body source pre post : List Char}
    (hbody : body = pre ++ '[' :: post) (hpre : endsPaired pre = true) (hpost : ']' ∉ post)
    (hmarks : writesBracket 0 post = false) (hsource : writeBody body = .ok source) :
    Expression.Unclosed source := by
  obtain ⟨-, -, -, rfl⟩ := writeBody_eq_ok_iff.mp hsource
  have hwild : hasWildcards body = true := by
    rw [hbody, hasWildcards, List.any_append, List.any_cons]
    simp
  have hopen : ']' ∉ '[' :: post := by simpa using hpost
  have hbehind := forall_glyphs_ne_close hopen ((writesBracket_cons (by decide) post).trans hmarks)
  have hfirst := @Token.first_open true post hpost
  -- the tokens of the body are those in front of the bracket, the bracket and those behind it
  have htokens : mergeStars (tokens body) =
      mergeStars (tokensFrom true 0 pre) ++ mergeStars (tokensFrom true 0 ('[' :: post)) := by
    rw [tokens, hwild, hbody, tokensFrom_append_bracket hpre hpost, tokensFrom_cons, hfirst,
      mergeStars_append rfl, mergeStars_cons_of_not_star rfl]
  have hglyphs : ∃ gs, (mergeStars (tokensFrom true 0 ('[' :: post))).flatMap Token.glyphs =
      .plain '[' :: gs := by
    rw [mergeStars_tokensFrom_cons (by decide) hfirst, List.flatMap_cons, Token.glyphs]
    split
    · exact ⟨_, rfl⟩
    · exact ⟨_, rfl⟩
  obtain ⟨gs, hgs⟩ := hglyphs
  have hclose : ∀ g ∈ gs, g ≠ .plain ']' := by
    intro g hg
    have hmem : g ∈ (mergeStars (tokensFrom true 0 ('[' :: post))).flatMap Token.glyphs :=
      hgs ▸ List.mem_cons_of_mem _ hg
    obtain ⟨t, ht, hgt⟩ := List.mem_flatMap.mp hmem
    exact hbehind t ht g hgt
  have hsound := mergeStars_sound (tokensFrom_sound true 0 pre)
  -- in front of the bracket the machine is outside of brackets or still in older ones; behind
  -- it, it is in brackets, and no glyph leads out of them
  refine ⟨_, glyphs_flatMap_write (mergeStars_sound (tokens_sound body)), ?_⟩
  rw [htokens, List.flatMap_append, hgs]
  refine (ends_run_tokens hsound (.inl rfl)).append fun m ps hps => ?_
  exact (Mode.ends_run_open hps.1 hclose).imp fun _ _ h => h.1

end Rule

namespace Pattern

/-- **A rule with a bracket that is never closed is refused.**  An opening bracket that no
backslash escapes, and behind which no closing one stands, is an error that names the
text, unless a question mark or a star that stands alone comes behind it. -/
theorem compile_error_of_open_bracket {text : String} {pre post : List Char}
    (htext : Rule.IsRuleText text.toList)
    (hbody : (Rule.Stem.cut text.toList).body = pre ++ '[' :: post)
    (hpre : Rule.endsPaired pre = true) (hpost : ']' ∉ post)
    (hmarks : Rule.writesBracket 0 post = false) :
    ∃ e, compile (some text) = .error e ∧ e.pattern = text := by
  rw [compile_of_isRuleText htext]
  cases hrule : compileRule text with
  | error e => exact ⟨e, rfl, pattern_of_compileRule_error hrule⟩
  | ok rule =>
    obtain ⟨source, e, stem, hsource, hread, -, -⟩ := compileRule_eq_ok_iff.mp hrule
    obtain ⟨-, stem', body, hstem, hwrite, rfl⟩ := Rule.write_eq_ok_iff.mp hsource
    obtain ⟨-, -, rfl⟩ := Rule.Stem.ofText_eq_ok_iff_cut.mp hstem
    have hopen := Rule.unclosed_of_open_bracket hbody hpre hpost hmarks hwrite
    obtain ⟨f, -, hfault⟩ := Rule.read_frame_of_unclosed (Rule.Stem.cut text.toList) hopen
    rw [hfault] at hread
    cases hread

/-- An escaped bracket, a class and a set do not close the bracket that comes last; two
stars side by side and an escaped question mark are no exception. -/
theorem compile_error_of_open_bracket_last :
    ∃ e, compile (some "- /\\[a[[:digit:]][b]x[!c**\\?/") = .error e ∧
      e.pattern = "- /\\[a[[:digit:]][b]x[!c**\\?/" := by
  have htext : Rule.IsRuleText "- /\\[a[[:digit:]][b]x[!c**\\?/".toList := ⟨'-', _, rfl, rfl⟩
  have hbody : (Rule.Stem.cut "- /\\[a[[:digit:]][b]x[!c**\\?/".toList).body =
      "\\[a[[:digit:]][b]x".toList ++ '[' :: "!c**\\?".toList := rfl
  exact compile_error_of_open_bracket htext hbody rfl (by decide) rfl

/-- A question mark is written with a closing bracket, and the rule is accepted. -/
theorem compile_open_bracket_mark :
    Rule.IsRuleText "[?".toList ∧
      (Rule.Stem.cut "[?".toList).body = [] ++ '[' :: "?".toList ∧
      Rule.endsPaired [] = true ∧ ']' ∉ "[?".toList ∧
      ∃ rule, compile (some "[?") = .ok (.compiled rule) := by
  obtain ⟨rule, hrule, -⟩ := exists_compiled "[?" (p := fun _ => true) ⟨'[', _, rfl, rfl⟩
    (by decide +kernel)
  exact ⟨⟨'[', _, rfl, rfl⟩, rfl, rfl, by decide, rule, hrule⟩

end Pattern

end ExcludeRules
