/-
Rules that look at the last segment of a path.

A rule that is neither anchored nor for directories covers a path if its body takes the
last segments of it, one or more, with the slashes between them.  Stars and question
marks take no slash unless two stars stand side by side; members of a bracket
expression or of a class may be a slash, and then such a rule spans segments.  Main
statements:
  * `covers_joined_iff` : the body takes the last segments of what is covered;
  * `Takes.no_slash` : what a body without bracket expressions takes;
  * `looksAtLast_of_no_slash` : when a rule looks at the last segment alone;
  * `not_looksAtLast_negated` : a rule that names no slash, and spans segments.
-/
import ExcludeRules.Proofs.Pattern.Globbing
import ExcludeRules.Proofs.Pattern.Rerooting

namespace ExcludeRules

open Expression (Atom)
open ExcludeRules.Path (IsProper joined)

/-! ### Without slashes -/

namespace Rule

theorem hasDoubleStar_append {rest : List Char} (h : hasDoubleStar rest = true)
    (before : List Char) : hasDoubleStar (before ++ rest) = true := by
  induction before with
  | nil => exact h
  | cons c before ih =>
    rw [List.cons_append]
    unfold hasDoubleStar
    split
    case h_1 => rfl
    case h_2 heq =>
      obtain ⟨-, rfl⟩ := List.cons_eq_cons.mp heq
      exact ih
    case h_3 heq => cases heq

/-- Of the classes four hold the slash. -/
theorem CharClass.holds_slash_iff {cls : CharClass} :
    cls.holds '/' = true ↔ cls ∈ [.ascii, .graph, .print, .punct] := by
  cases cls <;> decide

namespace Glob

theorem Begins.suffix {escapes : Bool} {body rest : List Char} {e : Element}
    (h : Begins escapes body e rest) : rest <:+ body := by
  cases h with
  | star => exact List.suffix_cons _ _
  | stars => exact List.suffix_append _ _
  | mark => exact List.suffix_cons _ _
  | named => exact List.suffix_append _ _
  | @escaped c => exact List.suffix_append ['\\', c] rest
  | @kept c => exact List.suffix_append ['\\', c] rest
  | backslash => exact List.suffix_cons _ _
  | plain => exact List.suffix_cons _ _

/-- The characters that stand for themselves stand in the body. -/
theorem Begins.literal_subset {escapes : Bool} {body rest l : List Char}
    (h : Begins escapes body (.literal l) rest) : l ⊆ body := by
  cases h with
  | @escaped c => exact List.Subset.trans (by simp) (List.subset_cons_self _ _)
  | @kept c => exact List.subset_append_left ['\\', c] rest
  | backslash => exact List.subset_append_left ['\\'] rest
  | @plain c => exact List.subset_append_left [c] rest

/-- The body names no slash: as a character, by two stars, or by a class that holds it. -/
structure NamesNoSlash (body : List Char) : Prop where
  no_slash : '/' ∉ body
  no_stars : hasDoubleStar body = false
  no_class : ∀ cls name, CharClass.IsNamed cls name →
    CharClass.opening ++ name ++ CharClass.closing <:+: body →
      cls ∉ [.ascii, .graph, .print, .punct]

theorem NamesNoSlash.of_suffix {body rest : List Char} (h : NamesNoSlash body)
    (hrest : rest <:+ body) : NamesNoSlash rest := by
  refine ⟨fun hmem => h.no_slash (hrest.mem hmem), ?_, fun cls name hname hwithin =>
    h.no_class cls name hname (hwithin.trans hrest.isInfix)⟩
  obtain ⟨before, rfl⟩ := hrest
  exact Bool.eq_false_iff.mpr fun hstars =>
    Bool.eq_false_iff.mp h.no_stars (hasDoubleStar_append hstars before)

theorem Begins.no_slash {escapes : Bool} {body rest u : List Char} {e : Element}
    (h : Begins escapes body e rest) (hbody : NamesNoSlash body) (hu : e.Takes u) : '/' ∉ u := by
  cases e with
  | anything =>
    cases h with
    | stars hn =>
      obtain ⟨m, rfl⟩ := Nat.exists_eq_add_of_le' hn
      exact absurd rfl (Bool.eq_false_iff.mp hbody.no_stars)
  | segment => exact hu
  | single =>
    obtain ⟨c, rfl, hc⟩ := hu
    exact fun hmem => hc (List.mem_singleton.mp hmem).symm
  | member cls =>
    cases h with
    | named hname =>
      obtain ⟨c, rfl, hc⟩ := hu
      intro hmem
      obtain rfl := List.mem_singleton.mp hmem
      exact hbody.no_class cls _ hname (List.prefix_append _ _).isInfix
        (CharClass.holds_slash_iff.mp hc)
  | literal l =>
    obtain rfl : u = l := hu
    exact fun hmem => hbody.no_slash (h.literal_subset hmem)

/-- A body that names no slash takes none. -/
theorem Takes.no_slash {escapes : Bool} {body text : List Char} (h : Takes escapes body text)
    (hbody : NamesNoSlash body) : '/' ∉ text := by
  induction h with
  | nil => exact List.not_mem_nil
  | cons hbegins hu _ ih =>
    intro hmem
    rcases List.mem_append.mp hmem with hmem | hmem
    · exact hbegins.no_slash hbody hu hmem
    · exact ih (hbody.of_suffix hbegins.suffix) hmem

end Glob

/-! ### The last segments -/

variable {stem : Stem} {atoms : List Atom}

/-- The body takes the last segments of a path, one or more. -/
theorem covers_joined_iff (hfree : stem.anchored = false) (hfile : stem.directoryOnly = false)
    {segments : List (List Char)} (hne : segments ≠ [])
    (hsegments : ∀ s ∈ segments, IsProper s) :
    Covers stem atoms (joined segments) ↔
      ∃ as bs, bs ≠ [] ∧ segments = as ++ bs ∧ Atom.TakeAll atoms (joined bs) := by
  constructor
  · rintro ⟨u, v, w, hpath, hv, hu, hw⟩
    obtain rfl : w = [] := by simpa [Stem.MayFollow, hfree, hfile] using hw
    rw [List.append_nil] at hpath
    rcases hu with rfl | ⟨-, hslash⟩
    · exact ⟨[], segments, hne, rfl, hpath ▸ hv⟩
    · -- the slash in front of the stretch stands between two segments
      obtain ⟨x, rfl⟩ := List.getLast?_eq_some_iff.mp hslash
      rw [List.append_assoc, List.singleton_append] at hpath
      obtain ⟨as, bs, -, hbs, rfl, -, rfl⟩ :=
        Text.join_eq_append_cons (fun s hs => (hsegments s hs).no_slash) hpath
      exact ⟨as, bs, hbs, rfl, hv⟩
  · rintro ⟨as, bs, hbs, rfl, hbody⟩
    have hlast : Covers stem atoms (joined bs) :=
      ⟨[], joined bs, [], by simp, hbody, .inl rfl, .inl rfl⟩
    exact hlast.outer hfree hbs

end Rule

/-! ### Compiled rules -/

namespace CompiledRule

/-- The rule accepts a path exactly if it accepts the last segment alone. -/
def LooksAtLast (rule : CompiledRule) : Prop :=
  ∀ segments last, (∀ s ∈ segments, IsProper s) → IsProper last →
    (rule.expression.accepts (joined (segments ++ [last])) = true ↔
      rule.expression.accepts last = true)

variable {rule : CompiledRule} {stem : Rule.Stem} {atoms : List Atom}

theorem Means.accepts_of_last (h : rule.Means stem atoms) (hfree : stem.anchored = false)
    {last : List Char} (hlast : rule.expression.accepts last = true)
    (segments : List (List Char)) :
    rule.expression.accepts (joined (segments ++ [last])) = true := by
  have hcovers : Rule.Covers stem atoms (joined [last]) := (h.accepts_iff last).mp hlast
  exact (h.accepts_iff _).mpr (hcovers.outer hfree (List.cons_ne_nil last []))

/-- A rule of which the body takes no slash looks at the last segment. -/
theorem Means.looksAtLast (h : rule.Means stem atoms) (hfree : stem.anchored = false)
    (hfile : stem.directoryOnly = false) (hslash : ∀ v, Atom.TakeAll atoms v → '/' ∉ v) :
    rule.LooksAtLast := by
  intro segments last hsegments hlast
  refine ⟨fun haccepts => ?_, fun haccepts => h.accepts_of_last hfree haccepts segments⟩
  have hproper : ∀ s ∈ segments ++ [last], IsProper s :=
    List.forall_mem_append.mpr ⟨hsegments, List.forall_mem_singleton.mpr hlast⟩
  have hcovers := (h.accepts_iff _).mp haccepts
  rw [Rule.covers_joined_iff hfree hfile (by simp) hproper] at hcovers
  obtain ⟨as, bs, hbs, hcut, hbody⟩ := hcovers
  -- no slash is taken, so it is one segment that the body takes, and that is the last
  obtain ⟨s, rfl⟩ := Path.exists_eq_singleton hbs (hslash _ hbody)
  obtain ⟨-, hs⟩ := List.append_inj' hcut rfl
  obtain rfl : last = s := List.singleton_inj.mp hs
  exact (h.accepts_iff last).mpr ⟨[], last, [], by simp, hbody, .inl rfl, .inl rfl⟩

end CompiledRule

namespace Pattern

/-- **Rules that name no slash.**  Such a rule accepts a path if it accepts the last
segment of it.  Conversely it accepts no other paths if no character set of its
expression holds the slash; this is so for a rule without bracket expressions in which
no two stars stand side by side, unless it has a class that the slash is a member of. -/
theorem looksAtLast_of_no_slash {text : String} {rule : CompiledRule}
    (hrule : compile (some text) = .ok (.compiled rule))
    (hslash : '/' ∉ Rule.Stem.unmarked text.toList) :
    (∀ segments last, rule.expression.accepts last = true →
      rule.expression.accepts (joined (segments ++ [last])) = true) ∧
    (∀ stem atoms, Rule.Denotes text.toList stem atoms →
      (∀ a ∈ atoms, a.set.contains '/' = false) → rule.LooksAtLast) ∧
    (Rule.Glob.Simple (Rule.Stem.unmarked text.toList) →
      Rule.Glob.NamesNoSlash (Rule.Stem.unmarked text.toList) → rule.LooksAtLast) := by
  obtain ⟨-, hcompile⟩ := compile_eq_compiled_iff.mp hrule
  obtain ⟨stem, atoms, hdenotes, hmeans⟩ := denotes_of_compileRule hcompile
  obtain ⟨hfree, hfile, hbody⟩ := Rule.Stem.ofText_of_no_slash hdenotes.stem_eq hslash
  refine ⟨fun segments last hlast => hmeans.accepts_of_last hfree hlast segments, ?_, ?_⟩
  · intro stem' atoms' hdenotes' hsets
    obtain rfl : stem = stem' := Except.ok.inj (hdenotes.stem_eq.symm.trans hdenotes'.stem_eq)
    refine (means_of_denotes hcompile hdenotes').looksAtLast hfree hfile fun v hv hmem => ?_
    obtain ⟨a, ha, hset⟩ := Expression.exists_contains_of_mem hv hmem
    rw [hsets a ha] at hset
    cases hset
  · intro hsimple hnone
    rw [← hbody] at hsimple hnone
    refine (means_atoms hcompile hdenotes.stem_eq hsimple).looksAtLast hfree hfile fun v hv => ?_
    rw [(Rule.Glob.readable_of_simple hsimple).takeAll_atoms_iff] at hv
    exact hv.no_slash hnone

/-- No class that holds the slash is written with the letters of `Upper` only. -/
theorem looksAtLast_of_no_slash_upper :
    ∃ rule, compile (some "- *[[:Upper:]]?") = .ok (.compiled rule) ∧ rule.LooksAtLast := by
  obtain ⟨rule, hrule, -⟩ := exists_compiled "- *[[:Upper:]]?" (p := fun _ => true)
    ⟨'-', _, rfl, rfl⟩ (by decide +kernel)
  have hclass : Rule.Glob.Simple "[[:Upper:]]?".toList :=
    @Rule.Glob.Simple.named .upper "Upper".toList _ rfl (.plain (by decide) .nil)
  have hnone : Rule.Glob.NamesNoSlash "*[[:Upper:]]?".toList := by
    refine ⟨by decide, by decide, fun cls name hname hwithin hcls => ?_⟩
    have hname' : name ⊆ "*[[:Upper:]]?".toList := fun c hc =>
      hwithin.mem (by simp [hc])
    have hletters : ∀ c ∈ cls.name.toList, c ∈ "*[[:Upper:]]?".toList.map Char.toLower := by
      rw [← hname]
      exact List.map_subset _ hname'
    simp only [List.mem_cons, List.not_mem_nil, or_false] at hcls
    rcases hcls with rfl | rfl | rfl | rfl
    · exact absurd (hletters 's' (by decide)) (by decide)
    · exact absurd (hletters 'g' (by decide)) (by decide)
    · exact absurd (hletters 'i' (by decide)) (by decide)
    · exact absurd (hletters 'n' (by decide)) (by decide)
  have hslash : '/' ∉ Rule.Stem.unmarked "- *[[:Upper:]]?".toList := by decide
  obtain ⟨-, -, hglob⟩ := looksAtLast_of_no_slash hrule hslash
  exact ⟨rule, hrule, hglob (.plain (by decide) hclass) hnone⟩

/-- A rule that accepts the path and not its last segment, if its compiling can be run. -/
theorem exists_not_looksAtLast {text : String} (htext : Rule.IsRuleText text.toList)
    (hrun : (compileRule text).toOption.any (fun rule =>
      rule.expression.accepts "x/y".toList && !rule.expression.accepts "y".toList) = true) :
    ∃ rule, compile (some text) = .ok (.compiled rule) ∧
      rule.expression.accepts "x/y".toList = true ∧
      rule.expression.accepts "y".toList = false ∧ ¬ rule.LooksAtLast := by
  obtain ⟨rule, hrule, haccepts⟩ := exists_compiled text htext hrun
  obtain ⟨hpath, hlast⟩ := (Bool.and_eq_true ..).mp haccepts
  rw [Bool.not_eq_true'] at hlast
  refine ⟨rule, hrule, hpath, hlast, fun hlooks => ?_⟩
  have hx : IsProper "x".toList := ⟨by decide, by decide, by decide, by decide⟩
  have hy : IsProper "y".toList := ⟨by decide, by decide, by decide, by decide⟩
  have hsame := hlooks ["x".toList] "y".toList (List.forall_mem_singleton.mpr hx) hy
  exact Bool.eq_false_iff.mp hlast (hsame.mp hpath)

/-- A negated bracket expression takes the slash, though the rule names none, and the path
is accepted with the segments around it. -/
theorem not_looksAtLast_negated :
    '/' ∉ Rule.Stem.unmarked "x[!a]y".toList ∧
      Rule.hasDoubleStar (Rule.Stem.unmarked "x[!a]y".toList) = false ∧
      ∃ rule, compile (some "x[!a]y") = .ok (.compiled rule) ∧
        rule.expression.accepts "x/y".toList = true ∧
        rule.expression.accepts "y".toList = false ∧ ¬ rule.LooksAtLast :=
  ⟨by decide, by decide, exists_not_looksAtLast ⟨'x', _, rfl, rfl⟩ (by decide +kernel)⟩

/-- So does a class that holds the slash. -/
example :
    ∃ rule, compile (some "x[[:Punct:]]y") = .ok (.compiled rule) ∧
      rule.expression.accepts "x/y".toList = true ∧
      rule.expression.accepts "y".toList = false ∧ ¬ rule.LooksAtLast :=
  exists_not_looksAtLast ⟨'x', _, rfl, rfl⟩ (by decide +kernel)

end Pattern

end ExcludeRules
