/-
Rules that are one bracket expression of a class and of more members.

Such a rule matches one character of the class or of the members, as long as no hyphen
stands between a member that the class ends with and another one.  There the two are read
as the ends of a range: the rule takes the range too, or is refused if the ends are out of
order.  Main statements:
  * `Means.takesOne` : rules that are a set;
  * `contains_class`, `contains_class_range` : what the sets hold;
  * `compile_classBracketed` : how such a rule compiles, and what it takes;
  * `not_takesOne_blank` : a hyphen behind the class of blanks.
-/
import ExcludeRules.Proofs.Pattern.Acceptance
import ExcludeRules.Proofs.Pattern.Members
import ExcludeRules.Proofs.Rule.ClassMembers

namespace ExcludeRules

namespace Rule

/-! ### What the sets hold -/

theorem contains_append {as bs : List (Char × Char)} {d : Char} :
    (CharSet.ranges false (as ++ bs)).contains d = true ↔
      (CharSet.ranges false as).contains d = true ∨
        (CharSet.ranges false bs).contains d = true := by
  simp [CharSet.contains, List.any_append]

theorem contains_range {a b d : Char} :
    (CharSet.ranges false [(a, b)]).contains d = true ↔ a ≤ d ∧ d ≤ b := by
  simp [CharSet.contains]

theorem contains_members {members : List Char} {d : Char} :
    (CharSet.ranges false (members.map fun c => (c, c))).contains d = true ↔ d ∈ members := by
  rw [contains_of_points]
  simp

theorem contains_class (cls : CharClass) (members : List Char) (d : Char) :
    (CharSet.ranges false (cls.ranges ++ members.map fun c => (c, c))).contains d = true ↔
      cls.holds d = true ∨ d ∈ members := by
  rw [contains_append, cls.contains_ranges, contains_members]

/-- The range holds what it is read in place of. -/
theorem contains_class_range {cls : CharClass} {before : List (Char × Char)} {last c : Char}
    (hranges : cls.ranges = before ++ [(last, last)]) (hle : last ≤ c) (rest : List Char)
    (d : Char) :
    (CharSet.ranges false (before ++ (last, c) :: rest.map fun c => (c, c))).contains d = true ↔
      cls.holds d = true ∨ (last ≤ d ∧ d ≤ c) ∨ d ∈ rest := by
  have hclass : cls.holds d = true ↔
      (CharSet.ranges false before).contains d = true ∨ (last ≤ d ∧ d ≤ last) := by
    rw [← cls.contains_ranges, hranges, contains_append, contains_range]
  have hwithin : last ≤ d ∧ d ≤ last → last ≤ d ∧ d ≤ c :=
    fun h => ⟨h.1, Char.le_trans h.2 hle⟩
  rw [← List.singleton_append, contains_append, contains_append, contains_range,
    contains_members, hclass]
  constructor
  · rintro (h | h)
    · exact .inl (.inl h)
    · exact .inr h
  · rintro ((h | h) | h)
    · exact .inl h
    · exact .inr (.inl (hwithin h))
    · exact .inr h

/-! ### The rule -/

theorem ofText_classBracketed (name members : List Char) :
    Stem.ofText (classBracketed name members) = .ok ⟨classBracketed name members, false⟩ := rfl

theorem directoryOnly_classBracketed (name members : List Char) :
    Stem.directoryOnly ⟨classBracketed name members, false⟩ = false :=
  directoryOnly_append_close (CharClass.opening ++ name ++ [':', ']'] ++ members)

theorem isRuleText_classBracketed (name members : List Char) :
    IsRuleText (classBracketed name members) := ⟨'[', _, rfl, rfl⟩

end Rule

/-- On paths of one segment the rule matches one character with the property. -/
def CompiledRule.TakesOne (rule : CompiledRule) (P : Char → Prop) : Prop :=
  ∀ probe root path c, Candidate.resolve root path = .ok c → '/' ∉ c.relative →
    ((Pattern.compiled rule).matches? probe root path = .ok true ↔ ∃ d, c.relative = [d] ∧ P d)

/-- A rule that is read as a set takes one character of the set. -/
theorem CompiledRule.Means.takesOne {rule : CompiledRule} {stem : Rule.Stem} {set : CharSet}
    {P : Char → Prop} (h : rule.Means stem [.one set]) (hfree : stem.anchored = false)
    (hfile : stem.directoryOnly = false) (hset : ∀ d, set.contains d = true ↔ P d) :
    rule.TakesOne P := by
  intro probe root path c hresolve hslash
  rw [h.matches_iff_of_no_slash hfree hfile hresolve hslash, Expression.takeAll_singleton]
  constructor
  · rintro ⟨-, d, hd, hcontains⟩
    exact ⟨d, hd, (hset d).mp hcontains⟩
  · rintro ⟨d, hd, hP⟩
    have hne : c.relative ≠ [] := by
      rw [hd]
      exact List.cons_ne_nil _ _
    exact ⟨hne, d, hd, (hset d).mpr hP⟩

namespace Pattern

section Compile

variable {cls : Rule.CharClass} {name members : List Char}

/-- A class and members that are read as a set are a rule that takes one character. -/
theorem compile_classBracketed_of_run (hname : cls.IsNamed name) (hne : members ≠ [])
    (hmembers : ∀ c ∈ members, Rule.IsClassMember c)
    (hlength : (Rule.classBracketed name members).length ≤ Rule.maxLength) {set : CharSet}
    (hrun : Expression.Mode.outside.run
        ((Rule.mergeStars (Rule.tokens (Rule.classBracketed name members))).flatMap
          Rule.Token.glyphs) = .ok (.outside, [.one set]))
    {P : Char → Prop} (hset : ∀ d, set.contains d = true ↔ P d) :
    ∃ rule, compile (some (String.ofList (Rule.classBracketed name members))) =
        .ok (.compiled rule) ∧ rule.TakesOne P := by
  have hfile := Rule.directoryOnly_classBracketed name members
  have hdenotes := @Rule.denotes_of_run _ (Rule.ofText_classBracketed name members) hfile hlength
    (Rule.writeBody_classBracketed hname hne hmembers hlength) [.one set] hrun
  obtain ⟨rule, hrule, hmeans⟩ :=
    compile_of_denotes (Rule.isRuleText_classBracketed name members) hdenotes
  exact ⟨rule, hrule, hmeans.takesOne rfl hfile hset⟩

/-- **A class that shares its brackets with more members.**  Where a hyphen does not stand
between the last member of the class and another member, the rule compiles within the limits
and takes the characters of the class and the members.  Where it does, the two are the ends of
a range, which the rule takes too; it is refused if they are out of order. -/
theorem compile_classBracketed (hname : cls.IsNamed name) (hne : members ≠ [])
    (hmembers : ∀ c ∈ members, Rule.IsClassMember c) (hhyphen : '-' ∉ members.tail)
    (hlength : (Rule.classBracketed name members).length ≤ 4096) :
    ((¬ ∃ last c rest, Rule.MakesRange cls members last c rest) →
      ∃ rule, compile (some (String.ofList (Rule.classBracketed name members))) =
          .ok (.compiled rule) ∧
        rule.TakesOne fun d => cls.holds d = true ∨ d ∈ members) ∧
    ∀ last c rest, Rule.MakesRange cls members last c rest →
      (last ≤ c →
        ∃ rule, compile (some (String.ofList (Rule.classBracketed name members))) =
            .ok (.compiled rule) ∧
          rule.TakesOne fun d => cls.holds d = true ∨ (last ≤ d ∧ d ≤ c) ∨ d ∈ rest) ∧
      (c < last →
        ∃ e, compile (some (String.ofList (Rule.classBracketed name members))) = .error e ∧
          e.pattern = String.ofList (Rule.classBracketed name members)) := by
  refine ⟨fun hfree => ?_, fun last c rest hrange => ⟨fun hle => ?_, fun hlt => ?_⟩⟩
  · have hrun := Rule.run_classBracketed hname hne hmembers hhyphen hfree
    exact compile_classBracketed_of_run hname hne hmembers hlength hrun
      (Rule.contains_class cls members)
  · obtain ⟨before, hranges, hrun⟩ :=
      Rule.run_classBracketed_range hname hmembers hhyphen hrange hle
    exact compile_classBracketed_of_run hname hne hmembers hlength hrun
      (Rule.contains_class_range hranges hle rest)
  · have htext := @String.toList_ofList (Rule.classBracketed name members)
    have hisrule : Rule.IsRuleText (String.ofList (Rule.classBracketed name members)).toList := by
      rw [htext]
      exact Rule.isRuleText_classBracketed name members
    refine compile_error_of_unclosed hisrule fun source hsource => ?_
    have hbody : (Rule.Stem.cut (Rule.classBracketed name members)).body =
        Rule.classBracketed name members :=
      Rule.Stem.body_of_file (Rule.directoryOnly_classBracketed name members)
    rw [htext, hbody] at hsource
    exact Rule.unclosed_of_classBracketed hname hmembers hrange hlt hsource

/-- The name may have capitals; behind a class that ends with a range the hyphen is a member. -/
theorem compile_classBracketed_digit :
    ∃ rule, compile (some "[[:Digit:]-^a]") = .ok (.compiled rule) ∧
      rule.TakesOne fun d => Rule.CharClass.digit.holds d = true ∨ d ∈ "-^a".toList := by
  have hmembers : ∀ c ∈ "-^a".toList, Rule.IsClassMember c := by simp [Rule.IsClassMember]
  have hfree : ¬ ∃ last c rest, Rule.MakesRange .digit "-^a".toList last c rest := by
    rintro ⟨last, c, rest, hlast, -⟩
    cases hlast
  exact (@compile_classBracketed .digit "Digit".toList "-^a".toList rfl (by decide) hmembers
    (by decide) (by decide)).1 hfree

/-- The class of blanks ends with a tab, so a hyphen and a letter behind it are a range from the
tab to the letter, and the rule takes a capital that is neither blank nor a member. -/
theorem not_takesOne_blank :
    Rule.CharClass.blank.IsNamed "blank".toList ∧ (∀ c ∈ "-a".toList, Rule.IsClassMember c) ∧
      Rule.classBracketed "blank".toList "-a".toList = "[[:blank:]-a]".toList ∧
      ∃ rule, compile (some "[[:blank:]-a]") = .ok (.compiled rule) ∧
        (∀ probe, (compiled rule).matches? probe "/r" (some "A") = .ok true) ∧
        ¬ rule.TakesOne fun d => Rule.CharClass.blank.holds d = true ∨ d ∈ "-a".toList := by
  obtain ⟨rule, hrule, hrun⟩ := exists_compiled "[[:blank:]-a]" (p := fun rule =>
      !rule.directoryOnly && rule.matchesRelative "A".toList)
    ⟨'[', _, rfl, rfl⟩ (by decide +kernel)
  obtain ⟨hfile, hcapital⟩ := Bool.and_eq_true_iff.mp hrun
  have hresolve : ∃ c, Candidate.resolve "/r" (some "A") = .ok c ∧ c.relative = "A".toList :=
    ⟨_, rfl, rfl⟩
  obtain ⟨c, hc, hrelative⟩ := hresolve
  have hhit : ∀ probe, (compiled rule).matches? probe "/r" (some "A") = .ok true := by
    intro probe
    rw [CompiledRule.matches?_of_file (by simpa using hfile) hc, hrelative, hcapital]
  refine ⟨rfl, by simp [Rule.IsClassMember], rfl, rule, hrule, hhit, fun htakes => ?_⟩
  have hslash : '/' ∉ c.relative := by
    rw [hrelative]
    decide
  obtain ⟨d, hd, hmember⟩ :=
    (htakes (.ofTable fun _ => .missing) "/r" (some "A") c hc hslash).mp (hhit _)
  rw [hrelative] at hd
  obtain rfl : 'A' = d := List.singleton_inj.mp hd
  exact absurd hmember (by decide)

end Compile

end Pattern

end ExcludeRules
