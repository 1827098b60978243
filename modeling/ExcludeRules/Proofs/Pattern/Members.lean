/-
Rules that are one bracket expression.

Such a rule compiles whatever its members are, within the limits.  Its members stand for
themselves unless a question mark or a star that stands alone is among them.  These are
written as wildcards also between brackets, and what is written closes the brackets: the
rule then ends with a closing bracket that stands for itself.  Two stars are written with
a dot and a star, and the dot takes nothing, since no path below a root is a dot.  Main
statements:
  * `covers_of_no_slash` : what is covered of a path of one segment;
  * `takesOneOf`, `not_takesOneOf` : rules that are a set, or end with a closing bracket;
  * `compile_bracketed` : the rule compiles, and when it takes its members;
  * `not_takesOneOf_star` : a star among the members.
-/
import ExcludeRules.Proofs.Pattern.Inheritance
import ExcludeRules.Proofs.Rule.Members

namespace ExcludeRules

open Expression (Atom)

namespace Rule

/-- A rule that is neither anchored nor for directories takes a path of one segment whole. -/
theorem covers_of_no_slash {stem : Stem} {atoms : List Atom} (hfree : stem.anchored = false)
    (hfile : stem.directoryOnly = false) {path : List Char} (hpath : '/' ∉ path) :
    Covers stem atoms path ↔ Atom.TakeAll atoms path := by
  constructor
  · rintro ⟨u, v, w, rfl, hv, hu, hw⟩
    have hnil : u = [] := by
      rcases hu with rfl | ⟨-, hlast⟩
      · rfl
      · have hmem : '/' ∈ u ++ v ++ w :=
          List.mem_append_left _ (List.mem_append_left _ (List.mem_of_getLast? hlast))
        exact absurd hmem hpath
    have hnil' : w = [] := by
      rcases hw with rfl | ⟨hanchor | hdir, -⟩
      · rfl
      · rw [hfree] at hanchor
        cases hanchor
      · rw [hfile] at hdir
        cases hdir
    subst hnil hnil'
    rwa [List.nil_append, List.append_nil]
  · intro h
    exact ⟨[], path, [], by simp, h, .inl rfl, .inl rfl⟩

theorem contains_of_points {negated : Bool} {members : List Char} {c : Char} :
    (CharSet.ranges negated (members.map fun c => (c, c))).contains c = true ↔
      (c ∈ members ↔ negated = false) := by
  have hle : ∀ d, d ≤ c ∧ c ≤ d ↔ d = c := fun d =>
    ⟨fun h => Char.le_antisymm h.1 h.2, fun h => h ▸ ⟨Char.le_refl _, Char.le_refl _⟩⟩
  have hany : ((members.map fun c => (c, c)).any fun r => r.1 ≤ c && c ≤ r.2) = true ↔
      c ∈ members := by
    rw [List.any_map, List.any_eq_true]
    constructor
    · rintro ⟨d, hd, hin⟩
      have heq : d = c := (hle d).mp (by simpa using hin)
      exact heq ▸ hd
    · intro hc
      exact ⟨c, hc, by simp⟩
  rw [CharSet.contains, bne_iff_ne]
  cases negated with
  | true =>
    rw [ne_eq, hany]
    simp
  | false =>
    rw [Bool.ne_false_iff, hany]
    simp

variable {negated : Bool} {members : List Char}

/-- If a member is written with a closing bracket, there still is a character that names an
entry and that the members are to take, and it is no closing bracket. -/
theorem exists_taken (h : ∀ c ∈ members, IsMember c) (hmarks : writesBracket 0 members = true)
    (negated : Bool) : ∃ d ∉ ['.', '/', ']'], (d ∈ members ↔ negated = false) := by
  cases negated with
  | true =>
    have hbracket : '[' ∉ members := fun hmem => h _ hmem (by decide)
    exact ⟨'[', by decide, by simp [hbracket]⟩
  | false =>
    by_cases hstar : '*' ∈ members
    · exact ⟨'*', by decide, by simp [hstar]⟩
    · by_cases hmark : '?' ∈ members
      · exact ⟨'?', by decide, by simp [hmark]⟩
      · have hliteral : ∀ c ∈ members, c ∉ ['*', '?', '\\'] := by
          intro c hc hmem
          simp only [List.mem_cons, List.not_mem_nil, or_false] at hmem
          rcases hmem with rfl | rfl | rfl
          · exact hstar hc
          · exact hmark hc
          · exact h _ hc (by decide)
        rw [writesBracket_of_literal hliteral] at hmarks
        cases hmarks

/-- A bracket expression has a stem that is all of it. -/
theorem ofText_bracketed (negated : Bool) (members : List Char) :
    Stem.ofText (bracketed negated members) = .ok ⟨bracketed negated members, false⟩ := rfl

/-- A rule that ends with a closing bracket is not for directories. -/
theorem directoryOnly_append_close (front : List Char) :
    Stem.directoryOnly ⟨front ++ [']'], false⟩ = false := by
  refine Stem.directoryOnly_eq_false ?_
  rw [List.getLast?_concat]
  decide

theorem directoryOnly_bracketed (negated : Bool) (members : List Char) :
    Stem.directoryOnly ⟨bracketed negated members, false⟩ = false :=
  directoryOnly_append_close ('[' :: ((if negated then ['!'] else []) ++ members))

theorem Stem.body_of_file {text : List Char} (h : Stem.directoryOnly ⟨text, false⟩ = false) :
    Stem.body ⟨text, false⟩ = text := by
  rw [Stem.body, h]
  rfl

/-- What a body denotes that is all of its rule. -/
theorem denotes_of_run {body : List Char} (hstem : Stem.ofText body = .ok ⟨body, false⟩)
    (hfile : Stem.directoryOnly ⟨body, false⟩ = false) (hlength : body.length ≤ maxLength)
    (hwrite : writeBody body =
      .ok ((mergeStars (tokens body)).flatMap fun t => t.write?.getD []))
    {atoms : List Atom}
    (hrun : Expression.Mode.outside.run ((mergeStars (tokens body)).flatMap Token.glyphs) =
      .ok (.outside, atoms.flatMap Atom.pieces)) :
    Denotes body ⟨body, false⟩ atoms := by
  have hglyphs := glyphs_flatMap_write (mergeStars_sound (tokens_sound body))
  refine ⟨hlength, hstem, _, ?_, Expression.reads_atoms hglyphs hrun⟩
  rw [Stem.body_of_file hfile, hwrite]

/-- What a bracket expression denotes within the limits. -/
theorem denotes_bracketed (hne : members ≠ []) (hmembers : ∀ c ∈ members, IsMember c)
    (hlength : (bracketed negated members).length ≤ maxLength)
    (hcount : members.countP isMark < maxWildcards) {atoms : List Atom}
    (hrun : Expression.Mode.outside.run
        ((mergeStars (tokens (bracketed negated members))).flatMap Token.glyphs) =
      .ok (.outside, atoms.flatMap Atom.pieces)) :
    Denotes (bracketed negated members) ⟨bracketed negated members, false⟩ atoms :=
  denotes_of_run (ofText_bracketed negated members) (directoryOnly_bracketed negated members)
    hlength (writeBody_bracketed hne hmembers hlength hcount) hrun

end Rule

/-- On paths of one segment the rule matches one character that is among the members, or
that is not if the rule is negated. -/
def CompiledRule.TakesOneOf (rule : CompiledRule) (negated : Bool) (members : List Char) : Prop :=
  ∀ probe root path c, Candidate.resolve root path = .ok c → '/' ∉ c.relative →
    ((Pattern.compiled rule).matches? probe root path = .ok true ↔
      ∃ d, c.relative = [d] ∧ (d ∈ members ↔ negated = false))

/-- For a rule that is not for directories the path below the root is enough. -/
theorem CompiledRule.matches?_of_file {rule : CompiledRule} (hfile : rule.directoryOnly = false)
    {root : String} {path : Option String} {c : Candidate}
    (hresolve : Candidate.resolve root path = .ok c) (probe : Probe) :
    (Pattern.compiled rule).matches? probe root path = .ok (rule.matchesRelative c.relative) := by
  have hasks := Pattern.asksDisk_of_file (p := .compiled rule) hfile c
  rw [Pattern.matches?_of_resolve hresolve, Pattern.judge?_of_not_asksDisk hasks]
  show Except.ok (rule.matchesCandidate probe c) = _
  rw [matchesCandidate, hfile, Bool.not_false, Bool.true_or, Bool.true_or, Bool.and_true]

namespace CompiledRule.Means

variable {rule : CompiledRule} {stem : Rule.Stem} {negated : Bool} {members : List Char}

/-- On a path of one segment the rule is all of what is matched. -/
theorem matches_iff_of_no_slash {atoms : List Atom} (h : rule.Means stem atoms)
    (hfree : stem.anchored = false) (hfile : stem.directoryOnly = false) {root : String}
    {path : Option String} {c : Candidate} (hresolve : Candidate.resolve root path = .ok c)
    (hslash : '/' ∉ c.relative) (probe : Probe) :
    (Pattern.compiled rule).matches? probe root path = .ok true ↔
      c.relative ≠ [] ∧ Atom.TakeAll atoms c.relative := by
  have hrule : rule.directoryOnly = false := h.directoryOnly_eq.trans hfile
  rw [matches?_of_file hrule hresolve, ← Rule.covers_of_no_slash hfree hfile hslash,
    ← h.accepts_iff]
  simp [matchesRelative]

/-- A rule that is read as a set takes one of its members.  Whether the dot is among them makes
no difference. -/
theorem takesOneOf {chars : List Char}
    (h : rule.Means stem [.one (.ranges negated (chars.map fun c => (c, c)))])
    (hfree : stem.anchored = false) (hfile : stem.directoryOnly = false)
    (hchars : ∀ d, d ≠ '.' → (d ∈ chars ↔ d ∈ members)) : rule.TakesOneOf negated members := by
  intro probe root path c hresolve hslash
  have hsame : ∀ d, c.relative = [d] → (d ∈ chars ↔ d ∈ members) := by
    intro d hd
    refine hchars d ?_
    rintro rfl
    exact (Candidate.isPlaced_of_resolve hresolve).relative_ne_dot hd
  rw [h.matches_iff_of_no_slash hfree hfile hresolve hslash, Expression.takeAll_singleton]
  constructor
  · rintro ⟨-, d, hd, hset⟩
    have hmem := Rule.contains_of_points.mp hset
    rw [hsame d hd] at hmem
    exact ⟨d, hd, hmem⟩
  · rintro ⟨d, hd, hmem⟩
    rw [← hsame d hd] at hmem
    have hne : c.relative ≠ [] := by
      rw [hd]
      exact List.cons_ne_nil _ _
    exact ⟨hne, d, hd, Rule.contains_of_points.mpr hmem⟩

/-- A rule that ends with a closing bracket takes no other character. -/
theorem not_takesOneOf {atoms : List Atom} (h : rule.Means stem atoms)
    (hfree : stem.anchored = false) (hfile : stem.directoryOnly = false)
    (hlast : atoms.getLast? = some (.one (.only ']'))) {d : Char} (hd : d ∉ ['.', '/', ']'])
    (hmem : d ∈ members ↔ negated = false) : ¬ rule.TakesOneOf negated members := by
  intro htakes
  simp only [List.mem_cons, List.not_mem_nil, or_false, not_or] at hd
  obtain ⟨hdot, hslash, hclose⟩ := hd
  have hsegment : '/' ∉ [d] := by simpa using Ne.symm hslash
  -- the character names an entry of any root, so it is a path below that root
  have hproper : Path.IsProper [d] := ⟨by simp, by simpa using hdot, by simp, hsegment⟩
  have hroot : ∃ c, Candidate.resolve "/r" (some "x") = .ok c := ⟨_, rfl⟩
  obtain ⟨c₀, hroot⟩ := hroot
  have hresolve := Candidate.resolve_joined hroot (List.forall_mem_singleton.mpr hproper)
  have hhit := (htakes (.ofTable fun _ => .missing) _ _ _ hresolve hsegment).mpr ⟨d, rfl, hmem⟩
  obtain ⟨-, htake⟩ := (h.matches_iff_of_no_slash hfree hfile hresolve hsegment _).mp hhit
  obtain ⟨as, rfl⟩ := List.getLast?_eq_some_iff.mp hlast
  obtain ⟨u, v, heq, -, hv⟩ := Expression.takeAll_append.mp htake
  obtain ⟨e, rfl, he⟩ := Expression.takeAll_singleton.mp hv
  obtain rfl : ']' = e := by simpa [CharSet.contains] using he
  have hcut : [] ++ [d] = u ++ [']'] := heq
  obtain ⟨-, hd⟩ := List.append_inj' hcut rfl
  exact hclose (List.singleton_inj.mp hd)

end CompiledRule.Means

namespace Pattern

/-- **Which bracket expressions take their members.**  A rule that is one bracket expression
compiles if it keeps to the limits, whatever characters its members are.  On paths of one
segment it matches exactly one character that is a member, or is none where it is
negated, unless a question mark or a star that stands alone is among the members. -/
theorem compile_bracketed {negated : Bool} {members : List Char} (hne : members ≠ [])
    (hmembers : ∀ c ∈ members, Rule.IsMember c)
    (hlength : (Rule.bracketed negated members).length ≤ 4096)
    (hcount : members.countP Rule.isMark < 256) :
    ∃ rule, compile (some (String.ofList (Rule.bracketed negated members))) =
        .ok (.compiled rule) ∧
      (rule.TakesOneOf negated members ↔ Rule.writesBracket 0 members = false) := by
  have htext : (String.ofList (Rule.bracketed negated members)).toList =
      Rule.bracketed negated members := String.toList_ofList
  have hdenotes : ∀ {atoms : List Atom}, Expression.Mode.outside.run
        ((Rule.mergeStars (Rule.tokens (Rule.bracketed negated members))).flatMap
          Rule.Token.glyphs) = .ok (.outside, atoms.flatMap Atom.pieces) →
      Rule.Denotes (String.ofList (Rule.bracketed negated members)).toList
        ⟨Rule.bracketed negated members, false⟩ atoms := fun hrun => by
    rw [htext]
    exact Rule.denotes_bracketed hne hmembers hlength hcount hrun
  obtain ⟨as, hrun, hlast⟩ := @Rule.exists_run_bracketed negated members hne hmembers
  obtain ⟨rule, hrule, hmeans⟩ := compileRule_of_denotes (hdenotes hrun)
  have hisrule : Rule.IsRuleText (String.ofList (Rule.bracketed negated members)).toList := by
    rw [htext]
    exact ⟨'[', _, rfl, rfl⟩
  have hfile := Rule.directoryOnly_bracketed negated members
  refine ⟨rule, compile_eq_compiled_iff.mpr ⟨hisrule, hrule⟩, ?_⟩
  by_cases hmarks : Rule.writesBracket 0 members = true
  · -- the bracket at the end is matched as such, so no character that is taken is missing
    obtain ⟨d, hd, hmem⟩ := Rule.exists_taken hmembers hmarks negated
    have hnot := hmeans.not_takesOneOf rfl hfile (hlast hmarks) hd hmem
    exact iff_of_false hnot (by rw [hmarks]; decide)
  · -- the rule is the same, but its atoms are known
    have hnone : Rule.writesBracket 0 members = false := by simpa using hmarks
    have hset := @Rule.run_bracketed_set negated members hne hmembers hnone
    have hmeans' := means_of_denotes hrule (@hdenotes [.one _] hset)
    have htakes := hmeans'.takesOneOf rfl hfile fun d hd =>
      Rule.mem_chars_iff (Rule.members_no_look hmembers) hnone hd
    exact iff_of_true htakes hnone

/-- Dots, parentheses, signs that an expression gives a meaning, and stars that stand side by
side are members like any other. -/
theorem compile_bracketed_special :
    ∃ rule, compile (some "[!.(+**x]") = .ok (.compiled rule) ∧
      rule.TakesOneOf true ".(+**x".toList := by
  have hmembers : ∀ c ∈ ".(+**x".toList, Rule.IsMember c := by simp [Rule.IsMember]
  obtain ⟨rule, hrule, htakes⟩ := @compile_bracketed true ".(+**x".toList (by decide) hmembers
    (by decide) (by decide)
  exact ⟨rule, hrule, htakes.mpr rfl⟩

/-- A star among the members is written as a wildcard: the rule matches a closing bracket,
and does not match the other member. -/
theorem not_takesOneOf_star :
    ∃ rule, compile (some "[a*]") = .ok (.compiled rule) ∧
      (∀ probe, (compiled rule).matches? probe "/r" (some "a") = .ok false) ∧
      (∀ probe, (compiled rule).matches? probe "/r" (some "]") = .ok true) ∧
      ¬ rule.TakesOneOf false "a*".toList := by
  obtain ⟨rule, hrule, hrun⟩ := exists_compiled "[a*]" (p := fun rule =>
      !rule.directoryOnly && !rule.matchesRelative "a".toList && rule.matchesRelative "]".toList)
    ⟨'[', _, rfl, rfl⟩ (by decide +kernel)
  simp only [Bool.and_eq_true, Bool.not_eq_true'] at hrun
  obtain ⟨⟨hfile, hmember⟩, hclose⟩ := hrun
  have hresolve : ∃ c, Candidate.resolve "/r" (some "a") = .ok c ∧ c.relative = "a".toList :=
    ⟨_, rfl, rfl⟩
  have hresolve' : ∃ c, Candidate.resolve "/r" (some "]") = .ok c ∧ c.relative = "]".toList :=
    ⟨_, rfl, rfl⟩
  obtain ⟨c, hc, hrelative⟩ := hresolve
  obtain ⟨c', hc', hrelative'⟩ := hresolve'
  have hmiss : ∀ probe, (compiled rule).matches? probe "/r" (some "a") = .ok false := by
    intro probe
    rw [CompiledRule.matches?_of_file hfile hc, hrelative, hmember]
  have hhit : ∀ probe, (compiled rule).matches? probe "/r" (some "]") = .ok true := by
    intro probe
    rw [CompiledRule.matches?_of_file hfile hc', hrelative', hclose]
  refine ⟨rule, hrule, hmiss, hhit, fun htakes => ?_⟩
  have hslash : '/' ∉ c.relative := by
    rw [hrelative]
    decide
  have htake := (htakes (.ofTable fun _ => .missing) "/r" (some "a") c hc hslash).mpr
    ⟨'a', hrelative, by decide⟩
  rw [hmiss] at htake
  cases htake

end Pattern

end ExcludeRules
