/-
Rules for directories, and what lies below a match.

An anchored rule and a rule for directories cover, with a path, all that lies below
it.  A rule for directories covers what the plain rule covers and what lies below
that; so the walk over the ancestors finds a covered one exactly if the plain rule
covers one, and only the path itself is left to the disk.  Main statements:
  * `Covers.below` : what lies below a covered path;
  * `covers_slashed_iff` : a rule with a slash behind it, and the same rule without;
  * `matches_slashed_iff` : what the slash adds to a compiled rule;
  * `matches_below_of_matches` : a match is passed down.
-/
import ExcludeRules.Proofs.Path.Placement
import ExcludeRules.Proofs.Pattern.Compiling
import ExcludeRules.Proofs.Rule.Stem

namespace ExcludeRules

open Expression (Atom)
open ExcludeRules.Path (IsProper joined)

/-! ### What a rule covers -/

namespace Rule

/-- Whether a stem passes a match down to what lies below it. -/
def Stem.PassesDown (stem : Stem) : Prop := stem.anchored = true ∨ stem.directoryOnly = true

/-- Some of the segments lead to a path that is covered, and is not at their end. -/
def CoversAbove (stem : Stem) (atoms : List Atom) (segments : List (List Char)) : Prop :=
  ∃ as bs, as ≠ [] ∧ bs ≠ [] ∧ segments = as ++ bs ∧ Covers stem atoms (joined as)

variable {stem : Stem} {atoms : List Atom}

theorem Covers.below {as bs : List (List Char)} (hdown : stem.PassesDown) (has : as ≠ [])
    (hbs : bs ≠ []) (h : Covers stem atoms (joined as)) :
    Covers stem atoms (joined (as ++ bs)) := by
  obtain ⟨u, v, w, hpath, hv, hu, hw⟩ := h
  refine ⟨u, v, w ++ '/' :: joined bs, ?_, hv, hu, .inr ⟨hdown, ?_⟩⟩
  · rw [joined, Text.join_append has hbs, ← joined, hpath, List.append_assoc (u ++ v)]
    rfl
  · rcases hw with rfl | ⟨-, hslash⟩
    · rfl
    · rw [List.head?_append, hslash]
      rfl

theorem Covers.slashed {path : List Char} (h : Covers stem atoms path)
    (hdir : stem.slashed.directoryOnly = true) : Covers stem.slashed atoms path := by
  obtain ⟨u, v, w, hpath, hv, hu, hw⟩ := h
  refine ⟨u, v, w, hpath, hv, hu, hw.imp_right fun ⟨_, hslash⟩ => ⟨.inr hdir, hslash⟩⟩

/-- With a slash behind it a rule covers, besides, what lies below a path that it covers. -/
theorem covers_slashed_iff (hdir : stem.slashed.directoryOnly = true)
    {segments : List (List Char)} (hsegments : ∀ s ∈ segments, IsProper s) :
    Covers stem.slashed atoms (joined segments) ↔
      Covers stem atoms (joined segments) ∨ CoversAbove stem atoms segments := by
  constructor
  · rintro ⟨u, v, w, hpath, hv, hu, hw⟩
    rcases hw with rfl | ⟨-, hslash⟩
    · exact .inl ⟨u, v, [], hpath, hv, hu, .inl rfl⟩
    · -- the slash stands between two segments, and the rule covers what is before it
      obtain ⟨x, rfl⟩ := List.head?_eq_some_iff.mp hslash
      obtain ⟨as, bs, has, hbs, rfl, huv, -⟩ :=
        Text.join_eq_append_cons (fun s hs => (hsegments s hs).no_slash) hpath
      exact .inr ⟨as, bs, has, hbs, rfl, u, v, [], by rw [List.append_nil, huv, joined], hv, hu,
        .inl rfl⟩
  · rintro (h | ⟨as, bs, has, hbs, rfl, h⟩)
    · exact h.slashed hdir
    · exact (h.slashed hdir).below (.inr hdir) has hbs

end Rule

/-! ### What a compiled rule matches -/

namespace CompiledRule

variable {rule plain dir : CompiledRule} {stem : Rule.Stem} {atoms : List Atom}

theorem Means.matchesRelative_iff (h : rule.Means stem atoms) {segments : List (List Char)}
    (hne : segments ≠ []) (hsegments : ∀ s ∈ segments, IsProper s) :
    rule.matchesRelative (joined segments) = true ↔
      Rule.Covers stem atoms (joined segments) := by
  have hjoined : (joined segments).isEmpty = false :=
    List.isEmpty_eq_false_iff.mpr (Path.joined_ne_nil hne hsegments)
  rw [matchesRelative, hjoined, Bool.not_false, Bool.true_and, h.accepts_iff]

/-- The walk over the ancestors finds one that the rule covers, if there is one. -/
theorem Means.any_ancestors_iff (h : rule.Means stem atoms) {c : Candidate} (hc : c.IsPlaced) :
    c.ancestors.any rule.matchesRelative = true ↔
      Rule.CoversAbove stem atoms c.below := by
  rw [List.any_eq_true]
  constructor
  · rintro ⟨a, ha, hmatch⟩
    obtain ⟨as, bs, has, hbs, hbelow, rfl⟩ := Candidate.mem_ancestors_iff.mp ha
    have hproper : ∀ s ∈ as, IsProper s := fun s hs =>
      hc.below s (hbelow ▸ List.mem_append_left bs hs)
    exact ⟨as, bs, has, hbs, hbelow, (h.matchesRelative_iff has hproper).mp hmatch⟩
  · rintro ⟨as, bs, has, hbs, hbelow, hcovers⟩
    have hproper : ∀ s ∈ as, IsProper s := fun s hs =>
      hc.below s (hbelow ▸ List.mem_append_left bs hs)
    exact ⟨joined as, Candidate.mem_ancestors_iff.mpr ⟨as, bs, has, hbs, hbelow, rfl⟩,
      (h.matchesRelative_iff has hproper).mpr hcovers⟩

/-- Which candidates a rule matches; the disk is asked last. -/
theorem Means.matchesCandidate_iff (h : rule.Means stem atoms) {probe : Probe} {c : Candidate}
    (hc : c.IsPlaced) :
    rule.matchesCandidate probe c = true ↔
      c.below ≠ [] ∧ Rule.Covers stem atoms (joined c.below) ∧
        (stem.directoryOnly = false ∨ Rule.CoversAbove stem atoms c.below ∨
          probe.mayShowDirectory c.path.toString = true) := by
  by_cases hne : c.below = []
  · have hroot : rule.matchesRelative c.relative = false := by
      rw [Candidate.relative, hne]
      rfl
    simp [matchesCandidate, hroot, hne]
  · rw [matchesCandidate, Bool.and_eq_true, Bool.or_eq_true, Bool.or_eq_true,
      h.any_ancestors_iff hc, h.directoryOnly_eq, Bool.not_eq_true', or_assoc,
      Candidate.relative, h.matchesRelative_iff hne hc.below]
    exact ⟨fun hmatch => ⟨hne, hmatch⟩, fun hmatch => hmatch.2⟩

/-- What a slash behind a rule adds: what lies below a match, and a look at the disk. -/
theorem Means.matchesCandidate_slashed_iff (hplain : plain.Means stem atoms)
    (hdir : dir.Means stem.slashed atoms) (hfile : stem.directoryOnly = false)
    (hslash : stem.slashed.directoryOnly = true) {probe : Probe} {c : Candidate}
    (hc : c.IsPlaced) (hne : c.below ≠ []) :
    dir.matchesCandidate probe c = true ↔
      Rule.CoversAbove stem atoms c.below ∨
        plain.matchesCandidate probe c = true ∧
          probe.mayShowDirectory c.path.toString = true := by
  rw [hdir.matchesCandidate_iff hc, hplain.matchesCandidate_iff hc,
    Rule.covers_slashed_iff hslash hc.below]
  constructor
  · rintro ⟨-, hcovers | habove, hwhy⟩
    · -- the plain rule covers the path itself: why then is it matched?
      rcases hwhy with hfree | ⟨as, bs, has, hbs, hbelow, hup⟩ | hdisk
      · rw [hslash] at hfree
        cases hfree
      · -- the ancestor is covered, so the plain rule covers it or one further up
        left
        have hproper : ∀ s ∈ as, IsProper s := fun s hs =>
          hc.below s (hbelow ▸ List.mem_append_left bs hs)
        rcases (Rule.covers_slashed_iff hslash hproper).mp hup with h | ⟨as', bs', has', -, rfl, h⟩
        · exact ⟨as, bs, has, hbs, hbelow, h⟩
        · exact ⟨as', bs' ++ bs, has', List.append_ne_nil_of_right_ne_nil _ hbs,
            by rw [hbelow, List.append_assoc], h⟩
      · exact .inr ⟨⟨hne, hcovers, .inl hfile⟩, hdisk⟩
    · -- below a covered path the reason for the match does not matter
      exact .inl habove
  · rintro (⟨as, bs, has, hbs, hbelow, hup⟩ | ⟨⟨-, hcovers, -⟩, hdisk⟩)
    · exact ⟨hne, .inr ⟨as, bs, has, hbs, hbelow, hup⟩,
        .inr (.inl ⟨as, bs, has, hbs, hbelow, hup.slashed hslash⟩)⟩
    · exact ⟨hne, .inl hcovers, .inr (.inr hdisk)⟩

theorem matchesCandidate_congr {probe probe' : Probe} {c : Candidate}
    (h : probe.find? c.path.toString = probe'.find? c.path.toString) :
    rule.matchesCandidate probe c = rule.matchesCandidate probe' c := by
  rw [matchesCandidate, matchesCandidate, Probe.mayShowDirectory, Probe.mayShowDirectory, h]

/-- A path above is covered exactly if the plain rule matches a directory there. -/
theorem Means.coversAbove_iff (h : plain.Means stem atoms) (hfile : stem.directoryOnly = false)
    (probe : Probe) {root path : String} {c : Candidate}
    (hc : Candidate.resolve root (some path) = .ok c) :
    Rule.CoversAbove stem atoms c.below ↔
      ∃ a ca, Candidate.resolve root (some a) = .ok ca ∧ ca.root.StrictlyAbove ca.path ∧
        ca.path.StrictlyAbove c.path ∧ plain.matchesCandidate probe ca = true := by
  have hplaced := Candidate.isPlaced_of_resolve hc
  constructor
  · rintro ⟨as, bs, has, hbs, hbelow, hcovers⟩
    have hproper : ∀ s ∈ as, IsProper s := fun s hs =>
      hplaced.below s (hbelow ▸ List.mem_append_left bs hs)
    have ha := Candidate.resolve_joined hc hproper
    have haplaced := Candidate.isPlaced_of_resolve ha
    refine ⟨_, _, ha, haplaced.root_strictlyAbove_iff.mpr has, ?_, ?_⟩
    · exact (haplaced.strictlyAbove_iff hplaced rfl).mpr ⟨bs, hbs, hbelow⟩
    · exact (h.matchesCandidate_iff haplaced).mpr ⟨has, hcovers, .inl hfile⟩
  · rintro ⟨a, ca, ha, hinside, habove, hmatch⟩
    have haplaced := Candidate.isPlaced_of_resolve ha
    obtain ⟨bs, hbs, hbelow⟩ :=
      (haplaced.strictlyAbove_iff hplaced (Candidate.root_eq_of_resolve ha hc)).mp habove
    exact ⟨ca.below, bs, haplaced.root_strictlyAbove_iff.mp hinside, hbs, hbelow,
      ((h.matchesCandidate_iff haplaced).mp hmatch).2.1⟩

end CompiledRule

namespace Pattern

/-- A verdict is one on the candidate that the root and the path lead to. -/
theorem matches?_eq_ok_iff {p : Pattern} {probe : Probe} {root : String} {path : Option String}
    {hit : Bool} :
    p.matches? probe root path = .ok hit ↔
      ∃ c, Candidate.resolve root path = .ok c ∧ p.judge? probe c = .ok hit := by
  rw [matches?, Outcome.bind_eq_ok_iff]
  exact exists_congr fun c => and_congr_left fun _ => Outcome.mapError_eq_ok_iff

theorem matches?_compiled_iff {rule : CompiledRule} {probe : Probe} {root : String}
    {path : Option String} {c : Candidate} (h : Candidate.resolve root path = .ok c) :
    (compiled rule).matches? probe root path = .ok true ↔
      rule.matchesCandidate probe c = true := by
  rw [matches?_of_resolve h, judge?_eq_ok_true_iff]
  rfl

/-- Of the disk only what it shows at the path itself counts. -/
theorem judge?_congr {rule : CompiledRule} {probe probe' : Probe} {c : Candidate}
    (h : probe.find? c.path.toString = probe'.find? c.path.toString) :
    (compiled rule).judge? probe c = (compiled rule).judge? probe' c := by
  have hmatches : (compiled rule).matchesCandidate probe c =
      (compiled rule).matchesCandidate probe' c := CompiledRule.matchesCandidate_congr h
  rw [judge?, judge?, fails, fails, h, hmatches]

/-- With a slash behind it a rule still compiles, as the rule of the same atoms for directories. -/
theorem compile_slashed {text : String} {plain : CompiledRule}
    (hplain : compile (some text) = .ok (.compiled plain))
    (hlast : text.toList.getLast? ≠ some '/')
    (hlength : (text ++ "/").length ≤ Rule.maxLength) :
    ∃ dir stem atoms, compile (some (text ++ "/")) = .ok (.compiled dir) ∧
      plain.Means stem atoms ∧ dir.Means stem.slashed atoms ∧ stem.directoryOnly = false ∧
      stem.slashed.directoryOnly = true := by
  obtain ⟨⟨c, rest, htrim, hc⟩, hcompile⟩ := compile_eq_compiled_iff.mp hplain
  obtain ⟨stem, atoms, hdenotes, hmeans⟩ := denotes_of_compileRule hcompile
  obtain ⟨hne, hend⟩ := Rule.Stem.getLast?_of_ofText hdenotes.stem_eq hlast
  obtain ⟨body, hbody, hreads⟩ := hdenotes.body
  have htext : (text ++ "/").toList = text.toList ++ ['/'] := String.toList_append
  have hslashed : Rule.Denotes (text ++ "/").toList stem.slashed atoms := by
    refine ⟨by rwa [String.length_toList], ?_, body, ?_, hreads⟩
    · rw [htext]
      exact Rule.Stem.ofText_slashed hdenotes.stem_eq
    · rwa [Rule.Stem.slashed_body hne hend]
  obtain ⟨dir, hdir, hdirmeans⟩ := compileRule_of_denotes hslashed
  refine ⟨dir, stem, atoms, compile_eq_compiled_iff.mpr ⟨?_, hdir⟩, hmeans, hdirmeans,
    Rule.Stem.directoryOnly_eq_false hend, Rule.Stem.slashed_directoryOnly hne hend⟩
  refine ⟨c, rest ++ ['/'], ?_, hc⟩
  rw [htext, Text.trimLeft, List.dropWhile_append, ← Text.trimLeft, htrim]
  rfl

/-- **A slash behind a rule.**  With a slash behind it a rule that compiles still
compiles.  It then matches a path below the root exactly if the plain rule matches a
directory between the two, or matches the path itself and the disk shows a directory
there, or nothing, or cannot be looked at.  Of the disk nothing else counts. -/
theorem matches_slashed_iff {text : String} {plain : CompiledRule}
    (hplain : compile (some text) = .ok (.compiled plain))
    (hlast : text.toList.getLast? ≠ some '/')
    (hlength : (text ++ "/").length ≤ Rule.maxLength) :
    ∃ dir, compile (some (text ++ "/")) = .ok (.compiled dir) ∧
      ∀ root path c, Candidate.resolve root (some path) = .ok c → c.root.StrictlyAbove c.path →
        (∀ probe, (compiled dir).matches? probe root (some path) = .ok true ↔
          (∃ a ca, Candidate.resolve root (some a) = .ok ca ∧ ca.root.StrictlyAbove ca.path ∧
            ca.path.StrictlyAbove c.path ∧
            (compiled plain).matches? probe root (some a) = .ok true) ∨
          (compiled plain).matches? probe root (some path) = .ok true ∧
            probe.find? c.path.toString ∈ [some .directory, some .missing, some .refused]) ∧
        ∀ probe probe' : Probe, probe.find? c.path.toString = probe'.find? c.path.toString →
          (compiled dir).matches? probe root (some path) =
            (compiled dir).matches? probe' root (some path) := by
  obtain ⟨dir, stem, atoms, hdir, hmeans, hdirmeans, hfile, hslash⟩ :=
    compile_slashed hplain hlast hlength
  refine ⟨dir, hdir, fun root path c hc hinside => ⟨fun probe => ?_, fun probe probe' h => ?_⟩⟩
  · have hplaced := Candidate.isPlaced_of_resolve hc
    have hne := hplaced.root_strictlyAbove_iff.mp hinside
    rw [matches?_compiled_iff hc, matches?_compiled_iff hc, ← Probe.mayShowDirectory_iff,
      hmeans.matchesCandidate_slashed_iff hdirmeans hfile hslash hplaced hne,
      hmeans.coversAbove_iff hfile probe hc]
    refine or_congr_left (exists_congr fun a => exists_congr fun ca => ?_)
    refine and_congr_right fun ha => ?_
    rw [matches?_compiled_iff ha]
  · rw [matches?_of_resolve hc, matches?_of_resolve hc, judge?_congr h]

theorem matches_slashed_build :
    ∃ plain dir, compile (some "build") = .ok (.compiled plain) ∧
      compile (some "build/") = .ok (.compiled dir) ∧
      ∀ probe, (compiled dir).matches? probe "/srv" (some "build/out") = .ok true ↔
        (∃ a ca, Candidate.resolve "/srv" (some a) = .ok ca ∧ ca.root.StrictlyAbove ca.path ∧
          ca.path.StrictlyAbove ⟨1, ["srv".toList, "build".toList, "out".toList]⟩ ∧
          (compiled plain).matches? probe "/srv" (some a) = .ok true) ∨
        (compiled plain).matches? probe "/srv" (some "build/out") = .ok true ∧
          probe.find? "/srv/build/out" ∈ [some .directory, some .missing, some .refused] := by
  obtain ⟨plain, hplain, -⟩ := exists_compiled "build" (p := fun _ => true)
    ⟨'b', _, rfl, rfl⟩ (by decide +kernel)
  obtain ⟨dir, hdir, hmatches⟩ := matches_slashed_iff hplain (by decide) (by decide)
  have hinside : Path.StrictlyAbove ⟨1, ["srv".toList]⟩
      ⟨1, ["srv".toList, "build".toList, "out".toList]⟩ :=
    ⟨rfl, ["build".toList, "out".toList], by decide, rfl⟩
  exact ⟨plain, dir, hplain, hdir, (hmatches "/srv" "build/out" _ rfl hinside).1⟩

/-- **A match is passed down.**  What an anchored rule or a rule for directories
matches, it matches with all that lies below, whatever the disk shows there. -/
theorem matches_below_of_matches {text : String} {rule : CompiledRule} {stem : Rule.Stem}
    (hrule : compile (some text) = .ok (.compiled rule))
    (hstem : Rule.Stem.ofText text.toList = .ok stem)
    (hdown : stem.anchored = true ∨ stem.directoryOnly = true) {root p q : String}
    {cp cq : Candidate} (hp : Candidate.resolve root (some p) = .ok cp)
    (hq : Candidate.resolve root (some q) = .ok cq) (hbelow : cp.path.StrictlyAbove cq.path)
    {probe : Probe} (hmatch : (compiled rule).matches? probe root (some p) = .ok true)
    (probe' : Probe) : (compiled rule).matches? probe' root (some q) = .ok true := by
  obtain ⟨-, hcompile⟩ := compile_eq_compiled_iff.mp hrule
  obtain ⟨stem', atoms, hdenotes, hmeans⟩ := denotes_of_compileRule hcompile
  obtain rfl : stem = stem' := Except.ok.inj (hstem.symm.trans hdenotes.stem_eq)
  have hpplaced := Candidate.isPlaced_of_resolve hp
  have hqplaced := Candidate.isPlaced_of_resolve hq
  obtain ⟨bs, hbs, hsegments⟩ :=
    (hpplaced.strictlyAbove_iff hqplaced (Candidate.root_eq_of_resolve hp hq)).mp hbelow
  obtain ⟨hne, hcovers, -⟩ :=
    (hmeans.matchesCandidate_iff hpplaced).mp ((matches?_compiled_iff hp).mp hmatch)
  refine (matches?_compiled_iff hq).mpr ((hmeans.matchesCandidate_iff hqplaced).mpr ⟨?_, ?_, ?_⟩)
  · rw [hsegments]
    exact List.append_ne_nil_of_right_ne_nil _ hbs
  · rw [hsegments]
    exact hcovers.below hdown hne hbs
  · exact .inr (.inl ⟨cp.below, bs, hne, hbs, hsegments, hcovers⟩)

theorem matches_below_build :
    ∃ rule, compile (some "build/") = .ok (.compiled rule) ∧
      (compiled rule).matches? (.ofTable fun _ => .directory) "/srv" (some "build") = .ok true ∧
      ∀ probe, (compiled rule).matches? probe "/srv" (some "build/out/a.o") = .ok true := by
  have hp : Candidate.resolve "/srv" (some "build") =
      .ok ⟨⟨1, ["srv".toList]⟩, ⟨1, ["srv".toList, "build".toList]⟩, ["build".toList]⟩ := rfl
  obtain ⟨rule, hrule, hcandidate⟩ := exists_compiled "build/"
    (p := fun rule => rule.matchesCandidate (.ofTable fun _ => .directory)
      ⟨⟨1, ["srv".toList]⟩, ⟨1, ["srv".toList, "build".toList]⟩, ["build".toList]⟩)
    ⟨'b', _, rfl, rfl⟩ (by decide +kernel)
  have hmatch := (matches?_compiled_iff hp).mpr hcandidate
  have hbelow : Path.StrictlyAbove ⟨1, ["srv".toList, "build".toList]⟩
      ⟨1, ["srv".toList, "build".toList, "out".toList, "a.o".toList]⟩ :=
    ⟨rfl, ["out".toList, "a.o".toList], by decide, rfl⟩
  have hstem : Rule.Stem.ofText "build/".toList = .ok ⟨"build/".toList, false⟩ := rfl
  exact ⟨rule, hrule, hmatch,
    matches_below_of_matches hrule hstem (.inr rfl) hp rfl hbelow hmatch⟩

end Pattern

end ExcludeRules
