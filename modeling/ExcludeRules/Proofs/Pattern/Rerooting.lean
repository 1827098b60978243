/-
A match under one root, and under the roots further up.

Seen from further up, a path has more segments in front and none that are different.
A rule that is not anchored may begin at any segment, so it covers the longer path
as well, and so do its ancestors the longer ones; the disk is asked about the same
path.  Main statements:
  * `resolve_outer` : a candidate, placed below a root further up;
  * `Covers.outer` : what is covered stays so with segments in front;
  * `matches_of_matches_inner` : a match under a root is one under each root further up.
-/
import ExcludeRules.Proofs.Pattern.Inheritance

namespace ExcludeRules

open Expression (Atom)
open ExcludeRules.Path (IsProper joined)

/-! ### Moving the root up -/

namespace Candidate

theorem place_outer {root inner p q : Path} {c : Candidate} (h : root.AtOrAbove inner)
    (hplace : place inner q = .ok c) (hsame : (root.join p).normalize = (inner.join q).normalize) :
    ∃ as, place root p = .ok ⟨root, c.path, as ++ c.below⟩ := by
  obtain ⟨below, hbelow, rfl⟩ := place_eq_ok_iff.mp hplace
  obtain ⟨hslashes, hsegments⟩ := Path.below?_eq_some_iff.mp hbelow
  obtain ⟨hroot, as, has⟩ := h
  refine ⟨as, place_eq_ok_iff.mpr ⟨as ++ below, ?_, by rw [hsame]⟩⟩
  rw [hsame, Path.below?_eq_some_iff]
  constructor
  · rw [hslashes, hroot]
  · rw [hsegments, has, List.append_assoc]

/-- A path below a root is below every root further up, with segments in front. -/
theorem resolve_outer {root inner p q : String} {r i : Path} {c : Candidate}
    (hr : Path.root? root = .ok r) (hi : Path.root? inner = .ok i) (h : r.AtOrAbove i)
    (hc : resolve inner (some q) = .ok c) (hsame : r.target p = i.target q) :
    ∃ as, resolve root (some p) = .ok ⟨r, c.path, as ++ c.below⟩ := by
  obtain ⟨i', hi', hplace⟩ := resolve_eq_ok_iff.mp hc
  obtain rfl : i = i' := Except.ok.inj (hi.symm.trans hi')
  obtain ⟨as, has⟩ := place_outer h hplace hsame
  exact ⟨as, resolve_eq_ok_iff.mpr ⟨r, hr, has⟩⟩

/-- The root of an absolute path is further up than every root that the path is below. -/
theorem resolve_alone {inner p : String} {c : Candidate}
    (habs : (Path.ofText p.toList).isAbsolute = true) (hc : resolve inner (some p) = .ok c) :
    ∃ root as, resolve p none = .ok ⟨root, c.path, as ++ c.below⟩ := by
  obtain ⟨i, -, hplace⟩ := resolve_eq_ok_iff.mp hc
  have hinner : (i.join (Path.ofText p.toList)).normalize = (Path.ofText p.toList).normalize := by
    rw [Path.join_of_isAbsolute habs]
  have hanchor : (Path.ofText p.toList).anchor.AtOrAbove i := by
    obtain ⟨below, hbelow, -⟩ := place_eq_ok_iff.mp hplace
    rw [hinner] at hbelow
    exact ⟨(Path.below?_eq_some_iff.mp hbelow).1, i.segments, rfl⟩
  have hsame : ((Path.ofText p.toList).anchor.join (Path.ofText p.toList)).normalize =
      (i.join (Path.ofText p.toList)).normalize := by
    rw [hinner, Path.join_of_isAbsolute habs]
  obtain ⟨as, has⟩ := place_outer hanchor hplace hsame
  refine ⟨_, as, Outcome.bind_eq_ok_iff.mpr ⟨Path.ofText p.toList, ?_, has⟩⟩
  exact Path.absolute?_eq_ok_iff.mpr ⟨habs, rfl⟩

end Candidate

/-! ### Segments in front -/

namespace Rule

variable {stem : Stem} {atoms : List Atom}

theorem Covers.outer {as bs : List (List Char)} (hfree : stem.anchored = false) (hbs : bs ≠ [])
    (h : Covers stem atoms (joined bs)) : Covers stem atoms (joined (as ++ bs)) := by
  obtain ⟨u, v, w, hpath, hv, hu, hw⟩ := h
  by_cases has : as = []
  · rw [has, List.nil_append]
    exact ⟨u, v, w, hpath, hv, hu, hw⟩
  · -- the segments in front end in a slash, as does what already stood before the stretch
    have hjoin : joined (as ++ bs) = (joined as ++ '/' :: u) ++ v ++ w := by
      rw [joined, Text.join_append has hbs, ← joined, ← joined, hpath]
      simp
    have hlast : (joined as ++ '/' :: u).getLast? = some '/' := by
      rcases hu with rfl | ⟨-, hslash⟩
      · simp
      · rw [List.getLast?_append, List.getLast?_cons, hslash]
        rfl
    exact ⟨joined as ++ '/' :: u, v, w, hjoin, hv, .inr ⟨hfree, hlast⟩, hw⟩

theorem CoversAbove.outer {segments : List (List Char)} (as : List (List Char))
    (hfree : stem.anchored = false) (h : CoversAbove stem atoms segments) :
    CoversAbove stem atoms (as ++ segments) := by
  obtain ⟨xs, ys, hxs, hys, rfl, hcovers⟩ := h
  refine ⟨as ++ xs, ys, ?_, hys, (List.append_assoc as xs ys).symm, hcovers.outer hfree hxs⟩
  exact List.append_ne_nil_of_right_ne_nil as hxs

end Rule

/-- What a rule that is not anchored matches, it matches with segments in front. -/
theorem CompiledRule.Means.matchesCandidate_outer {rule : CompiledRule} {stem : Rule.Stem}
    {atoms : List Atom} (h : rule.Means stem atoms) (hfree : stem.anchored = false)
    {probe : Probe} {c outer : Candidate} (hc : c.IsPlaced) (houter : outer.IsPlaced)
    (hpath : outer.path = c.path) {as : List (List Char)} (hbelow : outer.below = as ++ c.below)
    (hmatch : rule.matchesCandidate probe c = true) :
    rule.matchesCandidate probe outer = true := by
  obtain ⟨hne, hcovers, hwhy⟩ := (h.matchesCandidate_iff hc).mp hmatch
  refine (h.matchesCandidate_iff houter).mpr ?_
  rw [hbelow, hpath]
  refine ⟨List.append_ne_nil_of_right_ne_nil as hne, hcovers.outer hfree hne, ?_⟩
  rcases hwhy with hfile | habove | hdisk
  · exact .inl hfile
  · exact .inr (.inl (habove.outer as hfree))
  · exact .inr (.inr hdisk)

namespace Pattern

/-- **A match stands under every root further up.**  If a rule that is not anchored
matches a path under a root, it matches the same path, however it is written, under
every root that is this one or further up, whatever the disk shows; and an absolute
path it then matches as well when no root is given. -/
theorem matches_of_matches_inner {text : String} {rule : CompiledRule} {stem : Rule.Stem}
    (hrule : compile (some text) = .ok (.compiled rule))
    (hstem : Rule.Stem.ofText text.toList = .ok stem) (hfree : stem.anchored = false)
    {probe : Probe} {inner q : String} {i : Path} (hi : Path.root? inner = .ok i)
    (hmatch : (compiled rule).matches? probe inner (some q) = .ok true) :
    (∀ root r p, Path.root? root = .ok r → r.AtOrAbove i → r.target p = i.target q →
      (compiled rule).matches? probe root (some p) = .ok true) ∧
    ((Path.ofText q.toList).isAbsolute = true →
      (∀ root r, Path.root? root = .ok r → r.AtOrAbove i →
        (compiled rule).matches? probe root (some q) = .ok true) ∧
      (compiled rule).matches? probe q none = .ok true) := by
  obtain ⟨-, hcompile⟩ := compile_eq_compiled_iff.mp hrule
  obtain ⟨stem', atoms, hdenotes, hmeans⟩ := denotes_of_compileRule hcompile
  obtain rfl : stem = stem' := Except.ok.inj (hstem.symm.trans hdenotes.stem_eq)
  obtain ⟨c, hc, -⟩ := matches?_eq_ok_iff.mp hmatch
  have hplaced : c.IsPlaced := Candidate.isPlaced_of_resolve hc
  have hcandidate : rule.matchesCandidate probe c = true := (matches?_compiled_iff hc).mp hmatch
  -- wherever the same path is placed with segments in front, the rule matches it
  have houter : ∀ {root path root' as},
      Candidate.resolve root path = .ok ⟨root', c.path, as ++ c.below⟩ →
      (compiled rule).matches? probe root path = .ok true := by
    intro root path root' as h
    refine (matches?_compiled_iff h).mpr ?_
    exact hmeans.matchesCandidate_outer hfree hplaced (Candidate.isPlaced_of_resolve h) rfl rfl
      hcandidate
  have hspelled : ∀ root r p, Path.root? root = .ok r → r.AtOrAbove i →
      r.target p = i.target q → (compiled rule).matches? probe root (some p) = .ok true := by
    intro root r p hr habove hsame
    obtain ⟨as, has⟩ := Candidate.resolve_outer hr hi habove hc hsame
    exact houter has
  refine ⟨hspelled, fun habs => ⟨?_, ?_⟩⟩
  · intro root r hr habove
    refine hspelled root r q hr habove ?_
    rw [Path.target, Path.target, Path.join_of_isAbsolute habs, Path.join_of_isAbsolute habs]
  · obtain ⟨root, as, has⟩ := Candidate.resolve_alone habs hc
    exact houter has

theorem matches_of_matches_inner_main :
    ∃ rule, compile (some "main/") = .ok (.compiled rule) ∧
      (compiled rule).matches? (.ofTable fun _ => .file) "/s/./src" (some "main/A") = .ok true ∧
      (compiled rule).matches? (.ofTable fun _ => .file) "/s" (some "src/main/A") = .ok true ∧
      (compiled rule).matches? (.ofTable fun _ => .file) "/s" (some "/s/src/main/A") = .ok true ∧
      (compiled rule).matches? (.ofTable fun _ => .file) "/s/src/main/A" none = .ok true := by
  have hc : Candidate.resolve "/s/./src" (some "main/A") =
      .ok ⟨⟨1, [['s'], "src".toList]⟩, ⟨1, [['s'], "src".toList, "main".toList, ['A']]⟩,
        ["main".toList, ['A']]⟩ := rfl
  have hc' : Candidate.resolve "/s/./src" (some "/s/src/main/A") =
      .ok ⟨⟨1, [['s'], "src".toList]⟩, ⟨1, [['s'], "src".toList, "main".toList, ['A']]⟩,
        ["main".toList, ['A']]⟩ := rfl
  obtain ⟨rule, hrule, hcandidate⟩ := exists_compiled "main/"
    (p := fun rule => rule.matchesCandidate (.ofTable fun _ => .file)
      ⟨⟨1, [['s'], "src".toList]⟩, ⟨1, [['s'], "src".toList, "main".toList, ['A']]⟩,
        ["main".toList, ['A']]⟩)
    ⟨'m', _, rfl, rfl⟩ (by decide +kernel)
  have hstem : Rule.Stem.ofText "main/".toList = .ok ⟨"main/".toList, false⟩ := rfl
  have hi : Path.root? "/s/./src" = .ok ⟨1, [['s'], "src".toList]⟩ := rfl
  have hr : Path.root? "/s" = .ok ⟨1, [['s']]⟩ := rfl
  have habove : Path.AtOrAbove ⟨1, [['s']]⟩ ⟨1, [['s'], "src".toList]⟩ := ⟨rfl, ["src".toList], rfl⟩
  have hsame : Path.target ⟨1, [['s']]⟩ "src/main/A" =
      Path.target ⟨1, [['s'], "src".toList]⟩ "main/A" := by decide +kernel
  have hmatch := (matches?_compiled_iff hc).mpr hcandidate
  obtain ⟨hroots, -⟩ := matches_of_matches_inner hrule hstem rfl hi hmatch
  obtain ⟨-, habsolute⟩ :=
    matches_of_matches_inner hrule hstem rfl hi ((matches?_compiled_iff hc').mpr hcandidate)
  obtain ⟨habsolute, halone⟩ := habsolute (by decide +kernel)
  exact ⟨rule, hrule, hmatch, hroots _ _ _ hr habove hsame, habsolute _ _ hr habove, halone⟩

end Pattern

end ExcludeRules
