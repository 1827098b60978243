/-
The spelling of roots and paths.

Repeated slashes, dots and double dots make different texts of one path.  A candidate
depends only on the root without double dots and on the path that is reached from it,
and both are read again as they were written; so each text may be replaced by the
plainest one.  Main statements:
  * `root?_toString`, `target_toString` : the plainest text of a root and of a path;
  * `resolve_respelled` : it leads to the same candidate, or to the same error;
  * `matches_respelled` : every pattern says the same of both, and sees segments only.
-/
import ExcludeRules.Proofs.Pattern.Inheritance

namespace ExcludeRules

open ExcludeRules.Path (IsProper IsNormal joined)

namespace Path

theorem isNormal_normalize_ofText {text : String}
    (habs : (ofText text.toList).isAbsolute = true) : (ofText text.toList).normalize.IsNormal :=
  isNormal_normalize habs fun _ hs => Candidate.segments_ofText hs

/-- What is reached from an absolute path is normal. -/
theorem isNormal_target {p : Path} (habs : p.isAbsolute = true)
    (h : ∀ s ∈ p.segments, s ≠ [] ∧ s ≠ ['.'] ∧ '/' ∉ s) (text : String) :
    (p.target text).IsNormal := by
  refine isNormal_normalize (isAbsolute_join habs) fun s hs => ?_
  unfold join at hs
  split at hs
  · exact Candidate.segments_ofText hs
  · rcases List.mem_append.mp hs with hs | hs
    · exact h s hs
    · exact Candidate.segments_ofText hs

theorem slashes_target_le {p : Path} (h : p.slashes ≤ 2) (text : String) :
    (p.target text).slashes ≤ 2 := by
  show (p.join (ofText text.toList)).slashes ≤ 2
  unfold join
  split
  · exact frontSlashes_le _
  · exact h

/-- A normal path, written out, is a root. -/
theorem root?_toString {p : Path} (hp : p.IsNormal) (hslashes : p.slashes ≤ 2) :
    root? p.toString = .ok p := by
  have hread : ofText p.toString.toList = p := by
    rw [toString, String.toList_ofList, ofText_text hslashes hp.proper]
  refine root?_eq_ok_iff.mpr ⟨?_, ?_⟩
  · rw [hread, hp.absolute]
  · rw [hread, normalize_of_proper hp.proper]

/-- A normal path, written out, is reached from every root. -/
theorem target_toString (root : Path) {p : Path} (hp : p.IsNormal) (hslashes : p.slashes ≤ 2) :
    root.target p.toString = p := by
  rw [target, toString, String.toList_ofList, ofText_text hslashes hp.proper,
    join_of_isAbsolute hp.absolute, normalize_of_proper hp.proper]

end Path

namespace Candidate

/-- A candidate depends on where its path leads, and not on how it gets there. -/
theorem place_congr {root p q : Path} (h : (root.join p).normalize = (root.join q).normalize) :
    place root p = place root q := by
  rw [place, place, h]

theorem resolve_of_root? {root : String} {r : Path} (h : Path.root? root = .ok r)
    (path : String) : resolve root (some path) = place r (Path.ofText path.toList) := by
  rw [resolve, h]
  rfl

/-- The root without double dots, and the path that is reached from it, are all that counts. -/
theorem resolve_respelled {root : String} (habs : (Path.ofText root.toList).isAbsolute = true)
    (path : String) :
    resolve root (some path) =
      resolve (Path.ofText root.toList).normalize.toString
        (some ((Path.ofText root.toList).target path).toString) := by
  have hsegments : ∀ s ∈ (Path.ofText root.toList).segments, s ≠ [] ∧ s ≠ ['.'] ∧ '/' ∉ s :=
    fun _ hs => segments_ofText hs
  have hfront : (Path.ofText root.toList).slashes ≤ 2 := Path.frontSlashes_le _
  have hnormal := Path.isNormal_normalize_ofText habs
  have htarget := Path.isNormal_target habs hsegments path
  have hplain : Path.root? (Path.ofText root.toList).normalize.toString =
      .ok (Path.ofText root.toList).normalize := Path.root?_toString hnormal hfront
  have hroot : Path.root? root = .ok (Path.ofText root.toList).normalize :=
    Path.root?_eq_ok_iff.mpr ⟨habs, rfl⟩
  rw [resolve_of_root? hroot, resolve_of_root? hplain]
  -- both paths lead to the target, the one since the root was normalised first
  refine place_congr ?_
  rw [Path.normalize_normalize_join hnormal]
  exact (Path.target_toString _ htarget (Path.slashes_target_le hfront path)).symm

end Candidate

namespace Pattern

theorem matches?_congr {root root' : String} {path path' : Option String}
    (h : Candidate.resolve root path = Candidate.resolve root' path') (p : Pattern)
    (probe : Probe) : p.matches? probe root path = p.matches? probe root' path' := by
  rw [matches?, matches?, h]

/-- The root itself is matched by no pattern, and the disk is not asked about it. -/
theorem judge?_of_relative_nil {c : Candidate} (h : c.relative = []) (p : Pattern)
    (probe : Probe) : p.judge? probe c = .ok false := by
  cases p with
  | blank text => rfl
  | comment text => rfl
  | compiled rule =>
    have hasks : (compiled rule).asksDisk c = false := by
      show rule.asksDisk c = false
      rw [CompiledRule.asksDisk, h, CompiledRule.matchesRelative_nil, Bool.false_and,
        Bool.false_and]
    have hmatch : (compiled rule).matchesCandidate probe c = false := by
      show rule.matchesCandidate probe c = false
      rw [CompiledRule.matchesCandidate, h, CompiledRule.matchesRelative_nil, Bool.false_and]
    rw [judge?_of_not_asksDisk hasks, hmatch]

/-- **The spelling of a path does not matter.**  Under an absolute root every pattern
says of a path what it says of the plainest spelling of both, be it a verdict or an
error.  If it is a verdict, the text that the pattern sees is empty, and then no pattern
matches; or else it joins proper segments, which lead from the root to the path. -/
theorem matches_respelled {root : String} (habs : (Path.ofText root.toList).isAbsolute = true)
    (path : String) :
    (∀ (p : Pattern) (probe : Probe),
      p.matches? probe root (some path) =
        p.matches? probe (Path.ofText root.toList).normalize.toString
          (some ((Path.ofText root.toList).target path).toString)) ∧
    ∀ c, Candidate.resolve root (some path) = .ok c →
      (c.relative = [] ∧
        ∀ (p : Pattern) (probe : Probe), p.matches? probe root (some path) = .ok false) ∨
      ∃ segments, segments ≠ [] ∧ (∀ s ∈ segments, IsProper s) ∧
        c.relative = joined segments ∧
        ((Path.ofText root.toList).target path).segments =
          (Path.ofText root.toList).normalize.segments ++ segments := by
  refine ⟨fun p probe => matches?_congr (Candidate.resolve_respelled habs path) p probe, ?_⟩
  intro c hc
  have hplaced : c.IsPlaced := Candidate.isPlaced_of_resolve hc
  by_cases hbelow : c.below = []
  · left
    have hempty : c.relative = [] := by
      rw [Candidate.relative, hbelow]
      rfl
    refine ⟨hempty, fun p probe => ?_⟩
    rw [matches?_of_resolve hc, judge?_of_relative_nil hempty]
  · right
    have hroot : Path.root? root = .ok (Path.ofText root.toList).normalize :=
      Path.root?_eq_ok_iff.mpr ⟨habs, rfl⟩
    rw [Candidate.resolve_of_root? hroot] at hc
    obtain ⟨below, hinside, rfl⟩ := Candidate.place_eq_ok_iff.mp hc
    obtain ⟨-, hsegments⟩ := Path.below?_eq_some_iff.mp hinside
    rw [Path.normalize_normalize_join hplaced.root] at hsegments
    exact ⟨below, hbelow, hplaced.below, rfl, hsegments⟩

/-- Two slashes in front, a double dot too many behind them, and a path outside the root. -/
theorem matches_respelled_srv :
    (∀ (p : Pattern) (probe : Probe), p.matches? probe "//../srv/a/./.." (some "b/..//c/") =
      p.matches? probe "//srv" (some "//srv/c")) ∧
    (∀ (p : Pattern) (probe : Probe), p.matches? probe "//../srv/a/./.." (some "/srv/./c") =
      p.matches? probe "//srv" (some "/srv/c")) ∧
    ∃ segments, segments ≠ [] ∧ (∀ s ∈ segments, IsProper s) ∧ ['c'] = joined segments ∧
      ["srv".toList, ['c']] = ["srv".toList] ++ segments := by
  have habs : (Path.ofText "//../srv/a/./..".toList).isAbsolute = true := by decide +kernel
  obtain ⟨hinside, hseen⟩ := matches_respelled habs "b/..//c/"
  obtain ⟨houtside, -⟩ := matches_respelled habs "/srv/./c"
  have hc : Candidate.resolve "//../srv/a/./.." (some "b/..//c/") =
      .ok ⟨⟨2, ["srv".toList]⟩, ⟨2, ["srv".toList, ['c']]⟩, [['c']]⟩ := rfl
  refine ⟨hinside, houtside, ?_⟩
  rcases hseen _ hc with ⟨hempty, -⟩ | hsegments
  · exact absurd hempty (by decide)
  · exact hsegments

end Pattern

end ExcludeRules
