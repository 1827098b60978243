/-
Which roots and paths are refused.

A root is refused unless it is absolute, and so is a path that is given without one.
Below a root a path is refused unless what it leads to has the slashes of the root in
front and begins with its segments; a path that stands alone is always inside the root
that it starts from.  Main statements:
  * `resolve_eq_error_iff` : what is refused, and with which error;
  * `exists_refused_iff`, `exists_refused_alone_iff` : the same without the error.
-/
import ExcludeRules.Proofs.Path.Placement

namespace ExcludeRules

namespace Path

theorem root?_eq_error_iff {text : String} {e : PathError} :
    root? text = .error e ↔
      ¬ (ofText text.toList).isAbsolute = true ∧ e = .rootNotAbsolute text := by
  by_cases habs : (ofText text.toList).isAbsolute = true
  · simp [root?, habs]
  · simp [root?, habs, eq_comm]

theorem absolute?_eq_error_iff {text : String} {e : PathError} :
    absolute? text = .error e ↔
      ¬ (ofText text.toList).isAbsolute = true ∧ e = .notAbsolute text := by
  by_cases habs : (ofText text.toList).isAbsolute = true
  · simp [absolute?, habs]
  · simp [absolute?, habs, eq_comm]

theorem below?_eq_none_iff {root p : Path} : root.below? p = none ↔ ¬ root.AtOrAbove p := by
  constructor
  · rintro hnone ⟨hslashes, below, hsegments⟩
    rw [below?_eq_some_iff.mpr ⟨hslashes.symm, hsegments⟩] at hnone
    cases hnone
  · intro hout
    cases h : root.below? p with
    | none => rfl
    | some below =>
      obtain ⟨hslashes, hsegments⟩ := below?_eq_some_iff.mp h
      exact absurd ⟨hslashes.symm, below, hsegments⟩ hout

/-- A path is outside a root that has other slashes in front, or other segments. -/
theorem not_atOrAbove_iff {root p : Path} :
    ¬ root.AtOrAbove p ↔ p.slashes ≠ root.slashes ∨ ¬ root.segments <+: p.segments := by
  have hinside : root.AtOrAbove p ↔
      p.slashes = root.slashes ∧ root.segments <+: p.segments :=
    and_congr eq_comm (exists_congr fun _ => eq_comm)
  rw [hinside, Decidable.not_and_iff_not_or_not]

end Path

namespace Candidate

variable {root : String} {path : Option String} {e : PathError}

/-- Why a root and a path, or a path alone, cannot be tested. -/
inductive Refused (root : String) : Option String → PathError → Prop
  | rootNotAbsolute {path : String} (h : ¬ (Path.ofText root.toList).isAbsolute = true) :
      Refused root (some path) (.rootNotAbsolute root)
  | outside {path : String} (habs : (Path.ofText root.toList).isAbsolute = true)
      (h : ¬ (Path.ofText root.toList).normalize.AtOrAbove
        ((Path.ofText root.toList).target path)) :
      Refused root (some path)
        (.outside ((Path.ofText root.toList).target path) (Path.ofText root.toList).normalize)
  | notAbsolute (h : ¬ (Path.ofText root.toList).isAbsolute = true) :
      Refused root none (.notAbsolute root)

theorem place_eq_error_iff {root path : Path} :
    place root path = .error e ↔
      ¬ root.AtOrAbove (root.join path).normalize ∧
        e = .outside (root.join path).normalize root := by
  rw [← Path.below?_eq_none_iff]
  unfold place
  cases h : root.below? (root.join path).normalize with
  | none => simp [h, eq_comm]
  | some below => simp [h]

/-- An absolute path is inside the root that it starts from. -/
theorem place_anchor_ne_error {p : Path} (habs : p.isAbsolute = true) :
    place p.anchor p ≠ .error e := by
  intro h
  refine (place_eq_error_iff.mp h).1 ⟨?_, p.normalize.segments, ?_⟩
  · rw [Path.join_of_isAbsolute habs]
    rfl
  · rw [Path.join_of_isAbsolute habs]
    rfl

/-- **What is refused**, and with which error. -/
theorem resolve_eq_error_iff : resolve root path = .error e ↔ Refused root path e := by
  cases path with
  | none =>
    have hresolve : resolve root none = .error e ↔
        ¬ (Path.ofText root.toList).isAbsolute = true ∧ e = .notAbsolute root := by
      rw [← Path.absolute?_eq_error_iff]
      refine Outcome.bind_eq_error_iff.trans (or_iff_left ?_)
      rintro ⟨p, hp, hplace⟩
      obtain ⟨habs, rfl⟩ := Path.absolute?_eq_ok_iff.mp hp
      exact place_anchor_ne_error habs hplace
    rw [hresolve]
    constructor
    · rintro ⟨habs, rfl⟩
      exact .notAbsolute habs
    · rintro (- | - | habs)
      exact ⟨habs, rfl⟩
  | some path =>
    have hsame (habs : (Path.ofText root.toList).isAbsolute = true) :
        ((Path.ofText root.toList).normalize.join (Path.ofText path.toList)).normalize =
          (Path.ofText root.toList).target path :=
      Path.normalize_normalize_join
        (isNormal_root? (Path.root?_eq_ok_iff.mpr ⟨habs, rfl⟩)) (Path.ofText path.toList)
    constructor
    · intro h
      rcases Outcome.bind_eq_error_iff.mp h with hroot | ⟨r, hr, hplace⟩
      · obtain ⟨habs, rfl⟩ := Path.root?_eq_error_iff.mp hroot
        exact .rootNotAbsolute habs
      · obtain ⟨habs, rfl⟩ := Path.root?_eq_ok_iff.mp hr
        obtain ⟨hout, rfl⟩ := place_eq_error_iff.mp hplace
        rw [hsame habs] at hout ⊢
        exact .outside habs hout
    · rintro (habs | ⟨habs, hout⟩)
      · exact Outcome.bind_eq_error_iff.mpr (.inl (Path.root?_eq_error_iff.mpr ⟨habs, rfl⟩))
      · refine Outcome.bind_eq_error_iff.mpr (.inr ⟨_, Path.root?_eq_ok_iff.mpr ⟨habs, rfl⟩, ?_⟩)
        rw [← hsame habs] at hout ⊢
        exact place_eq_error_iff.mpr ⟨hout, rfl⟩

theorem exists_refused_iff {path : String} :
    (∃ e, Refused root (some path) e) ↔
      ¬ (Path.ofText root.toList).isAbsolute = true ∨
        ((Path.ofText root.toList).target path).slashes ≠
          (Path.ofText root.toList).normalize.slashes ∨
        ¬ (Path.ofText root.toList).normalize.segments <+:
          ((Path.ofText root.toList).target path).segments := by
  rw [← Path.not_atOrAbove_iff]
  constructor
  · rintro ⟨e, habs | ⟨-, hout⟩⟩
    · exact .inl habs
    · exact .inr hout
  · intro h
    by_cases habs : (Path.ofText root.toList).isAbsolute = true
    · exact ⟨_, .outside habs (h.resolve_left fun hnot => hnot habs)⟩
    · exact ⟨_, .rootNotAbsolute habs⟩

theorem exists_refused_alone_iff :
    (∃ e, Refused root none e) ↔ ¬ (Path.ofText root.toList).isAbsolute = true := by
  constructor
  · rintro ⟨_, - | - | habs⟩
    exact habs
  · intro habs
    exact ⟨_, .notAbsolute habs⟩

end Candidate

end ExcludeRules
