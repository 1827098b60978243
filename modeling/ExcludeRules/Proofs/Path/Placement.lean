/-
Where a candidate lies.

A candidate that could be placed lies below a normal root, and proper segments
lead down to it.  Its ancestors are the paths that fewer of these segments lead
to, and each of them can be placed below the same root.  Main statements:
  * `isPlaced_of_resolve` : what is known of a candidate;
  * `resolve_joined` : proper segments lead from the root to a candidate;
  * `mem_ancestors_iff` : the ancestors of a candidate.
-/
import ExcludeRules.Proofs.Outcome
import ExcludeRules.Proofs.Path.Normal

namespace ExcludeRules

namespace Path

/-- The path `q` lies below `p`, and is not `p` itself. -/
def StrictlyAbove (p q : Path) : Prop :=
  p.slashes = q.slashes ∧ ∃ rest, rest ≠ [] ∧ q.segments = p.segments ++ rest

/-- The path `q` is `p` or lies below it. -/
def AtOrAbove (p q : Path) : Prop :=
  p.slashes = q.slashes ∧ ∃ rest, q.segments = p.segments ++ rest

/-- The path that a text names as seen from a root, without double dots. -/
def target (root : Path) (text : String) : Path := (root.join (ofText text.toList)).normalize

theorem below?_eq_some_iff {root p : Path} {below : List (List Char)} :
    root.below? p = some below ↔
      p.slashes = root.slashes ∧ p.segments = root.segments ++ below := by
  unfold below?
  constructor
  · intro h
    split at h
    · rename_i hinside
      obtain ⟨hslashes, hprefix⟩ := hinside
      obtain ⟨rest, hrest⟩ := List.isPrefixOf_iff_prefix.mp hprefix
      rw [← hrest, List.drop_left] at h
      exact ⟨hslashes, by rw [← hrest, Option.some.inj h]⟩
    · cases h
  · rintro ⟨hslashes, hsegments⟩
    have hprefix : root.segments.isPrefixOf p.segments = true :=
      List.isPrefixOf_iff_prefix.mpr ⟨below, hsegments.symm⟩
    rw [if_pos ⟨hslashes, hprefix⟩, hsegments, List.drop_left]

/-- An absolute path is seen from every root as it stands. -/
theorem join_of_isAbsolute {p q : Path} (h : q.isAbsolute = true) : p.join q = q := by
  rw [join, if_pos h]

theorem root?_eq_ok_iff {text : String} {r : Path} :
    root? text = .ok r ↔
      (ofText text.toList).isAbsolute = true ∧ r = (ofText text.toList).normalize := by
  by_cases habs : (ofText text.toList).isAbsolute = true
  · simp [root?, habs, eq_comm]
  · simp [root?, habs]

theorem absolute?_eq_ok_iff {text : String} {p : Path} :
    absolute? text = .ok p ↔ (ofText text.toList).isAbsolute = true ∧ p = ofText text.toList := by
  by_cases habs : (ofText text.toList).isAbsolute = true
  · simp [absolute?, habs, eq_comm]
  · simp [absolute?, habs]

end Path

namespace Candidate

open ExcludeRules.Path (IsProper)

/-- The candidate lies below a normal root, at the end of proper segments. -/
structure IsPlaced (c : Candidate) : Prop where
  root : c.root.IsNormal
  below : ∀ s ∈ c.below, IsProper s
  path_eq : c.path = ⟨c.root.slashes, c.root.segments ++ c.below⟩

theorem isPlaced_of_place {root path : Path} {c : Candidate} (hroot : root.IsNormal)
    (hpath : ∀ s ∈ path.segments, s ≠ [] ∧ s ≠ ['.'] ∧ '/' ∉ s) (h : place root path = .ok c) :
    c.IsPlaced ∧ c.root = root := by
  obtain ⟨below, hbelow, rfl⟩ := place_eq_ok_iff.mp h
  have htarget : (root.join path).normalize.IsNormal := by
    refine Path.isNormal_normalize (Path.isAbsolute_join hroot.absolute) ?_
    intro s hs
    unfold Path.join at hs
    split at hs
    · exact hpath s hs
    · rcases List.mem_append.mp hs with hs | hs
      · exact ⟨(hroot.proper s hs).ne_nil, (hroot.proper s hs).ne_dot, (hroot.proper s hs).no_slash⟩
      · exact hpath s hs
  obtain ⟨hslashes, hsegments⟩ := Path.below?_eq_some_iff.mp hbelow
  refine ⟨⟨hroot, fun s hs => htarget.proper s ?_, ?_⟩, rfl⟩
  · rw [hsegments]
    exact List.mem_append_right _ hs
  · rw [← hsegments, ← hslashes]

theorem segments_ofText {text s : List Char} (h : s ∈ (Path.ofText text).segments) :
    s ≠ [] ∧ s ≠ ['.'] ∧ '/' ∉ s :=
  ⟨(Path.ofText_segments text s h).1, (Path.ofText_segments text s h).2, Path.no_slash_ofText h⟩

theorem isNormal_root? {text : String} {r : Path} (h : Path.root? text = .ok r) : r.IsNormal := by
  obtain ⟨habs, rfl⟩ := Path.root?_eq_ok_iff.mp h
  exact Path.isNormal_normalize habs fun s hs => segments_ofText hs

theorem isPlaced_of_resolve {root : String} {path : Option String} {c : Candidate}
    (h : resolve root path = .ok c) : c.IsPlaced := by
  cases path with
  | some path =>
    obtain ⟨r, hr, hplace⟩ := resolve_eq_ok_iff.mp h
    exact (isPlaced_of_place (isNormal_root? hr) (fun s hs => segments_ofText hs) hplace).1
  | none =>
    obtain ⟨p, hp, hplace⟩ := Outcome.bind_eq_ok_iff.mp h
    obtain ⟨habs, rfl⟩ := Path.absolute?_eq_ok_iff.mp hp
    have hanchor : (Path.ofText root.toList).anchor.IsNormal := ⟨habs, by simp [Path.anchor]⟩
    exact (isPlaced_of_place hanchor (fun s hs => segments_ofText hs) hplace).1

/-- No path below the root is written as a single dot. -/
theorem IsPlaced.relative_ne_dot {c : Candidate} (h : c.IsPlaced) : c.relative ≠ ['.'] := by
  intro hdot
  have hbelow : c.below ≠ [] := by
    intro hnil
    rw [relative, hnil] at hdot
    cases hdot
  have hslash : '/' ∉ c.relative := by
    rw [hdot]
    decide
  obtain ⟨s, hs⟩ := Path.exists_eq_singleton hbelow hslash
  rw [relative, hs] at hdot
  exact (h.below s (hs ▸ List.mem_singleton_self s)).ne_dot hdot

theorem resolve_joined {root path : String} {c : Candidate} (h : resolve root (some path) = .ok c)
    {segments : List (List Char)} (hsegments : ∀ s ∈ segments, IsProper s) :
    resolve root (some (String.ofList (Path.joined segments))) =
      .ok ⟨c.root, ⟨c.root.slashes, c.root.segments ++ segments⟩, segments⟩ := by
  obtain ⟨r, hr, hplace⟩ := resolve_eq_ok_iff.mp h
  have hroot := isNormal_root? hr
  obtain ⟨-, rfl⟩ := isPlaced_of_place hroot (fun s hs => segments_ofText hs) hplace
  refine resolve_eq_ok_iff.mpr ⟨c.root, hr, place_eq_ok_iff.mpr ⟨segments, ?_, ?_⟩⟩
  · rw [String.toList_ofList, Path.ofText_joined hsegments, Path.normalize_join hroot hsegments]
    simp [Path.below?]
  · rw [String.toList_ofList, Path.ofText_joined hsegments, Path.normalize_join hroot hsegments]

theorem root_eq_of_resolve {root p q : String} {cp cq : Candidate}
    (hp : resolve root (some p) = .ok cp) (hq : resolve root (some q) = .ok cq) :
    cp.root = cq.root := by
  obtain ⟨r, hr, hplace⟩ := resolve_eq_ok_iff.mp hp
  obtain ⟨r', hr', hplace'⟩ := resolve_eq_ok_iff.mp hq
  obtain rfl : r = r' := Except.ok.inj (hr.symm.trans hr')
  obtain ⟨-, rfl⟩ := isPlaced_of_place (isNormal_root? hr) (fun s hs => segments_ofText hs) hplace
  exact (isPlaced_of_place (isNormal_root? hr) (fun s hs => segments_ofText hs) hplace').2.symm

/-- Below one root, what lies below a candidate has the segments of it and more. -/
theorem IsPlaced.strictlyAbove_iff {cp cq : Candidate} (hp : cp.IsPlaced) (hq : cq.IsPlaced)
    (hroot : cp.root = cq.root) :
    cp.path.StrictlyAbove cq.path ↔ ∃ rest, rest ≠ [] ∧ cq.below = cp.below ++ rest := by
  simp [Path.StrictlyAbove, hp.path_eq, hq.path_eq, hroot]

theorem IsPlaced.root_strictlyAbove_iff {c : Candidate} (hc : c.IsPlaced) :
    c.root.StrictlyAbove c.path ↔ c.below ≠ [] := by
  simp [Path.StrictlyAbove, hc.path_eq]

/-! ### Ancestors -/

/-- An ancestor is at the end of some of the segments that lead to the candidate. -/
theorem mem_ancestors_iff {c : Candidate} {a : List Char} :
    a ∈ c.ancestors ↔
      ∃ as bs, as ≠ [] ∧ bs ≠ [] ∧ c.below = as ++ bs ∧ a = Path.joined as := by
  have hrange : (List.range c.below.length).drop 1 = List.range' 1 (c.below.length - 1) := by
    rw [List.range_eq_range', List.drop_range']
  rw [ancestors, hrange]
  constructor
  · -- the walk leaves out the root, of no segments, and the candidate, of all
    intro h
    obtain ⟨n, hn, rfl⟩ := List.mem_map.mp h
    obtain ⟨hpos, hlt⟩ := List.mem_range'_1.mp hn
    refine ⟨c.below.take n, c.below.drop n, ?_, ?_, (List.take_append_drop n c.below).symm, rfl⟩
    · intro hnil
      have := congrArg List.length hnil
      rw [List.length_take, List.length_nil] at this
      omega
    · intro hnil
      have := congrArg List.length hnil
      rw [List.length_drop, List.length_nil] at this
      omega
  · rintro ⟨as, bs, has, hbs, hbelow, rfl⟩
    have hapos := List.length_pos_iff.mpr has
    have hbpos := List.length_pos_iff.mpr hbs
    refine List.mem_map.mpr ⟨as.length, List.mem_range'_1.mpr ?_, ?_⟩
    · rw [hbelow, List.length_append]
      omega
    · rw [hbelow, List.take_left]

end Candidate

end ExcludeRules
