/-
Going up from a path, and what is refused on the way.

A rule for directories is tried on the directory of the path, on the one above, and so
on up to the root; each of them is placed below the root anew, and would be refused if it
were outside.  None is: what lies inside the root stays inside until the root is reached.
So a verdict is refused only where the arguments are, before any pattern is looked at; and
a path that holds no NUL meets no other error.
Main statements:
  * `matchesUpwards?_eq` : the way up from a candidate ends, and finds its ancestors;
  * `matchesStepwise?_eq` : a verdict that is reached by going up;
  * `matches_refused_iff` : the roots and paths that patterns refuse.
-/
import Mathlib.Data.List.Induction
import ExcludeRules.Pattern.Matching
import ExcludeRules.Proofs.Path.Asking
import ExcludeRules.Proofs.Path.Refusal
import ExcludeRules.Proofs.Pattern.Compiling

namespace ExcludeRules

namespace Path

/-- The path one step further up; that of a root is the root. -/
def parent (p : Path) : Path := { p with segments := p.segments.dropLast }

theorem parent_append_singleton (slashes : Nat) (segments : List (List Char)) (s : List Char) :
    parent ⟨slashes, segments ++ [s]⟩ = ⟨slashes, segments⟩ := by
  rw [parent, List.dropLast_concat]

/-- Inside a root, and apart from it, a path has a segment to give up. -/
theorem length_parent_lt {root p : Path} (hne : p ≠ root) {below : List (List Char)}
    (h : root.below? p.parent = some below) :
    p.parent.segments.length < p.segments.length := by
  obtain ⟨slashes, segments⟩ := p
  obtain ⟨hslashes, hsegments⟩ := below?_eq_some_iff.mp h
  cases segments using List.reverseRecOn with
  | nil =>
    obtain ⟨hroot, -⟩ := List.append_eq_nil_iff.mp hsegments.symm
    exact absurd (congr (congrArg Path.mk hslashes) hroot.symm) hne
  | append_singleton segments s =>
    rw [parent_append_singleton, List.length_append]
    exact Nat.lt_succ_self _

end Path

/-- One segment further down there is one ancestor more. -/
theorem Candidate.ancestors_append_singleton (root path : Path) {below : List (List Char)}
    (hne : below ≠ []) (s : List Char) :
    (Candidate.mk root path (below ++ [s])).ancestors =
      (Candidate.mk root path below).ancestors ++ [Path.joined below] := by
  have hpos : 1 ≤ (List.range below.length).length := by
    rw [List.length_range]
    exact List.length_pos_iff.mpr hne
  have hsame : ∀ n ∈ (List.range below.length).drop 1,
      Path.joined ((below ++ [s]).take n) = Path.joined (below.take n) := by
    intro n hn
    have hlt : n < below.length := List.mem_range.mp (List.mem_of_mem_drop hn)
    rw [List.take_append_of_le_length (Nat.le_of_lt hlt)]
  show ((List.range (below ++ [s]).length).drop 1).map _ = _
  rw [List.length_append, List.length_singleton, List.range_succ,
    List.drop_append_of_le_length hpos, List.map_append, List.map_singleton]
  show ((List.range below.length).drop 1).map (fun n => Path.joined ((below ++ [s]).take n)) ++
    [Path.joined ((below ++ [s]).take below.length)] = _
  rw [List.map_congr_left hsame, List.take_left]
  rfl

namespace CompiledRule

/-- Whether the rule matches a directory above `p`, up to the root.  Each is placed below
the root anew. -/
def matchesUpwards? (rule : CompiledRule) (root p : Path) : Except PathError Bool :=
  if _ : p = root then .ok false
  else match _ : root.below? p.parent with
    | none => .error (.outside p.parent root)
    | some below =>
      if rule.matchesRelative (Path.joined below) then .ok true
      else rule.matchesUpwards? root p.parent
termination_by p.segments.length
decreasing_by exact Path.length_parent_lt ‹¬ p = root› ‹_ = some below›

variable {rule : CompiledRule} {root : Path}

theorem matchesUpwards?_root (rule : CompiledRule) (root : Path) :
    rule.matchesUpwards? root root = .ok false := by
  rw [matchesUpwards?, dif_pos rfl]

theorem matchesUpwards?_append_singleton (rule : CompiledRule) (root : Path)
    (below : List (List Char)) (s : List Char) :
    rule.matchesUpwards? root ⟨root.slashes, root.segments ++ (below ++ [s])⟩ =
      if rule.matchesRelative (Path.joined below) then .ok true
      else rule.matchesUpwards? root ⟨root.slashes, root.segments ++ below⟩ := by
  have hne : (⟨root.slashes, root.segments ++ (below ++ [s])⟩ : Path) ≠ root := by
    intro heq
    have hnil : below ++ [s] = [] := List.append_right_eq_self.mp (congrArg Path.segments heq)
    exact List.append_ne_nil_of_right_ne_nil below (List.cons_ne_nil s []) hnil
  have hparent : Path.parent ⟨root.slashes, root.segments ++ (below ++ [s])⟩ =
      ⟨root.slashes, root.segments ++ below⟩ := by
    rw [← List.append_assoc, Path.parent_append_singleton]
  have hinside : root.below? ⟨root.slashes, root.segments ++ below⟩ = some below :=
    Path.below?_eq_some_iff.mpr ⟨rfl, rfl⟩
  rw [matchesUpwards?, dif_neg hne]
  split
  · rename_i hnone
    rw [hparent, hinside] at hnone
    cases hnone
  · rename_i below' hsome
    rw [hparent, hinside] at hsome
    cases hsome
    rw [hparent]

/-- **The way up ends at the root.**  From a candidate it never leaves the root, and it
finds a match exactly if the rule matches an ancestor. -/
theorem matchesUpwards?_eq {c : Candidate} (hc : c.IsPlaced) (rule : CompiledRule) :
    rule.matchesUpwards? c.root c.path = .ok (c.ancestors.any rule.matchesRelative) := by
  obtain ⟨root, path, below⟩ := c
  rw [hc.path_eq]
  clear hc
  show rule.matchesUpwards? root ⟨root.slashes, root.segments ++ below⟩ = _
  induction below using List.reverseRecOn with
  | nil =>
    rw [List.append_nil]
    exact matchesUpwards?_root rule root
  | append_singleton below s ih =>
    rw [matchesUpwards?_append_singleton, ih]
    by_cases hne : below = []
    · -- the step before the last leads to the root, which is never matched
      subst hne
      rfl
    · rw [Candidate.ancestors_append_singleton root path hne s, List.any_append, List.any_cons,
        List.any_nil, Bool.or_false, Bool.or_comm]
      cases rule.matchesRelative (Path.joined below) <;> rfl

end CompiledRule

namespace Pattern

/-- The verdict as it is reached step by step, each of which may refuse the path. -/
def matchesStepwise? (p : Pattern) (probe : Probe) (root : String) (path : Option String) :
    Except MatchError Bool := do
  let c ← (Candidate.resolve root path).mapError .path
  match p with
  | compiled rule =>
    if !rule.matchesRelative c.relative then return false
    if !rule.directoryOnly then return true
    if ← (rule.matchesUpwards? c.root c.path).mapError .path then return true
    match probe.find? c.path.toString with
    | none => .error .nul
    | some found => return found.maybeDirectory
  | _ => return false

variable {root : String} {path : Option String}

theorem matchesStepwise?_eq (p : Pattern) (probe : Probe) (root : String) (path : Option String) :
    p.matchesStepwise? probe root path = p.matches? probe root path := by
  unfold matchesStepwise? matches?
  cases hc : Candidate.resolve root path with
  | error e => rfl
  | ok c =>
    cases p with
    | blank text => rfl
    | comment text => rfl
    | compiled rule =>
      have hup := rule.matchesUpwards?_eq (Candidate.isPlaced_of_resolve hc)
      have hjudge : (compiled rule).judge? probe c =
          if rule.matchesRelative c.relative && rule.directoryOnly &&
              !c.ancestors.any rule.matchesRelative && (probe.find? c.path.toString).isNone
          then .error .nul
          else .ok (rule.matchesRelative c.relative && (!rule.directoryOnly ||
            c.ancestors.any rule.matchesRelative ||
              (probe.find? c.path.toString).any Finding.maybeDirectory)) := rfl
      simp only [Outcome.mapError_ok, Outcome.ok_bind, hup, hjudge]
      -- the four questions, in the order in which they are asked
      by_cases hrelative : rule.matchesRelative c.relative = true
      · by_cases hdir : rule.directoryOnly = true
        · by_cases habove : c.ancestors.any rule.matchesRelative = true
          · simp [hrelative, hdir, habove, Outcome.pure_eq_ok]
          · cases hfind : probe.find? c.path.toString <;>
              simp [hrelative, hdir, habove, Outcome.pure_eq_ok]
        · simp [hrelative, hdir, Outcome.pure_eq_ok]
      · simp [hrelative, Outcome.pure_eq_ok]

/-- A pattern refuses what every other refuses, before it is looked at. -/
theorem matches?_eq_path_error_iff {p : Pattern} {probe : Probe} {e : PathError} :
    p.matches? probe root path = .error (.path e) ↔ Candidate.Refused root path e := by
  rw [← Candidate.resolve_eq_error_iff]
  cases hc : Candidate.resolve root path with
  | error e' => simp [matches?, hc]
  | ok c =>
    rw [matches?_of_resolve hc]
    refine iff_of_false (fun h => ?_) fun h => ?_
    · obtain ⟨-, -, hnul⟩ := judge?_eq_error_iff.mp h
      cases hnul
    · cases h

/-- A pattern raises nothing else, unless the disk cannot be asked. -/
theorem matches?_eq_nul_iff {p : Pattern} {probe : Probe} :
    p.matches? probe root path = .error .nul ↔
      ∃ c, Candidate.resolve root path = .ok c ∧ p.asksDisk c = true ∧
        probe.find? c.path.toString = none := by
  cases hc : Candidate.resolve root path with
  | error e => simp [matches?, hc]
  | ok c => simp [matches?_of_resolve hc, judge?_eq_error_iff]

/-- **What patterns refuse.**  Every pattern, be it blank, a comment or a rule, refuses a
root and a path exactly if the root is not absolute, or what the path leads to has other
slashes in front than the root, or does not begin with its segments; and a path alone
exactly if it is not absolute.  The error is the same for every pattern and tells these
apart, and there is no other error unless the root or the path holds a NUL.  A rule for
directories that goes up from the path, and places each directory below the root anew,
comes to the same verdict and refuses nothing else. -/
theorem matches_refused_iff (p : Pattern) (probe : Probe) (root : String) :
    (∀ path, (∃ e, p.matches? probe root (some path) = .error (.path e)) ↔
      ¬ (Path.ofText root.toList).isAbsolute = true ∨
        ((Path.ofText root.toList).target path).slashes ≠
          (Path.ofText root.toList).normalize.slashes ∨
        ¬ (Path.ofText root.toList).normalize.segments <+:
          ((Path.ofText root.toList).target path).segments) ∧
    ((∃ e, p.matches? probe root none = .error (.path e)) ↔
      ¬ (Path.ofText root.toList).isAbsolute = true) ∧
    (∀ path e, p.matches? probe root path = .error (.path e) ↔ Candidate.Refused root path e) ∧
    (∀ path, p.matches? probe root path = .error .nul →
      '\x00' ∈ root.toList ∨ ∃ text ∈ path, '\x00' ∈ text.toList) ∧
    ∀ path, p.matchesStepwise? probe root path = p.matches? probe root path := by
  refine ⟨fun path => ?_, ?_, fun path e => matches?_eq_path_error_iff, fun path h => ?_,
    matchesStepwise?_eq p probe root⟩
  · rw [← Candidate.exists_refused_iff]
    exact exists_congr fun e => matches?_eq_path_error_iff
  · rw [← Candidate.exists_refused_alone_iff]
    exact exists_congr fun e => matches?_eq_path_error_iff
  · obtain ⟨c, hc, -, hnone⟩ := matches?_eq_nul_iff.mp h
    exact Probe.nul_mem_of_find?_eq_none hc hnone

/-- A rule for directories, and a path that it would have to ask the disk about. -/
theorem matches_refused_iff_nul :
    ∃ p, compile (some "a*/") = .ok p ∧
      p.matches? (.ofSystem fun _ => .missing) "/r" (some "a\x00b") = .error .nul ∧
      ('\x00' ∈ "/r".toList ∨ ∃ text ∈ some "a\x00b", '\x00' ∈ text.toList) := by
  let c : Candidate := ⟨⟨1, ["r".toList]⟩, ⟨1, ["r".toList, "a\x00b".toList]⟩, ["a\x00b".toList]⟩
  have hc : Candidate.resolve "/r" (some "a\x00b") = .ok c := rfl
  obtain ⟨rule, hrule, hasks⟩ := exists_compiled "a*/"
    (p := fun rule => rule.asksDisk c) ⟨'a', _, rfl, rfl⟩ (by decide +kernel)
  have hnone : (Probe.ofSystem fun _ => .missing).find? c.path.toString = none :=
    Probe.find?_ofSystem_eq_none_iff.mpr (by decide +kernel)
  have hnul : (compiled rule).matches? (.ofSystem fun _ => .missing) "/r" (some "a\x00b") =
      .error .nul :=
    matches?_eq_nul_iff.mpr ⟨c, hc, hasks, hnone⟩
  obtain ⟨-, -, -, hholds, -⟩ :=
    matches_refused_iff (.compiled rule) (.ofSystem fun _ => .missing) "/r"
  exact ⟨_, hrule, hnul, hholds _ hnul⟩

end Pattern

end ExcludeRules
