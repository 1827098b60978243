/-
What a list refuses.

A list does not look at a root and a path itself; the first of its patterns does, of
whatever kind it is.  So a list of any patterns refuses what each of them would, and a
list without patterns refuses nothing.  Inside the root there is a verdict, unless the
disk would have to be asked first about a path that it cannot be asked about.
Main statements:
  * `isExcluded_eq_path_error_iff`, `matchingRules_eq_path_error_iff` : what both refuse;
  * `isExcluded_of_nil`, `matchingRules_of_nil` : their answers where nothing is asked;
  * `isJudged_iff` : the paths on which there is a verdict;
  * `anyMatches_iff`, `isSome_of_firstMatch?` : what the verdict is.
-/
import ExcludeRules.Proofs.FilterList.Verdicts
import ExcludeRules.Proofs.Path.Refusal

namespace ExcludeRules.FilterList

variable {l : FilterList} {probe : Probe} {root : String} {path : Option String}
  {thread : Nat} {s : Log.State} {e : PathError}

/-- A question refuses what its first pattern does, if it goes through a list from there and
refuses nothing inside the root. -/
theorem eq_path_error_iff_of_first {α : Type} {ask : List Pattern → Except MatchError α}
    (hnil : ask [] ≠ .error (.path e))
    (hfirst : ∀ e', Candidate.resolve root path = .error e' → ∀ p ps,
      ask (p :: ps) = .error (.path e'))
    (hinside : ∀ c, Candidate.resolve root path = .ok c → ∀ ps, ask ps ≠ .error (.path e))
    (ps : List Pattern) :
    ask ps = .error (.path e) ↔ ps ≠ [] ∧ Candidate.Refused root path e := by
  rw [← Candidate.resolve_eq_error_iff]
  -- nothing in the list is looked at but whether there is a first pattern
  cases hc : Candidate.resolve root path with
  | ok c => exact iff_of_false (hinside c hc ps) fun h => nomatch h.2
  | error e' =>
    cases ps with
    | nil => exact iff_of_false hnil fun h => h.1 rfl
    | cons p ps =>
      rw [hfirst e' hc, Except.error.injEq, Except.error.injEq, MatchError.path.injEq]
      exact (and_iff_right (List.cons_ne_nil p ps)).symm

theorem allMatches?_eq_path_error_iff {ps : List Pattern} :
    allMatches? probe root path ps = .error (.path e) ↔
      ps ≠ [] ∧ Candidate.Refused root path e := by
  refine eq_path_error_iff_of_first (fun h => by cases h) (fun e' => allMatches?_of_error)
    (fun c hc ps h => ?_) ps
  rw [allMatches?_eq_filter hc] at h
  split at h <;> cases h

theorem firstMatch?_eq_path_error_iff {ps : List Pattern} :
    firstMatch? probe root path ps = .error (.path e) ↔
      ps ≠ [] ∧ Candidate.Refused root path e := by
  refine eq_path_error_iff_of_first (fun h => by cases h) (fun e' => firstMatch?_of_error)
    (fun c hc ps h => ?_) ps
  rw [firstMatch?_eq_find? hc] at h
  cases hfind : ps.find? (·.stops probe c) with
  | none =>
    rw [hfind] at h
    cases h
  | some p =>
    rw [hfind] at h
    obtain ⟨-, -, hnul⟩ := Pattern.judge?_eq_error_iff.mp (Outcome.map_eq_error_iff.mp h)
    cases hnul

theorem isExcluded_eq_path_error_iff :
    l.isExcluded probe root path thread s = .error (.path e) ↔
      l.patterns ≠ [] ∧ Candidate.Refused root path e := by
  rw [isExcluded_eq_map, Outcome.map_eq_error_iff, firstMatch?_eq_path_error_iff]

theorem matchingRules_eq_path_error_iff :
    l.matchingRules probe root path = .error (.path e) ↔
      l.patterns ≠ [] ∧ Candidate.Refused root path e := by
  rw [matchingRules_eq_map, Outcome.map_eq_error_iff, allMatches?_eq_path_error_iff]

/-- A list without patterns excludes nothing, whatever it is asked about. -/
theorem isExcluded_of_nil (h : l.patterns = []) (probe : Probe) (root : String)
    (path : Option String) (thread : Nat) (s : Log.State) :
    l.isExcluded probe root path thread s = .ok (false, s) := by
  rw [isExcluded, h]
  rfl

theorem matchingRules_of_nil (h : l.patterns = []) (probe : Probe) (root : String)
    (path : Option String) : l.matchingRules probe root path = .ok [] := by
  rw [matchingRules, h]
  rfl

/-! ### Where there is a verdict -/

/-- The disk cannot be asked about a path inside the root, and a pattern that has to ask it
comes before any that matches. -/
def CannotTell (probe : Probe) (root : String) (path : Option String) (ps : List Pattern) : Prop :=
  ∃ c, Candidate.resolve root path = .ok c ∧ probe.find? c.path.toString = none ∧
    ∃ before p after, ps = before ++ p :: after ∧ p.asksDisk c = true ∧
      ∀ q ∈ before, q.matchesCandidate probe c = false

theorem ne_nil_of_cannotTell {ps : List Pattern} (h : CannotTell probe root path ps) :
    ps ≠ [] := by
  obtain ⟨c, -, -, before, p, after, rfl, -⟩ := h
  exact List.append_ne_nil_of_right_ne_nil _ (List.cons_ne_nil _ _)

/-- Where the disk answers, it can be told of each path whether it is excluded. -/
theorem not_cannotTell_of_answers (h : probe.Answers root path) (ps : List Pattern) :
    ¬ CannotTell probe root path ps := by
  rintro ⟨c, hc, hnone, -⟩
  exact Option.isSome_iff_ne_none.mp (h c hc) hnone

theorem firstMatch?_eq_nul_iff {ps : List Pattern} :
    firstMatch? probe root path ps = .error .nul ↔ CannotTell probe root path ps := by
  constructor
  · intro h
    cases hc : Candidate.resolve root path with
    | error e =>
      cases ps with
      | nil => cases h
      | cons p ps =>
        rw [firstMatch?_of_error hc] at h
        cases h
    | ok c =>
      have hnone : probe.find? c.path.toString = none := Decidable.byContradiction fun hsome => by
        rw [firstMatch?_of_answer hc (Option.isSome_iff_ne_none.mpr hsome)] at h
        cases h
      exact ⟨c, hc, hnone, (firstMatch?_eq_nul_iff_of_none hc hnone).mp h⟩
  · rintro ⟨c, hc, hnone, h⟩
    exact (firstMatch?_eq_nul_iff_of_none hc hnone).mpr h

/-- There is a verdict on the path. -/
def isJudged (probe : Probe) (root : String) (ps : List Pattern) (path : String) : Bool :=
  (firstMatch? probe root (some path) ps).toOption.isSome

theorem isJudged_iff {path : String} {ps : List Pattern} (hne : ps ≠ []) :
    isJudged probe root ps path = true ↔
      (∃ c, Candidate.resolve root (some path) = .ok c) ∧
        ¬ CannotTell probe root (some path) ps := by
  rw [isJudged, ← firstMatch?_eq_nul_iff]
  cases hc : Candidate.resolve root (some path) with
  | error e =>
    obtain ⟨p, ps, rfl⟩ := List.exists_cons_of_ne_nil hne
    rw [firstMatch?_of_error hc]
    refine iff_of_false Bool.false_ne_true ?_
    rintro ⟨⟨c, hc⟩, -⟩
    cases hc
  | ok c =>
    cases hfirst : firstMatch? probe root (some path) ps with
    | ok found => exact iff_of_true rfl ⟨⟨c, rfl⟩, fun h => nomatch h⟩
    | error e =>
      cases e with
      | nul => exact iff_of_false Bool.false_ne_true fun h => h.2 rfl
      | path e =>
        -- a path inside the root is not refused
        obtain ⟨-, hrefused⟩ := firstMatch?_eq_path_error_iff.mp hfirst
        rw [← Candidate.resolve_eq_error_iff, hc] at hrefused
        cases hrefused

/-- Some pattern, taken alone, matches the path. -/
def anyMatches (probe : Probe) (root : String) (ps : List Pattern) (path : String) : Bool :=
  ps.any fun p => (p.matches? probe root (some path)).toOption.getD false

theorem anyMatches_iff {path : String} {ps : List Pattern} :
    anyMatches probe root ps path = true ↔
      ∃ p ∈ ps, p.matches? probe root (some path) = .ok true := by
  rw [anyMatches, List.any_eq_true]
  refine exists_congr fun p => and_congr_right fun _ => ?_
  cases p.matches? probe root (some path) <;> simp [Except.toOption]

/-- Where there is a verdict, a path is excluded if some pattern, taken alone, matches it. -/
theorem isSome_of_firstMatch? {path : String} {ps : List Pattern} {found : Option Pattern}
    (h : firstMatch? probe root (some path) ps = .ok found) :
    found.isSome = anyMatches probe root ps path := by
  rw [Bool.eq_iff_iff, anyMatches_iff]
  induction ps with
  | nil =>
    cases h
    simp
  | cons p ps ih =>
    rw [firstMatch?] at h
    obtain ⟨hit, hhit, hrest⟩ := Outcome.bind_eq_ok_iff.mp h
    simp only [List.mem_cons, exists_eq_or_imp, hhit]
    cases hit with
    | true =>
      cases hrest
      exact iff_of_true rfl (.inl rfl)
    | false => simpa using ih hrest

end ExcludeRules.FilterList
