/-
Which paths a pattern matches.

A rule matches a path when its expression matches the path below the root; the
root itself is never matched.  A rule for directories then looks further: below a
directory that it matches it matches everything, and elsewhere it matches unless
the disk shows something that is no directory.  The disk is asked last, and only then
can a path be in the way that it cannot be asked about.  Main statements:
  * `matches_of_not_compiled` : blank lines and comments match nothing;
  * `matchesRelative_nil` : the root is not matched;
  * `matches?_of_resolve` : a pattern judges the candidate that a root and a path lead to;
  * `judge?_eq_ok_true_iff`, `judge?_eq_error_iff` : what comes of a verdict;
  * `judge?_of_not_asksDisk`, `fails_eq_false` : where there is one.
-/
import ExcludeRules.Path.Candidate
import ExcludeRules.Path.Probe
import ExcludeRules.Pattern.Basic

namespace ExcludeRules

/-- Why a pattern gives no verdict on a path. -/
inductive MatchError
  | path (e : PathError)
  /-- The path holds a NUL, and the disk cannot be asked about it. -/
  | nul
  deriving DecidableEq, Repr

def MatchError.message : MatchError → String
  | path e => e.message
  | nul => "embedded null byte"

namespace CompiledRule

/-- Whether the expression matches a path below the root. -/
def matchesRelative (rule : CompiledRule) (relative : List Char) : Bool :=
  !relative.isEmpty && rule.expression.accepts relative

/-- Whether the rule matches a path, which `probe` may be asked about. -/
def matchesCandidate (rule : CompiledRule) (probe : Probe) (c : Candidate) : Bool :=
  rule.matchesRelative c.relative &&
    (!rule.directoryOnly || c.ancestors.any rule.matchesRelative ||
      probe.mayShowDirectory c.path.toString)

/-- Whether only the disk can tell if the rule matches a path. -/
def asksDisk (rule : CompiledRule) (c : Candidate) : Bool :=
  rule.matchesRelative c.relative && rule.directoryOnly && !c.ancestors.any rule.matchesRelative

theorem matchesRelative_nil (rule : CompiledRule) : rule.matchesRelative [] = false := rfl

/-- A rule that asks the disk matches what the disk shows as a directory, or does not show. -/
theorem matchesCandidate_of_asksDisk {rule : CompiledRule} {c : Candidate}
    (h : rule.asksDisk c = true) (probe : Probe) :
    rule.matchesCandidate probe c = probe.mayShowDirectory c.path.toString := by
  simp only [asksDisk, Bool.and_eq_true, Bool.not_eq_true'] at h
  obtain ⟨⟨hrelative, hdir⟩, habove⟩ := h
  rw [matchesCandidate, hrelative, hdir, habove]
  rfl

end CompiledRule

namespace Pattern

def matchesCandidate (p : Pattern) (probe : Probe) (c : Candidate) : Bool :=
  match p with
  | compiled rule => rule.matchesCandidate probe c
  | _ => false

def asksDisk (p : Pattern) (c : Candidate) : Bool :=
  match p with
  | compiled rule => rule.asksDisk c
  | _ => false

/-- The pattern has to ask the disk about a path that it cannot be asked about. -/
def fails (p : Pattern) (probe : Probe) (c : Candidate) : Bool :=
  p.asksDisk c && (probe.find? c.path.toString).isNone

/-- The verdict on a path, unless the disk has to be asked about it and cannot. -/
def judge? (p : Pattern) (probe : Probe) (c : Candidate) : Except MatchError Bool :=
  if p.fails probe c then .error .nul else .ok (p.matchesCandidate probe c)

/-- Whether the pattern matches a path; an unusable path is an error for every pattern. -/
def matches? (p : Pattern) (probe : Probe) (root : String) (path : Option String) :
    Except MatchError Bool := do
  let c ← (Candidate.resolve root path).mapError .path
  p.judge? probe c

theorem matches?_of_resolve {p : Pattern} {probe : Probe} {root : String} {path : Option String}
    {c : Candidate} (h : Candidate.resolve root path = .ok c) :
    p.matches? probe root path = p.judge? probe c := by
  rw [matches?, h]
  rfl

theorem matches_of_not_compiled {p : Pattern} (h : p.isCompiled = false) (probe : Probe)
    (c : Candidate) : p.matchesCandidate probe c = false := by
  cases p <;> simp_all [isCompiled, matchesCandidate]

theorem asksDisk_of_not_compiled {p : Pattern} (h : p.isCompiled = false) (c : Candidate) :
    p.asksDisk c = false := by
  cases p <;> simp_all [isCompiled, asksDisk]

/-- Only a rule for directories asks the disk. -/
theorem asksDisk_of_file {p : Pattern} (h : p.directoryOnly = false) (c : Candidate) :
    p.asksDisk c = false := by
  cases p <;> simp_all [directoryOnly, asksDisk, CompiledRule.asksDisk]

section Verdicts

variable {p : Pattern} {probe : Probe} {c : Candidate}

theorem fails_iff :
    p.fails probe c = true ↔ p.asksDisk c = true ∧ probe.find? c.path.toString = none := by
  rw [fails, Bool.and_eq_true, Option.isNone_iff_eq_none]

theorem judge?_of_fails (h : p.fails probe c = true) : p.judge? probe c = .error .nul := if_pos h

theorem judge?_of_not_fails (h : p.fails probe c = false) :
    p.judge? probe c = .ok (p.matchesCandidate probe c) :=
  if_neg (Bool.eq_false_iff.mp h)

theorem judge?_eq_error_iff {e : MatchError} :
    p.judge? probe c = .error e ↔
      p.asksDisk c = true ∧ probe.find? c.path.toString = none ∧ e = .nul := by
  rw [← and_assoc, ← fails_iff]
  cases h : p.fails probe c with
  | true => simp [judge?_of_fails h, eq_comm]
  | false => simp [judge?_of_not_fails h]

/-- Where the disk answers, no pattern fails. -/
theorem fails_eq_false (h : (probe.find? c.path.toString).isSome = true) (p : Pattern) :
    p.fails probe c = false := by
  rw [fails, Option.isNone_eq_false_iff.mpr h, Bool.and_false]

/-- A pattern that does not ask the disk gives a verdict whatever the disk says. -/
theorem judge?_of_not_asksDisk (h : p.asksDisk c = false) :
    p.judge? probe c = .ok (p.matchesCandidate probe c) :=
  judge?_of_not_fails (by rw [fails, h, Bool.false_and])

/-- Blank lines and comments match nothing, and never ask the disk. -/
theorem judge?_of_not_compiled (h : p.isCompiled = false) : p.judge? probe c = .ok false := by
  rw [judge?_of_not_asksDisk (asksDisk_of_not_compiled h c), matches_of_not_compiled h]

/-- A path that the disk cannot be asked about is matched by no pattern that asks. -/
theorem matchesCandidate_of_none (hasks : p.asksDisk c = true)
    (hnone : probe.find? c.path.toString = none) : p.matchesCandidate probe c = false := by
  cases p with
  | compiled rule =>
    refine (rule.matchesCandidate_of_asksDisk hasks probe).trans ?_
    rw [Probe.mayShowDirectory, hnone]
    rfl
  | _ => rfl

theorem judge?_eq_ok_true_iff :
    p.judge? probe c = .ok true ↔ p.matchesCandidate probe c = true := by
  cases h : p.fails probe c with
  | true =>
    obtain ⟨hasks, hnone⟩ := fails_iff.mp h
    rw [judge?_of_fails h, matchesCandidate_of_none hasks hnone]
    exact iff_of_false (fun h => nomatch h) Bool.false_ne_true
  | false => rw [judge?_of_not_fails h, Except.ok.injEq]

end Verdicts

end Pattern

end ExcludeRules
