/-
Ordered lists of patterns and the verdicts they give.

A path is excluded when some pattern of the list matches it.  A list that is
empty never looks at the path; any other refuses unusable paths.

Main statements:
  * `firstMatch?_cons`, `allMatches?_cons` : one pattern after the other.
-/
import ExcludeRules.Log.Logger
import ExcludeRules.Pattern.Matching
import ExcludeRules.Text.Lines

namespace ExcludeRules

/-- Patterns in the order in which they were added, and the logger that is told of verdicts. -/
structure FilterList where
  patterns : List Pattern
  logger : Log.Logger
  deriving DecidableEq, Repr

namespace FilterList

/-! ### Making and growing lists -/

/-- A list of patterns; where no logger is given, that of the default name is obtained. -/
def ofPatterns (patterns : List Pattern) (logger : Option Log.Logger) (s : Log.State) :
    FilterList × Log.State :=
  match logger with
  | some logger => (⟨patterns, logger⟩, s)
  | none =>
    let (logger, s) := Log.Logger.obtain Log.defaultName s
    (⟨patterns, logger⟩, s)

def size (l : FilterList) : Nat := l.patterns.length

/-- The number of rules that can match. -/
def compiledCount (l : FilterList) : Nat := l.patterns.countP (·.isCompiled)

/-- Whether any rule can match. -/
def isActive (l : FilterList) : Bool := 0 < l.compiledCount

/-- What a list that is made from this one starts with: a list without rules counts as none. -/
def copyPatterns (l : FilterList) : List Pattern := if l.isActive then l.patterns else []

/-- Compiles a line and adds it at the end. -/
def add (l : FilterList) (text : Option String) : Except Rule.Error (Pattern × FilterList) := do
  let p ← Pattern.compile text
  return (p, { l with patterns := l.patterns ++ [p] })

/-- Adds lines up to the first that is refused, and says why it is. -/
def extend (l : FilterList) : List String → Option Rule.Error × FilterList
  | [] => (none, l)
  | line :: lines =>
    match l.add (some (String.ofList (Text.trimLineEnd line.toList))) with
    | .ok (_, l) => l.extend lines
    | .error e => (some e, l)

/-- A list of lines; none if a line is refused. -/
def ofLines (lines : List String) (logger : Log.Logger) : Except Rule.Error FilterList :=
  match extend ⟨[], logger⟩ lines with
  | (none, l) => .ok l
  | (some e, _) => .error e

/-! ### Verdicts -/

/-- The first pattern that matches a path. -/
def firstMatch? (probe : Probe) (root : String) (path : Option String) :
    List Pattern → Except MatchError (Option Pattern)
  | [] => .ok none
  | p :: ps => do
    if ← p.matches? probe root path then return some p
    firstMatch? probe root path ps

/-- The patterns that match a path. -/
def allMatches? (probe : Probe) (root : String) (path : Option String) :
    List Pattern → Except MatchError (List Pattern)
  | [] => .ok []
  | p :: ps => do
    let hit ← p.matches? probe root path
    let rest ← allMatches? probe root path ps
    return if hit then p :: rest else rest

/-- What a verdict names as the path: the root where no path, or an empty one, is given. -/
def shownPath (root : String) (path : Option String) : String :=
  match path with
  | none => root
  | some p => if p = "" then root else p

/-- Whether some pattern matches a path; the logger is told which did. -/
def isExcluded (l : FilterList) (probe : Probe) (root : String) (path : Option String)
    (thread : Nat) (s : Log.State) : Except MatchError (Bool × Log.State) := do
  match ← firstMatch? probe root path l.patterns with
  | none => return (false, s)
  | some p =>
    let values := [("path", .text (shownPath root path)), ("rule", .text (p.text.getD ""))]
    return (true, l.logger.log thread .debug "Path excluded" values none s)

/-- The texts of the patterns that match a path. -/
def matchingRules (l : FilterList) (probe : Probe) (root : String) (path : Option String) :
    Except MatchError (List String) := do
  return (← allMatches? probe root path l.patterns).map fun p => p.text.getD ""

section Steps

variable {probe : Probe} {root : String} {path : Option String} {c : Candidate}

/-- The search stops at a pattern that matches, and at one that gives no verdict. -/
theorem firstMatch?_cons (h : Candidate.resolve root path = .ok c) (p : Pattern)
    (ps : List Pattern) :
    firstMatch? probe root path (p :: ps) = p.judge? probe c >>= fun hit =>
      if hit then .ok (some p) else firstMatch? probe root path ps := by
  rw [firstMatch?, Pattern.matches?_of_resolve h]
  rfl

theorem allMatches?_cons (h : Candidate.resolve root path = .ok c) (p : Pattern)
    (ps : List Pattern) :
    allMatches? probe root path (p :: ps) = p.judge? probe c >>= fun hit =>
      (fun rest => if hit then p :: rest else rest) <$> allMatches? probe root path ps := by
  rw [allMatches?, Pattern.matches?_of_resolve h]
  rfl

end Steps

end FilterList

end ExcludeRules
