/-
A path that is to be tested, placed below the root of the transfer.

The root must be absolute, and the path must lie inside it once double dots are
removed; a path given without a root must be absolute, and its own root is taken.
Rules see only the segments below the root.  Main statement:
  * `resolve_eq_ok_iff` : which roots and paths are accepted.
-/
import ExcludeRules.Path.Basic

namespace ExcludeRules

/-- Why a root and a path cannot be tested. -/
inductive PathError
  | rootNotAbsolute (root : String)
  | notAbsolute (path : String)
  | outside (path root : Path)
  deriving DecidableEq, Repr

def PathError.message : PathError → String
  | .rootNotAbsolute root => "Root path must be absolute: " ++ root
  | .notAbsolute path => "Provided path must be absolute: " ++ path
  | .outside path root =>
    "Path " ++ path.toString ++ " is not inside root " ++ root.toString

namespace Path

/-- A root, which must be absolute, without double dots. -/
def root? (text : String) : Except PathError Path :=
  let p := ofText text.toList
  if p.isAbsolute then .ok p.normalize else .error (.rootNotAbsolute text)

/-- A path that is given without a root and must be absolute. -/
def absolute? (text : String) : Except PathError Path :=
  let p := ofText text.toList
  if p.isAbsolute then .ok p else .error (.notAbsolute text)

end Path

/-- A path inside a root, and the segments that lead from the root to it. -/
structure Candidate where
  root : Path
  path : Path
  below : List (List Char)
  deriving DecidableEq, Repr

namespace Candidate

/-- Places a path below a root that is known to be absolute. -/
def place (root path : Path) : Except PathError Candidate :=
  let target := (root.join path).normalize
  match root.below? target with
  | some below => .ok ⟨root, target, below⟩
  | none => .error (.outside target root)

/-- Places a path below a root, or an absolute path below its own root. -/
def resolve (root : String) : Option String → Except PathError Candidate
  | some path => do place (← Path.root? root) (Path.ofText path.toList)
  | none => do
    let path ← Path.absolute? root
    place path.anchor path

/-- The path below the root, with slashes between its segments. -/
def relative (c : Candidate) : List Char := Path.joined c.below

/-- The paths of the directories between the root and the candidate, the outermost first. -/
def ancestors (c : Candidate) : List (List Char) :=
  ((List.range c.below.length).drop 1).map fun n => Path.joined (c.below.take n)

theorem place_eq_ok_iff {root path : Path} {c : Candidate} :
    place root path = .ok c ↔
      ∃ below, root.below? (root.join path).normalize = some below ∧
        c = ⟨root, (root.join path).normalize, below⟩ := by
  unfold place
  cases h : root.below? (root.join path).normalize with
  | none => simp [h]
  | some below => simp [h, eq_comm]

/-- A root and a path are accepted when the root is absolute and holds the path. -/
theorem resolve_eq_ok_iff {root path : String} {c : Candidate} :
    resolve root (some path) = .ok c ↔
      ∃ r, Path.root? root = .ok r ∧ place r (Path.ofText path.toList) = .ok c := by
  cases h : Path.root? root with
  | error e => simp [resolve, h, bind, Except.bind]
  | ok r => simp [resolve, h, bind, Except.bind]

end Candidate

end ExcludeRules
