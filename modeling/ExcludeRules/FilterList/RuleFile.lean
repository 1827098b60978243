/-
Rule files: one rule on each line.

A file is read chunk by chunk, and its lines are compiled as they come: those that have
ended in front of a fault of the encoding are compiled before the fault is met.  An error
in a line names the file and the line.  Main statements:
  * `linesOf_of_decode` : the lines of a file without a fault;
  * `compileLines_nil` : a file without lines has no patterns.
-/
import ExcludeRules.FilterList.Basic
import ExcludeRules.Text.Lines
import ExcludeRules.Text.Utf8

namespace ExcludeRules

/-- Why a rule file was not loaded. -/
inductive RuleFileError
  | disk (e : DiskError)
  | encoding (e : Text.Utf8Fault)
  | rule (e : Rule.Error)
  deriving DecidableEq, Repr

namespace FilterList

/-- The lines of a file, up to what makes it unreadable. -/
def linesOf (bytes : List UInt8) : List (List Char) × Option Text.Utf8Fault :=
  match Text.Utf8.scan bytes with
  | (text, none) => (Text.lines text, none)
  | (text, some fault) => (Text.endedLines text, some fault)

/-- Compiles the lines of a file, the first of which has the number `line`. -/
def compileLines (name : String) (line : Nat) :
    List (List Char) → Except Rule.Error (List Pattern)
  | [] => .ok []
  | text :: rest => do
    let p ← (Pattern.compile (some (String.ofList text))).mapError (Rule.Error.inFile name line)
    return p :: (← compileLines name (line + 1) rest)

/-- The patterns of the contents of a file. -/
def patternsOf (name : String) (bytes : List UInt8) : Except RuleFileError (List Pattern) := do
  let (lines, fault?) := linesOf bytes
  let patterns ← (compileLines name 1 lines).mapError .rule
  match fault? with
  | none => return patterns
  | some fault => .error (.encoding fault)

/-- The patterns of a rule file. -/
def readPatterns (disk : Disk) (name : String) : Except RuleFileError (List Pattern) := do
  patternsOf name (← (disk.read name).mapError .disk)

/-- The list of some patterns that were loaded; the logger is told how many rules it holds. -/
def ofLoaded (name : String) (patterns : List Pattern) (logger : Log.Logger) (thread : Nat)
    (s : Log.State) : FilterList × Log.State :=
  let l : FilterList := ⟨patterns, logger⟩
  let values := [("source", .text name), ("rules", .int l.compiledCount)]
  (l, logger.log thread .info "Loaded filter rules" values none s)

/-- Loads a rule file. -/
def ofFile (name : String) (logger : Log.Logger) (thread : Nat) (s : Log.State) :
    Except RuleFileError (FilterList × Log.State) := do
  return ofLoaded name (← readPatterns s.disk name) logger thread s

theorem compileLines_nil (name : String) (line : Nat) : compileLines name line [] = .ok [] := rfl

theorem linesOf_of_decode {bytes : List UInt8} {text : List Char}
    (h : Text.Utf8.decode bytes = .ok text) : linesOf bytes = (Text.lines text, none) := by
  rw [linesOf, Text.Utf8.scan_of_decode h]

end FilterList

end ExcludeRules
