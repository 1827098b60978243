/-
Levels of log messages.

A level is a number; five of them have names, which are read without regard to
case.  Main statement:
  * `Level.ofName?_name` : a level is found by its name.
-/
import ExcludeRules.Text.Case

namespace ExcludeRules.Log

/-- The levels that have names. -/
inductive Level
  | debug
  | info
  | warning
  | error
  | critical
  deriving DecidableEq, Repr

namespace Level

def all : List Level := [debug, info, warning, error, critical]

def number : Level → Int
  | debug => 10
  | info => 20
  | warning => 30
  | error => 40
  | critical => 50

def name : Level → String
  | debug => "DEBUG"
  | info => "INFO"
  | warning => "WARNING"
  | error => "ERROR"
  | critical => "CRITICAL"

def ofNumber? (n : Int) : Option Level := all.find? (·.number = n)

def ofName? (name : String) : Option Level := all.find? (·.name = name)

theorem ofName?_name (l : Level) : ofName? l.name = some l := by
  cases l <;> decide +kernel

theorem ofNumber?_number (l : Level) : ofNumber? l.number = some l := by
  cases l <;> decide +kernel

end Level

/-- A level as it is asked for: by name or by number. -/
inductive LevelSpec
  | name (s : String)
  | number (n : Int)
  deriving DecidableEq, Repr

/-- The number of a level, or the name in capitals if no level has it. -/
def LevelSpec.number? : LevelSpec → Except String Int
  | .number n => .ok n
  | .name s =>
    let capitals := String.ofList (Text.upper s.toList)
    match Level.ofName? capitals with
    | some l => .ok l.number
    | none => .error capitals

end ExcludeRules.Log
