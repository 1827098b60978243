/-
Log records: a message, the values that go with it, and the lines they make.

Contexts keep the order in which their keys came in; where two are merged, a key
keeps its place and takes the later value.  Of an error that a message reports only its last
line is kept, which names it; the lines in front of it, which say where it was raised, are
left out.
-/
import ExcludeRules.Log.Level
import ExcludeRules.Value

namespace ExcludeRules.Log

/-- Values by their keys, in the order in which the keys came in. -/
abbrev Context := List (String × Value)

namespace Context

/-- The context with one value set. -/
def set (key : String) (value : Value) : Context → Context
  | [] => [(key, value)]
  | (k, v) :: rest => if k = key then (k, value) :: rest else (k, v) :: set key value rest

/-- The context with those of `inner` set on top. -/
def merge (outer inner : Context) : Context :=
  inner.foldl (fun context e => context.set e.1 e.2) outer

/-- The pairs of a context, as a message shows them. -/
def pairs (context : Context) : String :=
  " ".intercalate (context.map fun e => e.1 ++ "=" ++ e.2.toString)

end Context

/-- A message with its context behind it. -/
def render (message : String) (context : Context) : String :=
  if context.isEmpty then message else message ++ " | " ++ context.pairs

/-- An error that a message reports: the name of its kind and its text. -/
structure Report where
  kind : String
  /-- The kind with the place where it is defined. -/
  fullKind : String
  text : String
  deriving DecidableEq, Repr

/-- The last line of a report: the kind, and the text if there is any. -/
def Report.line (r : Report) : String :=
  if r.text.isEmpty then r.fullKind else r.fullKind ++ ": " ++ r.text

/-- A message that was logged. -/
structure Record where
  level : Level
  channel : String
  message : String
  context : Context
  /-- The error that the message reports, without the lines that say where it was raised. -/
  trouble : Option String

namespace Record

/-- A text with a line feed at its end. -/
def endLine (text : String) : String :=
  if text.toList.getLast? = some '\n' then text else text ++ "\n"

/-- The message, and the error on a line below it. -/
def body (r : Record) (message : String) : String :=
  match r.trouble with
  | none => message
  | some error => endLine message ++ error

/-- What a console or a file is given, without the end of the line. -/
def line (r : Record) (stamp : String) : String :=
  r.body (stamp ++ " - " ++ r.channel ++ " - " ++ r.level.name ++ " - " ++ r.message)

end Record

end ExcludeRules.Log
