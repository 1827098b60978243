/-
Runs of loggers: what a program does with them, step by step.

A scope belongs to the thread that opens it, whichever logger it is opened with, and the
numbers of scopes tell them apart.  A step that is refused changes nothing.

Main statements:
  * `run_append`, `run_snoc` : a run in two parts, and one step more.
-/
import ExcludeRules.Log.Logger

namespace ExcludeRules.Log

/-- What a call tells: a message of some level, or an error that occurred. -/
inductive Subject
  | plain (level : Level)
  | failure (error : Report)
  deriving DecidableEq, Repr

namespace Subject

def level : Subject → Level
  | plain level => level
  | failure _ => .error

def error? : Subject → Option Report
  | plain _ => none
  | failure error => some error

end Subject

/-- A message that a thread gives to a logger, with values of its own. -/
structure Call where
  logger : Logger
  thread : Nat
  subject : Subject
  message : String
  values : Context

namespace Call

def channelName (call : Call) : String := call.logger.channelName

/-- Whether the call is let through. -/
def isEnabled (call : Call) (s : State) : Bool :=
  call.logger.isEnabled call.subject.level.number s

def apply (call : Call) (s : State) : State :=
  match call.subject with
  | .plain level => call.logger.log call.thread level call.message call.values none s
  | .failure error => call.logger.report call.thread call.message error call.values s

end Call

inductive Step
  | create (name : String) (level : LevelSpec) (targets : List Target)
  | obtain (name : String)
  | install (logger : Logger)
  | setLevel (logger : Logger) (level : LevelSpec)
  | attach (logger : Logger) (target : Target)
  | attachFile (logger : Logger) (name : String) (maxBytes : Int) (backups : Nat)
  | detach (logger : Logger) (sink : Sink)
  /-- A thread opens a scope that is given a number. -/
  | opens (scope thread : Nat) (values : Context)
  /-- A thread leaves the scope of a number, whether normally or by an error. -/
  | closes (scope thread : Nat)
  /-- A thread asks for its context. -/
  | look (thread : Nat)
  | call (c : Call)

namespace Step

def apply (s : State) : Step → State
  | create name level targets =>
    match level.number? with
    | .ok level => (Logger.create name level targets s).2
    | .error _ => s
  | obtain name => (Logger.obtain name s).2
  | install logger => logger.install s
  | setLevel logger level =>
    match level.number? with
    | .ok level => logger.setLevel level s
    | .error _ => s
  | attach logger target => (logger.attach target s).2
  | attachFile logger name maxBytes backups =>
    match logger.attachFile name maxBytes backups s with
    | .ok (_, s) => s
    | .error _ => s
  | detach logger sink => logger.detach sink s
  | opens _ thread values => s.openScope thread values
  | closes _ thread =>
    match s.closeScope? thread with
    | .ok s => s
    | .error _ => s
  | look thread => s.touch thread
  | call c => c.apply s

/-- The thread whose scopes a step makes use of. -/
def thread? : Step → Option Nat
  | opens _ thread _ => some thread
  | closes _ thread => some thread
  | look thread => some thread
  | call c => some c.thread
  | _ => none

/-- What a run of steps leaves. -/
def run (steps : List Step) (s : State) : State := steps.foldl apply s

theorem run_append (steps more : List Step) (s : State) :
    run (steps ++ more) s = run more (run steps s) := List.foldl_append

theorem run_snoc (steps : List Step) (step : Step) (s : State) :
    run (steps ++ [step]) s = step.apply (run steps s) := run_append steps [step] s

/-- The state behind some steps, from the one before anything was logged. -/
def after (disk : Disk) (stamp : String) (steps : List Step) : State :=
  run steps (State.start disk stamp)

end Step

end ExcludeRules.Log
