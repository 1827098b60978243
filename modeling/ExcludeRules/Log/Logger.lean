/-
What loggers do.

A logger that is made takes over the channel of its name: it sets the level and
replaces the sinks.  A message that is let through becomes a record that carries
the context of the thread with the message's own values on top.

Main statements:
  * `log_of_not_isEnabled` : what is not let through leaves no trace;
  * `installed_obtain_of_name` : the installed logger is used as long as its name fits.
-/
import ExcludeRules.Log.State

namespace ExcludeRules.Log

/-- The name of loggers that are not given one. -/
def defaultName : String := "rsyncfilter"

namespace Logger

def channelName (logger : Logger) : String := State.channelName logger.name

/-! ### Making loggers -/

/-- Numbers the targets as new sinks. -/
def numberSinks (first : Nat) (targets : List Target) : List Sink :=
  targets.mapIdx fun i target => ⟨first + i, target⟩

/-- Makes a logger; its channel gets the level and exactly the targets that are given. -/
def create (name : String) (level : Int) (targets : List Target) (s : State) : Logger × State :=
  let logger : Logger := ⟨s.issued, name⟩
  let sinks := numberSinks (s.issued + 1) targets
  let s := { s with issued := s.issued + 1 + targets.length }
  (logger, s.setChannel logger.channelName ⟨level, sinks⟩)

/-- Makes a logger as it is made where nothing is said: warnings and worse, on the console. -/
def createDefault (name : String) (s : State) : Logger × State :=
  create name Level.warning.number [.console] s

/-- Makes a logger the one that is used where none is given. -/
def install (logger : Logger) (s : State) : State := { s with installed := logger }

/-- The installed logger if it has the name; otherwise one is made and installed. -/
def obtain (name : String) (s : State) : Logger × State :=
  match s.installed with
  | some logger =>
    if logger.name = name then (logger, s)
    else
      let (logger, s) := createDefault name s
      (logger, logger.install s)
  | none =>
    let (logger, s) := createDefault name s
    (logger, logger.install s)

/-! ### Levels and sinks -/

/-- The level of the logger's own channel. -/
def level (logger : Logger) (s : State) : Int := (s.channel logger.channelName).level

def setLevel (logger : Logger) (level : Int) (s : State) : State :=
  s.setChannel logger.channelName { s.channel logger.channelName with level := level }

def isEnabled (logger : Logger) (level : Int) (s : State) : Bool :=
  s.isEnabled logger.channelName level

/-- Attaches a target and says which sink it became. -/
def attach (logger : Logger) (target : Target) (s : State) : Sink × State :=
  let sink : Sink := ⟨s.issued, target⟩
  let c := s.channel logger.channelName
  (sink, { s with issued := s.issued + 1 }.setChannel logger.channelName
    { c with sinks := c.sinks ++ [sink] })

def detach (logger : Logger) (sink : Sink) (s : State) : State :=
  let c := s.channel logger.channelName
  s.setChannel logger.channelName { c with sinks := c.sinks.filter (· ≠ sink) }

/-- Opens a log file, named from the working directory, and attaches it. -/
def attachFile (logger : Logger) (name : String) (maxBytes : Int) (backups : Nat) (s : State) :
    Except DiskError (Sink × State) := do
  let path := (Path.ofText name.toList).normalize
  if path.segments = [] then
    .error (.isDirectory (Text.quote (if path.isAbsolute then path.toString else "")))
  let (path, disk) ← s.disk.create path.toString
  return logger.attach (.file ⟨path, maxBytes, backups⟩) { s with disk := disk }

/-- The greatest size of a log file of which nothing else is said. -/
def defaultMaxBytes : Int := 10 * 1024 * 1024

/-- The number of backups of a log file of which nothing else is said. -/
def defaultBackups : Nat := 5

/-! ### Messages -/

/-- Logs a message with its own values from a thread. -/
def log (logger : Logger) (thread : Nat) (level : Level) (message : String) (values : Context)
    (trouble : Option Report) (s : State) : State :=
  if s.isEnabled logger.channelName level.number then
    let context := (s.context thread).merge values
    (s.touch thread).emit
      ⟨level, logger.channelName, render message context, context, trouble.map Report.line⟩
  else s

/-- Logs a message about an error; the context names its kind and its text last. -/
def report (logger : Logger) (thread : Nat) (message : String) (error : Report)
    (values : Context) (s : State) : State :=
  let values := (((s.context thread).merge values).set "exception_type" (.text error.kind)).set
    "exception_message" (.text error.text)
  logger.log thread .error message values error (s.touch thread)

theorem log_of_not_isEnabled {logger : Logger} {level : Level} {s : State}
    (h : s.isEnabled logger.channelName level.number = false) (thread : Nat) (message : String)
    (values : Context) (trouble : Option Report) :
    logger.log thread level message values trouble s = s := by
  simp [log, h]

/-- The installed logger is used as long as its name fits. -/
theorem installed_obtain_of_name {logger : Logger} {s : State} (h : s.installed = some logger) :
    obtain logger.name s = (logger, s) := by
  simp [obtain, h]

end Logger

end ExcludeRules.Log
