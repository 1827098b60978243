/-
What the program does with a command line.

The settings come first, then the log, then the command.  The output is what was
written before anything went wrong; an error that the program expects is reported
and decides the exit code, any other ends the run as a failure.

Main statements:
  * `loadFile_text` : a rule file that a text names;
  * `verdicts_nil` : without paths nothing is printed.
-/
import ExcludeRules.CommandLine.Arguments
import ExcludeRules.FilterList.RuleFile
import ExcludeRules.Settings.ConfigFile

namespace ExcludeRules.CommandLine

/-- What stands behind the number of an open file. -/
inductive Stream
  | input (bytes : List UInt8)
  | directory
  /-- The program itself is still to write there. -/
  | output
  deriving DecidableEq, Repr

/-- What the program is run in. -/
structure World where
  reader : Yaml.Reader
  disk : Disk
  homes : Settings.Homes
  environment : Settings.Environment
  probe : Probe
  /-- The date and time of log lines. -/
  stamp : String
  /-- The files that are open when the program starts, by their numbers. -/
  streams : List (Int × Stream)

/-- An error that the program does not expect. -/
inductive Failure
  | settings (e : Settings.FileError)
  /-- No level has the name. -/
  | unknownLevel (name : String)
  /-- A setting is of a kind that cannot be used. -/
  | kind
  /-- A number that cannot stand for an open file. -/
  | negative
  /-- The name of a file, or a path, holds a NUL. -/
  | nul
  | logFile (e : DiskError)
  | encoding (e : Text.Utf8Fault)
  /-- What the program writes to is to be read first.  What comes of that is not said. -/
  | output
  deriving DecidableEq, Repr

/-- An error that ends a command. -/
inductive Stop
  | rule (e : Rule.Error)
  | path (e : PathError)
  | noRoot
  | unreadable (name : String) (e : DiskError)
  | failure (f : Failure)
  deriving DecidableEq, Repr

namespace Stop

/-- A rule file cannot be read. -/
def ofDisk (name : String) : DiskError → Stop
  | .nul => failure .nul
  | e => unreadable name e

def ofRuleFile (name : String) : RuleFileError → Stop
  | .disk e => ofDisk name e
  | .encoding e => failure (.encoding e)
  | .rule e => rule e

/-- A path is not judged. -/
def ofMatch : MatchError → Stop
  | .path e => path e
  | .nul => failure .nul

end Stop

/-- What has been written so far, the log, and the files that are still open. -/
structure Progress where
  output : String
  log : Log.State
  streams : List (Int × Stream)

namespace Progress

/-- Nothing has been done yet but for the log. -/
def start (w : World) (log : Log.State) : Progress := ⟨"", log, w.streams⟩

def close (p : Progress) (n : Int) : Progress :=
  { p with streams := p.streams.filter (·.1 ≠ n) }

def print (p : Progress) (line : String) : Progress := { p with output := p.output ++ line ++ "\n" }

/-- Writes a line on the console, where the log goes too. -/
def complain (p : Progress) (line : String) : Progress :=
  { p with log := { p.log with console := p.log.console ++ line ++ "\n" } }

end Progress

structure Result where
  exit : Except Failure Nat
  progress : Progress

/-! ### The log -/

/-- The level that the settings ask for. -/
def levelNumber : Value → Except Failure Int
  | .text name =>
    match (Log.LevelSpec.name name).number? with
    | .ok n => .ok n
    | .error capitals => .error (.unknownLevel capitals)
  | .int n => .ok n
  | .bool b => .ok (if b then 1 else 0)
  | _ => .error .kind

/-- The name that a text or bytes give a file. -/
def fileName? : Value → Option String
  | .text name => some name
  | .bytes bs => some (Text.Utf8.nameOf bs)
  | _ => none

/-- Makes the log that the settings ask for, and installs its logger.  A log file may be named
by bytes; that its backups cannot be, which shows once it is full, is left out. -/
def openLog (settings : Settings) (debug : Bool) (s : Log.State) :
    Except Failure (Log.Logger × Log.State) := do
  let level ← if debug then .ok Log.Level.debug.number
    else levelNumber (settings.get "logging.level" (.text "WARNING"))
  let (logger, s) := Log.Logger.create Log.defaultName level [.console] s
  let file := settings.get "logging.file" .null
  let s ←
    if file.isTruthy then
      match fileName? file with
      | some name =>
        match logger.attachFile name Log.Logger.defaultMaxBytes Log.Logger.defaultBackups s with
        | .ok (_, s) => .ok s
        | .error e => .error (.logFile e)
      | none => .error .kind
    else .ok s
  return (logger, logger.install s)

/-! ### Commands -/

/-- Prints the expression of each rule, or what it is instead. -/
def translate : List String → Progress → Except Stop Unit × Progress
  | [], p => (.ok (), p)
  | text :: rest, p =>
    match Pattern.compile (some text) with
    | .error e => (.error (.rule e), p)
    | .ok pattern =>
      translate rest (p.print (pattern.source?.getD ("<" ++ pattern.kind.word ++ ">")))

/-- The rule files that a setting names; a text alone stands for a list of one. -/
def fileNames : Value → Except Failure (List Value)
  | .text name => .ok [.text name]
  | .bytes bs => .ok (bs.map fun b => .int b.toNat)
  | .list names => .ok names
  | .set names => .ok names
  | .map entries => .ok (entries.map (·.1))
  | _ => .error .kind

/-- The number of an open file that is named by it. -/
def descriptor? : Value → Option Int
  | .int n => some n
  | .bool b => some (if b then 1 else 0)
  | _ => none

/-- The greatest number that can stand for an open file. -/
def maxDescriptor : Int := 0x7FFFFFFF

/-- The rest of a file that is open. -/
def readOpen (name : String) (n : Int) (p : Progress) : Except Stop (List UInt8) :=
  if n < -maxDescriptor - 1 ∨ maxDescriptor < n then .error (.failure .kind)
  else if n < 0 then .error (.failure .negative)
  else
    match p.streams.find? (·.1 = n) with
    | some (_, .input bytes) => .ok bytes
    | some (_, .directory) => .error (.unreadable name (.isDirectory name))
    | some (_, .output) => .error (.failure .output)
    | none => .error (.unreadable name .badDescriptor)

/-- The contents of a rule file, whose name may be no text at all. -/
def openFile (name : Value) (p : Progress) : Except Stop (List UInt8) :=
  match descriptor? name with
  | some n => readOpen name.toString n p
  | none =>
    match fileName? name with
    | some file =>
      (p.log.disk.read file).mapError fun e => .ofDisk name.toString (e.showing name.literal)
    | none => .error (.failure .kind)

/-- Closes a file that has been read, and may have been open before. -/
def closeFile (name : Value) (p : Progress) : Progress :=
  match descriptor? name with
  | some n => p.close n
  | none => p

/-- Loads a rule file. -/
def loadFile (logger : Log.Logger) (name : Value) (p : Progress) :
    Except Stop (List Pattern) × Progress :=
  match openFile name p with
  | .error stop => (.error stop, p)
  | .ok bytes =>
    match FilterList.patternsOf name.toString bytes with
    | .error e => (.error (.ofRuleFile name.toString e), p)
    | .ok patterns =>
      let (l, log) := FilterList.ofLoaded name.toString patterns logger 0 p.log
      (.ok l.patterns, { closeFile name p with log := log })

/-- The patterns of rule files, up to the first that cannot be loaded. -/
def loadFiles (logger : Log.Logger) : List Value → Progress → Except Stop (List Pattern) × Progress
  | [], p => (.ok [], p)
  | name :: names, p =>
    match loadFile logger name p with
    | (.error stop, p) => (.error stop, p)
    | (.ok patterns, p) =>
      match loadFiles logger names p with
      | (.error stop, p) => (.error stop, p)
      | (.ok more, p) => (.ok (patterns ++ more), p)

/-- The rules of a check: those of the files in their order, then those that are given. -/
def loadRules (settings : Settings) (options : CheckOptions) (logger : Log.Logger) (p : Progress) :
    Except Stop FilterList × Progress :=
  match fileNames (settings.get "rules.files" (.list [])) with
  | .error f => (.error (.failure f), p)
  | .ok names =>
    match loadFiles logger (names ++ options.files.map .text) p with
    | (.error stop, p) => (.error stop, p)
    | (.ok patterns, p) =>
      match (FilterList.mk patterns logger).extend options.excludes with
      | (some e, _) => (.error (.rule e), p)
      | (none, l) => (.ok l, p)

/-- The word for a verdict. -/
def verdictWord (excluded : Bool) : String := if excluded then "excluded" else "included"

/-- Prints a verdict on each path, up to the first that cannot be judged. -/
def verdicts (l : FilterList) (probe : Probe) (root : String) :
    List String → Progress → Except Stop Unit × Progress
  | [], p => (.ok (), p)
  | path :: rest, p =>
    match l.isExcluded probe root (some path) 0 p.log with
    | .error e => (.error (.ofMatch e), p)
    | .ok (excluded, log) =>
      verdicts l probe root rest
        ({ p with log := log }.print (verdictWord excluded ++ "\t" ++ path))

/-- Verdicts below a root that may be no text; only a list without patterns can do with that. -/
def verdictsBelow (l : FilterList) (probe : Probe) (root : Value) (paths : List String)
    (p : Progress) : Except Stop Unit × Progress :=
  match root with
  | .text root => verdicts l probe root paths p
  | _ =>
    if l.patterns.isEmpty || paths.isEmpty then verdicts l probe "" paths p
    else (.error (.failure .kind), p)

/-- The root of a check: the one that is given, or else that of the settings. -/
def rootOf (settings : Settings) (options : CheckOptions) : Value :=
  match options.root with
  | some root => if root = "" then settings.get "rules.root" .null else .text root
  | none => settings.get "rules.root" .null

/-- Says of each path whether it is excluded. -/
def check (settings : Settings) (probe : Probe) (options : CheckOptions) (paths : List String)
    (logger : Log.Logger) (p : Progress) : Except Stop Unit × Progress :=
  let root := rootOf settings options
  if !root.isTruthy then (.error .noRoot, p)
  else match loadRules settings options logger p with
    | (.error stop, p) => (.error stop, p)
    | (.ok l, p) =>
      let (done, p) :=
        verdictsBelow l probe root paths { p with log := p.log.openScope 0 [("root", root)] }
      (done, { p with log := p.log.closeScope 0 })

/-! ### Reporting -/

/-- What is written after the word `Error`, and the exit code. -/
def Stop.report : Stop → Except Failure (String × Nat)
  | rule e => .ok (e.message, 1)
  | path e => .ok (e.message, 2)
  | noRoot => .ok ("No transfer root given (use --root or rules.root)", 2)
  | unreadable name e => .ok ("Cannot read rules file " ++ name ++ ": " ++ e.message, 2)
  | failure f => .error f

def errorLine (message : String) : String := "Error: " ++ message

/-- Ends a command: errors of rules are logged before they are reported. -/
def finish (logger : Log.Logger) : Except Stop Unit × Progress → Result
  | (.ok (), p) => ⟨.ok 0, p⟩
  | (.error stop, p) =>
    let p := match stop with
      | .rule e =>
        let rule : Value := (e.pattern.map Value.text).getD .null
        { p with log := logger.log 0 .error "Invalid filter rule" [("rule", rule)] none p.log }
      | _ => p
    match stop.report with
    | .ok (message, code) => ⟨.ok code, p.complain (errorLine message)⟩
    | .error f => ⟨.error f, p⟩

/-- Carries out what the arguments ask for. -/
def perform (w : World) (a : Arguments) : Result :=
  let log : Log.State := .start w.disk w.stamp
  match Settings.start w.reader w.disk w.homes a.config (some w.environment) with
  | .error e =>
    let p : Progress := .start w log
    if e.code?.isSome then ⟨.ok 2, p.complain (errorLine e.message)⟩
    else ⟨.error (.settings e), p⟩
  | .ok settings =>
    match openLog settings a.debug log with
    | .error f => ⟨.error f, .start w log⟩
    | .ok (logger, log) =>
      let p : Progress := .start w log
      finish logger
        (match a.command with
        | .translate rules => translate rules p
        | .check options paths => check settings w.probe options paths logger p)

/-- Carries out a command line. -/
def run (w : World) (texts : List String) : Result :=
  let p : Progress := .start w (.start w.disk w.stamp)
  match Request.ofTexts texts with
  | .run a => perform w a
  | .inform text => ⟨.ok 0, { p with output := text }⟩
  | .refuse page fault =>
    ⟨.ok 2, (p.complain page.usage).complain (page.title ++ ": error: " ++ fault.message)⟩

theorem openFile_text (file : String) (p : Progress) :
    openFile (.text file) p = (p.log.disk.read file).mapError (.ofDisk file) := by
  show (p.log.disk.read file).mapError (fun e => Stop.ofDisk file (e.showing (Text.quote file))) = _
  cases hread : p.log.disk.read file with
  | ok bytes => rfl
  | error e =>
    show Except.error (Stop.ofDisk file (e.showing (Text.quote file))) = _
    rw [Disk.showing_of_read hread]
    rfl

/-- A rule file that a text names is loaded as a list loads it. -/
theorem loadFile_text (logger : Log.Logger) (file : String) (p : Progress) :
    loadFile logger (.text file) p =
      match FilterList.ofFile file logger 0 p.log with
      | .ok (l, log) => (.ok l.patterns, { p with log := log })
      | .error e => (.error (.ofRuleFile file e), p) := by
  rw [loadFile, openFile_text, FilterList.ofFile, FilterList.readPatterns]
  cases p.log.disk.read file with
  | error e => rfl
  | ok bytes =>
    -- a text is shown as itself
    have hshown : (Value.text file).toString = file := rfl
    have hopen : (Except.ok bytes : Except DiskError _).mapError (Stop.ofDisk file) =
        .ok bytes := rfl
    have hread : (Except.ok bytes : Except DiskError _).mapError RuleFileError.disk =
        .ok bytes := rfl
    simp only [hopen, hread, bind, Except.bind, hshown]
    cases FilterList.patternsOf file bytes <;> rfl

theorem verdicts_nil (l : FilterList) (probe : Probe) (root : String) (p : Progress) :
    verdicts l probe root [] p = (.ok (), p) := rfl

end ExcludeRules.CommandLine
