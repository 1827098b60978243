/-
The program itself: it looks up what a run needs, carries the run out, and writes
what came of it.
-/
import ExcludeRules.CommandLine.Inputs
import ExcludeRules.Yaml.Value
import Std.Time

namespace ExcludeRules.Program

open CommandLine

/-- Does something that may fail; a failure is no result. -/
def attempt {α : Type} (act : IO α) : IO (Option α) := do
  match ← act.toBaseIO with
  | .ok a => return some a
  | .error _ => return none

/-- What the disk shows at a path; links are not followed. -/
def look (path : String) : IO Finding := do
  let entry : IO.FS.DirEntry := ⟨".", path⟩
  match ← entry.path.symlinkMetadata.toBaseIO with
  | .ok data =>
    return match data.type with
      | .dir => .directory
      | .file => .file
      | .symlink => .link
      | .other => .special
  | .error (.noFileOrDirectory _ _ _) => return .missing
  | .error _ => return .refused

/-- What can be read under a name. -/
def fetch (name : String) : IO (Option Entry) := do
  let entry : IO.FS.DirEntry := ⟨".", name⟩
  match ← attempt entry.path.metadata with
  | none => return none
  | some data =>
    if data.type == .dir then return some .directory
    match ← attempt (IO.FS.readBinFile name) with
    | some bytes => return some (.file bytes.toList)
    | none => return some .locked

/-- Whether a directory on the way to a name may not be entered. -/
def isBarred (name : String) : IO Bool := do
  let entry : IO.FS.DirEntry := ⟨".", name⟩
  match ← entry.path.metadata.toBaseIO with
  | .error (.permissionDenied _ _ _) => return true
  | _ => return false

/-- Adds what can be read under a name, step by step. -/
def addFile (disk : Disk) (name : String) : IO Disk := do
  let mut disk := disk
  for step in stepsOf name do
    if let .ok path := disk.locate step then
      if ← isBarred step then
        disk := disk.put ⟨path.slashes, path.segments.dropLast⟩ .closed
      else if let some entry ← fetch step then
        disk := disk.put path entry
  return disk

def addFiles (disk : Disk) (names : List String) : IO Disk := names.foldlM addFile disk

/-- The files that are open at the start; what is written to is not read. -/
def streams (settings : Settings) (a : Arguments) : IO (List (Int × Stream)) := do
  let outputs := [(1, .output), (2, .output)]
  if !readsInput settings a then return outputs
  match ← fetch "/dev/stdin" with
  | some (.file bytes) => return (0, .input bytes) :: outputs
  | some .directory => return (0, .directory) :: outputs
  | _ => return outputs

/-- Cuts the text of an environment into variables. -/
def variablesOf (bytes : List UInt8) : Settings.Environment :=
  match Text.Utf8.decode bytes with
  | .error _ => []
  | .ok text => (Text.split '\x00' text).filterMap fun entry =>
      let name := entry.takeWhile (· ≠ '=')
      if name.length < entry.length then
        some (String.ofList name, String.ofList (entry.drop (name.length + 1)))
      else none

/-- The variables, or else those of the settings that the program uses. -/
def environment : IO Settings.Environment := do
  match ← attempt (IO.FS.readBinFile "/proc/self/environ") with
  | some bytes => return variablesOf bytes.toList
  | none =>
    let names := ["LOGGING_LEVEL", "LOGGING_FILE", "RULES_FILES", "RULES_ROOT"]
    return (← names.mapM fun rest => do
      let name := String.ofList Settings.variableStart ++ rest
      return (← IO.getEnv name).map fun value => (name, value)).filterMap id

/-- The date and time as log lines begin with it. -/
def now : IO String := do
  return (← Std.Time.PlainDateTime.now).format "uuuu-MM-dd HH:mm:ss"

/-- Writes the files that a run has changed. -/
def store (before after : Disk) : IO Unit := do
  for (path, entry) in after.entries do
    match entry with
    | .file bytes =>
      if before.find? path ≠ some entry then
        IO.FS.writeBinFile path.toString ⟨bytes.toArray⟩
    | _ => pure ()

/-- What an error that is not expected is reported as. -/
def failureText : Failure → String
  | .settings e => e.message
  | .unknownLevel name => "unknown log level " ++ Text.quote name
  | .kind => "a setting is of the wrong kind"
  | .negative => "negative file descriptor"
  | .nul => DiskError.nul.message
  | .logFile e => e.message
  | .encoding e => e.message
  | .output => "what is written to cannot be read"

/-- The home directories that the environment and the list of users name. -/
def homes : IO Settings.Homes := do
  let own := (← IO.getEnv "HOME").map fun home => Path.ofText home.toList
  let lines := ((← attempt (IO.FS.readFile "/etc/passwd")).getD "").toList
  let users := (Text.split '\n' lines).filterMap fun line =>
    match Text.split ':' line with
    | user :: _ :: _ :: _ :: _ :: home :: _ => some (String.ofList user, Path.ofText home)
    | _ => none
  return fun user => if user = "" then own else (users.find? (·.1 = user)).map (·.2)

/-- What a run is carried out in. -/
def world (arguments : List String) : IO World := do
  let homes ← homes
  let env ← environment
  let stamp ← now
  let bare : World := ⟨Yaml.read, ⟨[]⟩, homes, env, .ofSystem fun _ => .missing, stamp, []⟩
  match Request.ofTexts arguments with
  | .run a =>
    let disk ← addFiles bare.disk (configFiles homes a)
    match Settings.start bare.reader disk homes a.config (some env) with
    | .error _ => return { bare with disk := disk }
    | .ok settings =>
      let disk ← addFiles disk (ruleFiles settings a ++ logFiles settings)
      let found ← (probedPaths settings a).mapM fun path => return (path, ← look path)
      let probe : Probe :=
        .ofSystem fun path => ((found.find? (·.1 = path)).map (·.2)).getD .missing
      return { bare with disk := disk, probe := probe, streams := ← streams settings a }
  | _ => return bare

end ExcludeRules.Program

open ExcludeRules CommandLine in
/-- Carries out the command line and ends with the exit code that it gives. -/
def main (arguments : List String) : IO UInt32 := do
  let w ← Program.world arguments
  let result := run w arguments
  Program.store w.disk result.progress.log.disk
  IO.print result.progress.output
  IO.eprint result.progress.log.console
  match result.exit with
  | .ok code => return code.toUInt32
  | .error failure =>
    IO.eprintln (errorLine (Program.failureText failure))
    return 1
