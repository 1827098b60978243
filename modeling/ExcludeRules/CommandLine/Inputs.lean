/-
What a run looks at on the disk.

The names of the files that a run may read or write and the paths that it may ask
about follow from the command line and the settings, so they can be looked up
before the run.  Main statement:
  * `mem_ruleFiles_of_mem_files` : the rule files of the command line are among them.
-/
import ExcludeRules.CommandLine.Run

namespace ExcludeRules.CommandLine

/-- The configuration file of a run. -/
def configFiles (homes : Settings.Homes) (a : Arguments) : List String :=
  match a.config with
  | none => []
  | some name =>
    match Settings.expandHome homes (.ofText name.toList) with
    | .ok path => [path.toString]
    | .error _ => []

/-- What the settings name as rule files. -/
def namedFiles (settings : Settings) : List Value :=
  (fileNames (settings.get "rules.files" (.list []))).toOption.getD []

/-- The rule files of a run. -/
def ruleFiles (settings : Settings) (a : Arguments) : List String :=
  match a.command with
  | .translate _ => []
  | .check options _ => (namedFiles settings).filterMap fileName? ++ options.files

/-- Whether a run may read its standard input, which a number in place of a name asks for. -/
def readsInput (settings : Settings) (a : Arguments) : Bool :=
  match a.command with
  | .translate _ => false
  | .check .. => (namedFiles settings).any (descriptor? · = some 0)

/-- The log file of a run and its backups. -/
def logFiles (settings : Settings) : List String :=
  match fileName? (settings.get "logging.file" .null) with
  | some name =>
    if name = "" then []
    else
      let path := (Path.ofText name.toList).normalize
      let file : Log.LogFile := ⟨path, Log.Logger.defaultMaxBytes, Log.Logger.defaultBackups⟩
      path.toString ::
        (List.range Log.Logger.defaultBackups).map fun n => (file.backup (n + 1)).toString
  | none => []

/-- The paths that a check may ask about. -/
def probedPaths (settings : Settings) (a : Arguments) : List String :=
  match a.command with
  | .translate _ => []
  | .check options paths =>
    match rootOf settings options with
    | .text root => paths.filterMap fun path =>
        (Candidate.resolve root (some path)).toOption.map (·.path.toString)
    | _ => []

/-- The beginnings of a name, each of which leads one step further. -/
def stepsOf (name : String) : List String :=
  let text := name.toList
  ((List.range text.length).filter fun n => text[n]? = some '/' && 0 < n).map
    (fun n => String.ofList (text.take n)) ++ [name]

theorem mem_ruleFiles_of_mem_files {settings : Settings} {a : Arguments} {options : CheckOptions}
    {paths : List String} (h : a.command = .check options paths) {name : String}
    (hname : name ∈ options.files) : name ∈ ruleFiles settings a := by
  simp [ruleFiles, h, hname]

end ExcludeRules.CommandLine
