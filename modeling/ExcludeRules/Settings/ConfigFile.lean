/-
Settings from a file.

A configuration file is a YAML document that is a mapping; an empty one holds no
settings.  A tilde in front of its name stands for a home directory.  How the bytes of
the file are read is not said here: what is read is a tree of values, with the places of
the mappings that stand in several.  So no mapping holds itself, and its texts are sequences
of characters, none of which is half of a pair of surrogates.  Main statement:
  * `document_load_of_ne` : loading a file leaves the other layers alone.
-/
import ExcludeRules.Disk
import ExcludeRules.Rule.Error
import ExcludeRules.Settings.Environment
import ExcludeRules.Yaml.Fault

namespace ExcludeRules

/-- A way to read a document from the bytes of a file. -/
abbrev Yaml.Reader := List UInt8 → Except Yaml.ReadError Document

namespace Settings

/-- Why a configuration file was not loaded. -/
inductive FileError
  /-- A home directory is asked for that is not known. -/
  | unknownHome
  /-- It cannot be told whether there is such a user or such a file. -/
  | look (e : DiskError)
  | missing (name : String)
  | disk (name : String) (e : DiskError)
  | document (name : String) (f : Yaml.Fault)
  | encoding (e : Text.Utf8Fault)
  | misfit (m : Yaml.Misfit)
  | notMapping (name : String)
  deriving DecidableEq, Repr

namespace FileError

/-- How the file is at fault; the other errors lie in what a scalar or a name stands for. -/
def code? : FileError → Option ErrorCode
  | missing _ => some .notFound
  | disk _ _ => some .internalError
  | document _ _ => some .invalidInput
  | notMapping _ => some .invalidInput
  | _ => none

def message : FileError → String
  | unknownHome => "Could not determine home directory."
  | look e => e.message
  | missing name => "Config file not found: " ++ name
  | disk name e => "Error loading config " ++ name ++ ": " ++ e.message
  | document name f => "YAML parse error in " ++ name ++ ": " ++ f.message
  | encoding e => e.message
  | misfit _ => "invalid value"
  | notMapping name => "Invalid config format in " ++ name

end FileError

/-- The home directories of users by their names; the one who runs the program goes by none. -/
abbrev Homes := String → Option Path

/-- The home directory of a user, who is looked up by name. -/
def homeOf (homes : Homes) (user : List Char) : Except FileError Path :=
  if user.contains '\x00' then .error (.look .nul)
  else
    match homes (String.ofList user) with
    | some home => .ok home
    | none => .error .unknownHome

/-- A path in which a tilde in front, with the name of its user, is replaced by the home
directory. -/
def expandHome (homes : Homes) (p : Path) : Except FileError Path :=
  match p.slashes, p.segments with
  | 0, ('~' :: user) :: rest =>
    (fun home => home.join ⟨0, rest⟩) <$> homeOf homes user
  | _, _ => .ok p

/-- The settings that a document holds. -/
def ofDocument (name : String) (d : Document) : Except FileError Document :=
  match d.value with
  | .null => .ok .empty
  | .map _ => .ok d
  | _ => .error (.notMapping name)

/-- Why a file was not loaded whose bytes give no document. -/
def FileError.ofReadError (name : String) : Yaml.ReadError → FileError
  | .fault f => .document name f
  | .encoding e => .encoding e
  | .misfit m => .misfit m

/-- The settings of a configuration file. -/
def readFile (reader : Yaml.Reader) (disk : Disk) (homes : Homes) (name : String) :
    Except FileError Document := do
  let path ← expandHome homes (.ofText name.toList)
  match ← (disk.has? path.toString).mapError .look with
  | false => .error (.missing name)
  | true =>
    let bytes ← (disk.read path.toString).mapError (.disk name)
    ofDocument name (← (reader bytes).mapError (.ofReadError name))

/-- Gives a layer the settings of a file. -/
def load (settings : Settings) (reader : Yaml.Reader) (disk : Disk) (homes : Homes) (name : String)
    (source : Source) : Except FileError Settings := do
  return settings.setDocument source (some (← readFile reader disk homes name))

/-- The settings to begin with: the defaults, a file if one is named, and the environment. -/
def start (reader : Yaml.Reader) (disk : Disk) (homes : Homes) (file : Option String)
    (env : Option Environment) : Except FileError Settings := do
  let settings ← match file with
    | none => .ok initial
    | some "" => .ok initial
    | some name => initial.load reader disk homes name .user
  return match env with
    | none => settings
    | some env => settings.loadEnvironment env

theorem document_load_of_ne {settings changed : Settings} {reader : Yaml.Reader} {disk : Disk}
    {homes : Homes} {name : String} {s t : Source} (h : s ≠ t)
    (hload : settings.load reader disk homes name t = .ok changed) :
    changed.document s = settings.document s := by
  simp only [load, bind, Except.bind, pure, Except.pure] at hload
  split at hload
  · simp at hload
  · simp only [Except.ok.injEq] at hload
    rw [← hload, document_setDocument_of_ne h]

end Settings

end ExcludeRules
