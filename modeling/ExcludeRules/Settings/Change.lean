/-
Changes to settings, one after the other.

A change sets one value, loads a mapping or a file into a layer, or clears layers.
It can fail, and then leaves the settings as they were.  What it brings in is new: a
mapping of it may stand in several of its places, but in none outside it.  Main statement:
  * `after_of_error` : a change that fails changes nothing.
-/
import ExcludeRules.Settings.ConfigFile

namespace ExcludeRules.Settings

/-- Why a change is refused. -/
inductive ChangeError
  | obstacle (o : Value.Obstacle)
  | file (e : FileError)
  deriving DecidableEq, Repr

inductive Change
  | set (key : String) (new : Document) (source : Source)
  | loadMapping (entries : List (Value × Value)) (shared : List (List Place)) (source : Source)
  /-- The disk is the one at the time of the change. -/
  | loadFile (disk : Disk) (homes : Homes) (name : String) (source : Source)
  /-- One layer, or all but that of the defaults. -/
  | clear (source : Option Source)

namespace Change

/-- The layer that the change is about, where it is about one. -/
def source? : Change → Option Source
  | set _ _ source => some source
  | loadMapping _ _ source => some source
  | loadFile _ _ _ source => some source
  | clear source => source

/-- Makes the change. -/
def apply (reader : Yaml.Reader) (settings : Settings) : Change → Except ChangeError Settings
  | set key new source => (settings.set key new source).mapError .obstacle
  | loadMapping entries shared source =>
    .ok (settings.setDocument source (some ⟨.map entries, shared⟩))
  | loadFile disk homes name source => (settings.load reader disk homes name source).mapError .file
  | clear source => .ok (settings.clear source)

end Change

section After

variable (reader : Yaml.Reader) (settings : Settings)

/-- The settings after a change was tried. -/
def after (change : Change) : Settings :=
  match change.apply reader settings with
  | .ok changed => changed
  | .error _ => settings

/-- The settings after some changes were tried in their order. -/
def afterAll (changes : List Change) : Settings := changes.foldl (after reader) settings

end After

variable {reader : Yaml.Reader} {settings : Settings} {change : Change}

/-- A change that fails changes nothing. -/
theorem after_of_error {e : ChangeError} (h : change.apply reader settings = .error e) :
    settings.after reader change = settings := by
  rw [after, h]

theorem after_of_ok {changed : Settings} (h : change.apply reader settings = .ok changed) :
    settings.after reader change = changed := by
  rw [after, h]

end ExcludeRules.Settings
