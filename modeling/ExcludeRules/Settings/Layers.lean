/-
Settings in layers.

Each source of settings has a layer, a document that is normally a mapping of
mappings.  A key is a path through them, its parts separated by dots.  A look-up
takes the value of the highest layer that has one, null counting as none; the
merger of all layers lets higher mappings refine lower ones.  A value that is set is
put into a mapping of its layer, and is seen wherever that mapping stands.

Main statements:
  * `get_of_none` : where no layer has a value, the default is taken;
  * `document_set_of_ne` : setting a value in one layer leaves the others alone;
  * `document_clear` : what clearing leaves.
-/
import ExcludeRules.Document
import ExcludeRules.Text.Split

namespace ExcludeRules

/-- Where settings come from, the lowest precedence first. -/
inductive Source
  | defaults
  | user
  | environment
  | runtime
  deriving DecidableEq, Repr

namespace Source

def all : List Source := [defaults, user, environment, runtime]

def rank : Source → Nat
  | defaults => 1
  | user => 2
  | environment => 3
  | runtime => 4

def name : Source → String
  | defaults => "COMPILED_DEFAULTS"
  | user => "USER_CONFIG"
  | environment => "ENVIRONMENT"
  | runtime => "RUNTIME"

def ofName? (name : String) : Option Source := all.find? (·.name = name)

end Source

namespace Value

mutual

/-- The entries of a mapping with those of a higher one merged in. -/
def mergeEntries (base : List (Value × Value)) : List (Value × Value) → List (Value × Value)
  | [] => base
  | (k, v) :: rest => mergeEntries (put k (mergeValue (find? k base) v) base) rest

/-- A value of a higher mapping over what is there; mappings are merged. -/
def mergeValue (below : Option Value) : Value → Value
  | map high =>
    match below with
    | some (map low) => map (mergeEntries low high)
    | _ => map high
  | v => v

end

end Value

/-- The documents of the layers that are there. -/
structure Settings where
  document : Source → Option Document

namespace Settings

/-- The value of a layer. -/
def layer (settings : Settings) (source : Source) : Option Value :=
  (settings.document source).map (·.value)

/-- The parts of a key. -/
def parts (key : String) : List String :=
  (Text.split '.' key.toList).map String.ofList

/-- The value of a key in one layer; null counts as none. -/
def lookup (settings : Settings) (source : Source) (key : String) : Option Value :=
  match (settings.layer source).bind (·.at? (parts key)) with
  | some .null => none
  | found => found

/-- The value of a key in the highest layer that has one, or else the default. -/
def get (settings : Settings) (key : String) (default : Value) : Value :=
  (Source.all.reverse.findSome? (settings.lookup · key)).getD default

/-- Replaces a layer. -/
def setDocument (settings : Settings) (source : Source) (d : Option Document) : Settings :=
  ⟨fun s => if s = source then d else settings.document s⟩

/-- Sets the value of a key in one layer. -/
def set (settings : Settings) (key : String) (new : Document) (source : Source) :
    Except Value.Obstacle Settings := do
  let d := (settings.document source).getD .empty
  return settings.setDocument source (some (← d.write new (parts key)))

/-- Removes a layer, or all; that of the defaults stays. -/
def clear (settings : Settings) : Option Source → Settings
  | some source => if source = .defaults then settings else settings.setDocument source none
  | none => ⟨fun s => if s = .defaults then settings.document s else none⟩

/-- All layers merged into one mapping; none if a layer is no mapping. -/
def merged? (settings : Settings) : Option Value := do
  let layers := Source.all.filterMap settings.layer
  let entries ← layers.foldlM
    (fun base layer => match layer with
      | .map high => some (Value.mergeEntries base high)
      | _ => none)
    []
  return .map entries

/-- The settings that hold where nothing else is said. -/
def defaults : Value := .map [
  (.text "logging", .map [(.text "level", .text "WARNING"), (.text "file", .null)]),
  (.text "rules", .map [(.text "files", .list []), (.text "root", .null)])]

/-- Settings with the defaults only. -/
def initial : Settings := ⟨fun s => if s = .defaults then some (.plain defaults) else none⟩

theorem parts_ne_nil (key : String) : parts key ≠ [] := by
  rw [parts, ne_eq, List.map_eq_nil_iff]
  exact Text.split_ne_nil '.' key.toList

theorem layer_eq_some_iff {settings : Settings} {s : Source} {v : Value} :
    settings.layer s = some v ↔ ∃ d, settings.document s = some d ∧ d.value = v :=
  Option.map_eq_some_iff

theorem document_setDocument_self (settings : Settings) (s : Source) (d : Option Document) :
    (settings.setDocument s d).document s = d := by
  simp [setDocument]

theorem document_setDocument_of_ne {s t : Source} (h : s ≠ t) (settings : Settings)
    (d : Option Document) : (settings.setDocument t d).document s = settings.document s := by
  simp [setDocument, h]

theorem layer_setDocument_self (settings : Settings) (s : Source) (d : Option Document) :
    (settings.setDocument s d).layer s = d.map (·.value) := by
  rw [layer, document_setDocument_self]

theorem document_set_of_ne {settings changed : Settings} {key : String} {new : Document}
    {s t : Source} (h : s ≠ t) (hset : settings.set key new t = .ok changed) :
    changed.document s = settings.document s := by
  simp only [set, bind, Except.bind, pure, Except.pure] at hset
  split at hset
  · simp at hset
  · simp only [Except.ok.injEq] at hset
    rw [← hset, document_setDocument_of_ne h]

/-- What clearing leaves: the defaults, and where one layer is named also the others. -/
theorem document_clear (settings : Settings) (source : Option Source) (s : Source) :
    (settings.clear source).document s =
      if s = .defaults ∨ source ≠ none ∧ source ≠ some s then settings.document s else none := by
  cases source with
  | none => simp [clear]
  | some t =>
    by_cases ht : t = .defaults
    · by_cases hs : s = .defaults
      · simp [clear, ht, hs]
      · simp [clear, ht, Ne.symm hs]
    · by_cases hs : s = t
      · simp [clear, setDocument, ht, hs]
      · simp [clear, setDocument, ht, hs, Ne.symm hs]

/-- Where no layer has a value, the default is taken. -/
theorem get_of_none {settings : Settings} {key : String}
    (h : ∀ s, settings.lookup s key = none) (default : Value) :
    settings.get key default = default := by
  simp [get, Source.all, h]

end Settings

end ExcludeRules
