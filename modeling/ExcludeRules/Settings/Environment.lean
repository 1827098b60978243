/-
Settings from environment variables.

A variable `RSYNCFILTER_SECTION_KEY` sets `section.key`; case does not matter, and
only the first underscore behind the fixed part separates.  A value is read as a
truth value, an integer or a list with commas, and is a string otherwise.

Main statements:
  * `parseValue_cases` : the kinds of values that a variable can give;
  * `settingName?_of_other` : a variable of another name sets nothing.
-/
import ExcludeRules.Settings.Layers
import ExcludeRules.Text.Case
import ExcludeRules.Text.Integer

namespace ExcludeRules.Settings

/-- Variables in their order. -/
abbrev Environment := List (String × String)

/-- What the names of variables that set something begin with. -/
def variableStart : List Char := "RSYNCFILTER_".toList

/-! ### Reading values -/

/-- The value that the text of a variable stands for. -/
def parseValue (s : String) : Value :=
  let text := s.toList
  let word := String.ofList (Text.lower text)
  if word ∈ ["true", "yes"] then .bool true
  else if word ∈ ["false", "no"] then .bool false
  else match Text.integer? text with
    | some n => .int n
    | none =>
      if text.contains ',' then
        .list (((Text.split ',' text).map Text.trim).filterMap fun item =>
          if item.isEmpty then none else some (.text (String.ofList item)))
      else .text s

/-- A variable gives a truth value, a number, a list or a text. -/
theorem parseValue_cases {motive : Value → Prop} (hbool : ∀ b, motive (.bool b))
    (hint : ∀ n, motive (.int n)) (hlist : ∀ items, motive (.list items))
    (htext : ∀ text, motive (.text text)) (s : String) : motive (parseValue s) := by
  unfold parseValue
  dsimp only
  split
  · exact hbool true
  · split
    · exact hbool false
    · split
      · exact hint _
      · split
        · exact hlist _
        · exact htext s

/-! ### Reading names -/

/-- The section and the key that a variable sets. -/
def settingName? (variable_ : String) : Option (String × String) :=
  let name := variable_.toList
  if variableStart.isPrefixOf name then
    let rest := Text.lower (name.drop variableStart.length)
    let first := rest.takeWhile (· ≠ '_')
    let key := rest.drop (first.length + 1)
    if first.isEmpty || key.isEmpty then none else some (String.ofList first, String.ofList key)
  else none

/-- The mapping with one setting put into its section. -/
def putSetting (entries : List (Value × Value)) (name : String × String) (value : Value) :
    List (Value × Value) :=
  let inner := match Value.find? (.text name.1) entries with
    | some (.map inner) => inner
    | _ => []
  Value.put (.text name.1) (.map (Value.put (.text name.2) value inner)) entries

/-- The settings of an environment. -/
def environmentEntries (env : Environment) : List (Value × Value) :=
  env.foldl
    (fun entries e => match settingName? e.1 with
      | some name => putSetting entries name (parseValue e.2)
      | none => entries)
    []

/-- Gives the layer of the environment what it holds; without settings there is no layer. -/
def loadEnvironment (settings : Settings) (env : Environment) : Settings :=
  let entries := environmentEntries env
  if entries.isEmpty then settings
  else settings.setDocument .environment (some (.plain (.map entries)))

theorem settingName?_of_other {variable_ : String}
    (h : variableStart.isPrefixOf variable_.toList = false) : settingName? variable_ = none := by
  simp [settingName?, h]

end ExcludeRules.Settings
