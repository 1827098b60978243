/-
Every layer of settings is a mapping without double keys.

A reader of documents gives values in which no mapping has a key twice; that is all that
is asked of it.  The variables of the environment are put into their sections one after
the other.  So the settings begin with layers that are well-keyed mappings, and a change
keeps them so if the value or mapping that it brings in is well keyed.  Main statements:
  * `wellKeyed_read` : a reader that is well keyed;
  * `wellKeyed_start` : the settings to begin with;
  * `WellKeyed.after`, `wellKeyed_of_reachable` : one change, and all of them.
-/
import ExcludeRules.Proofs.Settings.Reading
import ExcludeRules.Proofs.Settings.Sharing
import ExcludeRules.Settings.Change
import ExcludeRules.Yaml.Value

namespace ExcludeRules

open Value (wellKeyed_put wellKeyed_nil)

/-! ### Documents -/

namespace Yaml

/-- In the documents that are read no mapping has a key twice. -/
def Reader.WellKeyed (reader : Reader) : Prop :=
  ∀ bytes d, reader bytes = .ok d → d.value.WellKeyed

namespace Built

/-- What is built is no mapping. -/
def IsLeaf (b : Built) : Prop := ∀ es, b.value ≠ .map es

theorem isLeaf_list (items : List Built) : (list items).IsLeaf := fun _ => Value.noConfusion

theorem entryValues_put (k : Value) (b : Built) (done : List (Value × Built)) :
    entryValues (Value.put k b done) = Value.put k b.value (entryValues done) := by
  induction done with
  | nil => rfl
  | cons e done ih =>
    obtain ⟨key, old⟩ := e
    rw [Value.put, entryValues, Value.put]
    by_cases hsame : key.sameKey k = true
    · rw [if_pos hsame, if_pos hsame, entryValues]
    · rw [if_neg hsame, if_neg hsame, entryValues, ih]

end Built

namespace Node

variable {fuel : Nat} {node : Node} {b : Built}

theorem isLeaf_momentOf {s : String} {v : Value} (h : momentOf s = .ok v) :
    (Built.leaf v).IsLeaf := by
  unfold momentOf at h
  split at h
  · cases h
  · split at h
    · cases h
      exact fun _ => Value.noConfusion
    · cases h

theorem isLeaf_pairs (h : node.pairs fuel = .ok b) : b.IsLeaf := by
  unfold pairs at h
  split at h
  · cases h
  · split at h
    · obtain ⟨items, -, h⟩ := Outcome.bind_eq_ok_iff.mp h
      cases h
      exact Built.isLeaf_list items
    · cases h

/-- Only a mapping becomes a mapping. -/
theorem value_cases (h : node.value (fuel + 1) = .ok b) :
    b.IsLeaf ∨ ∃ id es done, b = .map id done ∧ entries fuel es = .ok done := by
  unfold value at h
  cases htag : node.tag with
  | mapping =>
    rw [htag] at h
    dsimp only at h
    split at h
    · obtain ⟨done, hdone, h⟩ := Outcome.bind_eq_ok_iff.mp h
      cases h
      exact .inr ⟨_, _, done, rfl, hdone⟩
    · cases h
  | sequence =>
    rw [htag] at h
    dsimp only at h
    split at h
    · obtain ⟨items, -, h⟩ := Outcome.bind_eq_ok_iff.mp h
      cases h
      exact .inl (Built.isLeaf_list items)
    · cases h
  | set =>
    rw [htag] at h
    dsimp only at h
    split at h
    · obtain ⟨done, -, h⟩ := Outcome.bind_eq_ok_iff.mp h
      cases h
      exact .inl fun _ => Value.noConfusion
    · cases h
  | binary =>
    rw [htag] at h
    obtain ⟨text, -, h⟩ := Outcome.bind_eq_ok_iff.mp h
    dsimp only at h
    split at h
    · split at h
      · cases h
      · cases h
        exact .inl fun _ => Value.noConfusion
    · cases h
  | time =>
    rw [htag] at h
    obtain ⟨text, -, h⟩ := Outcome.bind_eq_ok_iff.mp h
    obtain ⟨v, hv, h⟩ := Outcome.bind_eq_ok_iff.mp h
    cases h
    exact .inl (isLeaf_momentOf (Outcome.mapError_eq_ok_iff.mp hv))
  | ordered | pairs =>
    rw [htag] at h
    exact .inl (isLeaf_pairs h)
  | null | text =>
    rw [htag] at h
    obtain ⟨text, -, h⟩ := Outcome.bind_eq_ok_iff.mp h
    cases h
    exact .inl fun _ => Value.noConfusion
  | truth | integer | float =>
    rw [htag] at h
    obtain ⟨text, -, h⟩ := Outcome.bind_eq_ok_iff.mp h
    obtain ⟨v, -, h⟩ := Outcome.bind_eq_ok_iff.mp h
    cases h
    exact .inl fun _ => Value.noConfusion
  | merge | standIn | named =>
    rw [htag] at h
    cases h

/-- Entries are put one after the other, so they are well keyed if their values are. -/
theorem wellKeyed_entries
    (hvalue : ∀ {node : Node} {b : Built}, node.value fuel = .ok b → b.value.WellKeyed)
    {es : List (Node × Node)} {done : List (Value × Built)}
    (h : entries (fuel + 1) es = .ok done) : (Value.map (Built.entryValues done)).WellKeyed := by
  unfold entries at h
  obtain ⟨nodes, -, h⟩ := Outcome.bind_eq_ok_iff.mp h
  have hnil : (Value.map (Built.entryValues [])).WellKeyed := wellKeyed_nil
  refine Outcome.foldlM_keeps (P := fun done => (Value.map (Built.entryValues done)).WellKeyed)
    ?_ hnil h
  intro done e next hdone hnext
  obtain ⟨key, -, hnext⟩ := Outcome.bind_eq_ok_iff.mp hnext
  cases hiskey : key.value.isKey with
  | false =>
    dsimp only at hnext
    rw [hiskey] at hnext
    cases hnext
  | true =>
    dsimp only at hnext
    rw [hiskey] at hnext
    obtain ⟨b, hb, hnext⟩ := Outcome.bind_eq_ok_iff.mp hnext
    cases hnext
    rw [Built.entryValues_put]
    exact wellKeyed_put hdone hiskey (hvalue hb)

/-- In the value of a node no mapping has a key twice. -/
theorem wellKeyed_value (h : node.value fuel = .ok b) : b.value.WellKeyed := by
  -- entries are made of values with two steps less
  induction fuel using Nat.strongRecOn generalizing node b with
  | ind fuel ih =>
    cases fuel with
    | zero => cases h
    | succ fuel =>
      rcases value_cases h with hleaf | ⟨id, es, done, rfl, hdone⟩
      · exact .leaf hleaf
      · cases fuel with
        | zero => cases hdone
        | succ fuel => exact wellKeyed_entries (fun hb => ih fuel (by omega) hb) hdone

end Node

/-- In the documents of the reader of this library no mapping has a key twice. -/
theorem wellKeyed_read : Reader.WellKeyed read := by
  intro bytes d h
  obtain ⟨text, -, h⟩ := Outcome.bind_eq_ok_iff.mp h
  obtain ⟨node?, -, h⟩ := Outcome.bind_eq_ok_iff.mp h
  cases node? with
  | none =>
    cases h
    exact .leaf fun es => Value.noConfusion
  | some node =>
    obtain ⟨b, hb, h⟩ := Outcome.bind_eq_ok_iff.mp h
    cases h
    exact Node.wellKeyed_value hb

end Yaml

namespace Settings

/-- Every layer is a well-keyed mapping. -/
def WellKeyed (settings : Settings) : Prop :=
  ∀ source v, settings.layer source = some v → v.WellKeyed ∧ ∃ entries, v = .map entries

variable {reader : Yaml.Reader} {settings changed : Settings} {disk : Disk} {homes : Homes}

/-! ### The settings to begin with -/

theorem WellKeyed.setMapping (h : settings.WellKeyed) (source : Source) {d : Document}
    (hd : d.value.WellKeyed ∧ ∃ entries, d.value = .map entries) :
    (settings.setDocument source (some d)).WellKeyed := by
  intro s w hlayer
  by_cases hs : s = source
  · rw [hs, layer_setDocument_self] at hlayer
    obtain rfl := Option.some.inj hlayer
    exact hd
  · rw [layer, document_setDocument_of_ne hs] at hlayer
    exact h s w hlayer

theorem wellKeyed_initial : initial.WellKeyed := by
  intro source v hlayer
  cases source with
  | defaults =>
    obtain rfl := Option.some.inj hlayer
    refine ⟨?_, _, rfl⟩
    show defaults.WellKeyed
    simp [defaults, Value.wellKeyed_cons_iff, wellKeyed_nil, Value.isKey, Value.sameKey,
      Value.WellKeyed.leaf]
  | _ => cases hlayer

/-- The settings that a document holds are a mapping, an empty one if it holds none. -/
theorem wellKeyed_ofDocument {name : String} {d settings : Document} (hd : d.value.WellKeyed)
    (h : ofDocument name d = .ok settings) :
    settings.value.WellKeyed ∧ ∃ entries, settings.value = .map entries := by
  unfold ofDocument at h
  split at h
  · cases h
    exact ⟨wellKeyed_nil, [], rfl⟩
  · rename_i entries hentries
    cases h
    exact ⟨hd, entries, hentries⟩
  · cases h

/-- A file is loaded as a well-keyed mapping. -/
theorem wellKeyed_readFile (hread : reader.WellKeyed) {name : String} {d : Document}
    (h : readFile reader disk homes name = .ok d) :
    d.value.WellKeyed ∧ ∃ entries, d.value = .map entries := by
  obtain ⟨path, -, h⟩ := Outcome.bind_eq_ok_iff.mp h
  obtain ⟨there, -, h⟩ := Outcome.bind_eq_ok_iff.mp h
  cases there with
  | false => cases h
  | true =>
    obtain ⟨bytes, -, h⟩ := Outcome.bind_eq_ok_iff.mp h
    obtain ⟨read, hbytes, h⟩ := Outcome.bind_eq_ok_iff.mp h
    exact wellKeyed_ofDocument (hread bytes read (Outcome.mapError_eq_ok_iff.mp hbytes)) h

theorem WellKeyed.load (hread : reader.WellKeyed) {name : String} {source : Source}
    (h : settings.WellKeyed) (hload : settings.load reader disk homes name source = .ok changed) :
    changed.WellKeyed := by
  obtain ⟨d, hd, hload⟩ := Outcome.bind_eq_ok_iff.mp hload
  cases hload
  exact h.setMapping source (wellKeyed_readFile hread hd)

theorem wellKeyed_parseValue (s : String) : (parseValue s).WellKeyed :=
  parseValue_cases (fun _ => .leaf nofun) (fun _ => .leaf nofun) (fun _ => .leaf nofun)
    (fun _ => .leaf nofun) s

theorem wellKeyed_putSetting {entries : List (Value × Value)} (h : (Value.map entries).WellKeyed)
    (name : String × String) {v : Value} (hv : v.WellKeyed) :
    (Value.map (putSetting entries name v)).WellKeyed := by
  unfold putSetting
  refine wellKeyed_put h rfl (wellKeyed_put ?_ rfl hv)
  split
  · rename_i inner hinner
    exact Value.WellKeyed.of_find? h hinner
  · exact wellKeyed_nil

theorem wellKeyed_environmentEntries (env : Environment) :
    (Value.map (environmentEntries env)).WellKeyed := by
  unfold environmentEntries
  refine List.foldlRecOn (motive := fun entries => (Value.map entries).WellKeyed) env _
    wellKeyed_nil fun entries h e _ => ?_
  cases settingName? e.1 with
  | none => exact h
  | some name => exact wellKeyed_putSetting h name (wellKeyed_parseValue e.2)

theorem WellKeyed.loadEnvironment (h : settings.WellKeyed) (env : Environment) :
    (settings.loadEnvironment env).WellKeyed := by
  unfold Settings.loadEnvironment
  dsimp only
  split
  · exact h
  · exact h.setMapping .environment ⟨wellKeyed_environmentEntries env, _, rfl⟩

theorem WellKeyed.withEnvironment (h : settings.WellKeyed) (env : Option Environment) :
    (match env with
      | none => settings
      | some env => settings.loadEnvironment env).WellKeyed := by
  cases env with
  | none => exact h
  | some env => exact h.loadEnvironment env

/-- With a file and an environment or without, settings begin with well-keyed mappings. -/
theorem wellKeyed_start (hread : reader.WellKeyed) {file : Option String}
    {env : Option Environment} (h : start reader disk homes file env = .ok settings) :
    settings.WellKeyed := by
  cases file with
  | none =>
    cases h
    exact wellKeyed_initial.withEnvironment env
  | some name =>
    by_cases hempty : name = ""
    · subst hempty
      cases h
      exact wellKeyed_initial.withEnvironment env
    · rw [start_of_name hempty] at h
      obtain ⟨loaded, hload, h⟩ := Outcome.bind_eq_ok_iff.mp h
      cases h
      exact (wellKeyed_initial.load hread hload).withEnvironment env

/-! ### Changes -/

/-- What the change brings in from outside is well keyed. -/
def Change.WellKeyed : Change → Prop
  | .set _ new _ => new.value.WellKeyed
  | .loadMapping entries _ _ => (Value.map entries).WellKeyed
  | .loadFile .. => True
  | .clear _ => True

theorem WellKeyed.clear (h : settings.WellKeyed) (source : Option Source) :
    (settings.clear source).WellKeyed := by
  intro s v hlayer
  rw [layer, document_clear] at hlayer
  split at hlayer
  · exact h s v hlayer
  · cases hlayer

theorem WellKeyed.set {key : String} {new : Document} {source : Source} (h : settings.WellKeyed)
    (hnew : new.value.WellKeyed) (hset : settings.set key new source = .ok changed) :
    changed.WellKeyed := by
  obtain ⟨d, hd, hset⟩ := Outcome.bind_eq_ok_iff.mp hset
  cases hset
  have hbefore : ((settings.document source).getD .empty).value.WellKeyed := by
    cases hfound : settings.document source with
    | none => exact wellKeyed_nil
    | some d => exact (h source d.value (layer_eq_some_iff.mpr ⟨d, hfound, rfl⟩)).1
  exact h.setMapping source (Document.wellKeyed_write (parts_ne_nil key) hnew hbefore hd)

/-- A change keeps every layer a well-keyed mapping, whether it succeeds or not. -/
theorem WellKeyed.after (hread : reader.WellKeyed) {change : Change} (h : settings.WellKeyed)
    (hchange : change.WellKeyed) : (settings.after reader change).WellKeyed := by
  cases happly : change.apply reader settings with
  | error e =>
    rw [after_of_error happly]
    exact h
  | ok changed =>
    rw [after_of_ok happly]
    cases change with
    | set key new source => exact h.set hchange (Outcome.mapError_eq_ok_iff.mp happly)
    | loadMapping entries shared source =>
      cases happly
      exact h.setMapping source ⟨hchange, entries, rfl⟩
    | loadFile disk homes name source =>
      exact h.load hread (Outcome.mapError_eq_ok_iff.mp happly)
    | clear source =>
      cases happly
      exact h.clear source

/-- Settings that some start and some changes, of which any may fail, lead to. -/
inductive Reachable (reader : Yaml.Reader) : Settings → Prop
  | start {disk : Disk} {homes : Homes} {file : Option String} {env : Option Environment}
      {settings : Settings} (h : start reader disk homes file env = .ok settings) :
      Reachable reader settings
  | after {settings : Settings} {change : Change} (h : Reachable reader settings)
      (hchange : change.WellKeyed) : Reachable reader (settings.after reader change)

theorem wellKeyed_of_reachable (hread : reader.WellKeyed) (h : Reachable reader settings) :
    settings.WellKeyed := by
  induction h with
  | start h => exact wellKeyed_start hread h
  | after _ hchange ih => exact ih.after hread hchange

end Settings

end ExcludeRules
