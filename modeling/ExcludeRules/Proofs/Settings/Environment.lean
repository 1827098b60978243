/-
What the variables of the environment set.

Behind the fixed part of its name a variable has, in either case, a section and a name
with an underscore between.  Variables are put into their sections one after the other,
so of several that set one key the last decides, and one that sets another key changes
nothing.  Their layer lies above that of the file and that of the defaults, and no value
that is read from a variable is null.  Main statements:
  * `settingName?_eq_some_iff` : the section and the name that a variable sets;
  * `at?_putSetting_self`, `at?_putSetting_of_ne` : one variable more;
  * `at?_environmentEntries` : all variables, the last of a key deciding;
  * `lookup_loadEnvironment` : what a key finds in the layer of the environment;
  * `get_of_environment` : look-ups in settings that an environment was loaded into.
-/
import Mathlib.Data.List.Induction
import Mathlib.Data.List.TakeWhile
import ExcludeRules.Proofs.Settings.Visibility
import ExcludeRules.Proofs.Text.Split

namespace ExcludeRules.Settings

/-! ### Names of variables -/

/-- Behind the fixed part a variable has this section and this name, in either case. -/
def Spells (variable_ : String) (name : String × String) : Prop :=
  ∃ rest, variable_.toList = variableStart ++ rest ∧
    Text.lower rest = name.1.toList ++ '_' :: name.2.toList

section Names

variable {variable_ : String} {rest first key : List Char}

theorem settingName?_of_start (h : variable_.toList = variableStart ++ rest) :
    settingName? variable_ =
      let first := (Text.lower rest).takeWhile (· ≠ '_')
      let key := (Text.lower rest).drop (first.length + 1)
      if first.isEmpty || key.isEmpty then none
      else some (String.ofList first, String.ofList key) := by
  have hstart : variableStart.isPrefixOf (variableStart ++ rest) = true :=
    List.isPrefixOf_iff_prefix.mpr (List.prefix_append _ _)
  rw [settingName?, h, if_pos hstart, List.drop_left]

/-- Only the first underscore separates. -/
theorem settingName?_of_cut (h : variable_.toList = variableStart ++ rest)
    (hcut : Text.lower rest = first ++ '_' :: key) (hfirst : '_' ∉ first) :
    settingName? variable_ =
      if first.isEmpty || key.isEmpty then none
      else some (String.ofList first, String.ofList key) := by
  have htake : (first ++ '_' :: key).takeWhile (· ≠ '_') = first := by
    rw [List.takeWhile_append_of_pos, List.takeWhile_cons_of_neg (by decide), List.append_nil]
    intro c hc
    exact decide_eq_true fun heq => hfirst (heq ▸ hc)
  have hdrop : (first ++ '_' :: key).drop (first.length + 1) = key := by
    rw [List.drop_length_add_append, List.drop_succ_cons, List.drop_zero]
  rw [settingName?_of_start h, hcut]
  dsimp only
  rw [htake, hdrop]

/-- Without an underscore there is no section. -/
theorem settingName?_of_not_mem (h : variable_.toList = variableStart ++ rest)
    (hnone : '_' ∉ Text.lower rest) : settingName? variable_ = none := by
  have htake : (Text.lower rest).takeWhile (· ≠ '_') = Text.lower rest :=
    List.takeWhile_eq_self_iff.mpr fun c hc => decide_eq_true fun heq => hnone (heq ▸ hc)
  rw [settingName?_of_start h, htake]
  simp

theorem settingName?_eq_some_iff {name : String × String} :
    settingName? variable_ = some name ↔
      Spells variable_ name ∧ name.1 ≠ "" ∧ '_' ∉ name.1.toList ∧ name.2 ≠ "" := by
  constructor
  · intro h
    by_cases hstart : variableStart.isPrefixOf variable_.toList = true
    · obtain ⟨rest, hrest⟩ := List.isPrefixOf_iff_prefix.mp hstart
      by_cases hmem : '_' ∈ Text.lower rest
      · obtain ⟨first, key, hcut, hfirst⟩ := List.eq_append_cons_of_mem hmem
        rw [settingName?_of_cut hrest.symm hcut hfirst] at h
        split at h
        · cases h
        · rename_i hne
          cases h
          simp only [Bool.or_eq_true, List.isEmpty_iff, not_or] at hne
          refine ⟨⟨rest, hrest.symm, ?_⟩, ?_, ?_, ?_⟩
          · rw [String.toList_ofList, String.toList_ofList, hcut]
          · simpa using hne.1
          · rwa [String.toList_ofList]
          · simpa using hne.2
      · rw [settingName?_of_not_mem hrest.symm hmem] at h
        cases h
    · rw [settingName?_of_other (Bool.eq_false_iff.mpr hstart)] at h
      cases h
  · rintro ⟨⟨rest, hrest, hcut⟩, hsection, hfirst, hkey⟩
    rw [settingName?_of_cut hrest hcut hfirst, if_neg, String.ofList_toList, String.ofList_toList]
    simp [hsection, hkey]

end Names

/-! ### One variable more -/

section Entries

variable {entries : List (Value × Value)} {name : String × String}

theorem at?_putSetting_self (entries : List (Value × Value)) (name : String × String)
    (v : Value) : (Value.map (putSetting entries name v)).at? [name.1, name.2] = some v := by
  rw [putSetting, Value.at?_cons, Value.find?_put_self (Value.sameKey_text_iff.mpr rfl),
    Option.bind_some, Value.at?_cons, Value.find?_put_self (Value.sameKey_text_iff.mpr rfl)]
  rfl

/-- A variable that sets another key, be it in the same section, changes nothing. -/
theorem at?_putSetting_of_ne {s n : String} (h : name ≠ (s, n)) (entries : List (Value × Value))
    (v : Value) :
    (Value.map (putSetting entries name v)).at? [s, n] = (Value.map entries).at? [s, n] := by
  rw [putSetting, Value.at?_cons, Value.at?_cons]
  by_cases hs : name.1 = s
  · have hn : name.2 ≠ n := fun hn => h (Prod.ext hs hn)
    subst hs
    rw [Value.find?_put_self (Value.sameKey_text_iff.mpr rfl), Option.bind_some, Value.at?_cons,
      Value.find?_put_of_ne fun heq => hn (Value.text.inj heq)]
    -- what was there under the section was a mapping, or nothing that a path leads through
    cases hfind : Value.find? (.text name.1) entries with
    | none => rfl
    | some found => cases found <;> rfl
  · rw [Value.find?_put_of_ne fun heq => hs (Value.text.inj heq)]

/-! ### All variables -/

theorem environmentEntries_append_singleton (env : Environment) (e : String × String) :
    environmentEntries (env ++ [e]) =
      match settingName? e.1 with
      | some name => putSetting (environmentEntries env) name (parseValue e.2)
      | none => environmentEntries env := by
  rw [environmentEntries, List.foldl_append]
  rfl

/-- The value of the last variable that sets a key. -/
def lastValue? (env : Environment) (name : String × String) : Option Value :=
  (env.reverse.find? fun e => settingName? e.1 = some name).map fun e => parseValue e.2

theorem at?_environmentEntries (env : Environment) (s n : String) :
    (Value.map (environmentEntries env)).at? [s, n] = lastValue? env (s, n) := by
  induction env using List.reverseRecOn with
  | nil => rfl
  | append_singleton env e ih =>
    rw [environmentEntries_append_singleton, lastValue?, List.reverse_append,
      List.reverse_singleton, List.singleton_append]
    cases hname : settingName? e.1 with
    | none =>
      rw [List.find?_cons_of_neg (by simp [hname])]
      exact ih
    | some name =>
      by_cases heq : name = (s, n)
      · subst heq
        rw [List.find?_cons_of_pos (by simp [hname])]
        exact at?_putSetting_self _ (s, n) _
      · rw [List.find?_cons_of_neg (by simp [hname, heq])]
        exact (at?_putSetting_of_ne heq _ _).trans ih

theorem lastValue?_of_last {back : Environment} {e : String × String}
    (he : settingName? e.1 = some name) (hback : ∀ f ∈ back, settingName? f.1 ≠ some name)
    (front : Environment) : lastValue? (front ++ e :: back) name = some (parseValue e.2) := by
  have hnone : back.reverse.find? (fun f => settingName? f.1 = some name) = none :=
    List.find?_eq_none.mpr fun f hf => by simpa using hback f (List.mem_reverse.mp hf)
  rw [lastValue?, List.reverse_append, List.reverse_cons, List.append_assoc, List.find?_append,
    hnone, Option.none_or, List.singleton_append, List.find?_cons_of_pos (by simpa using he)]
  rfl

theorem lastValue?_of_none {env : Environment} (h : ∀ e ∈ env, settingName? e.1 ≠ some name) :
    lastValue? env name = none := by
  rw [lastValue?, Option.map_eq_none_iff, List.find?_eq_none]
  intro e he
  simpa using h e (List.mem_reverse.mp he)

/-- A variable that sets another key may be left out. -/
theorem lastValue?_of_other {e : String × String} (he : settingName? e.1 ≠ some name)
    (front back : Environment) :
    lastValue? (front ++ e :: back) name = lastValue? (front ++ back) name := by
  rw [lastValue?, lastValue?, List.reverse_append, List.reverse_cons, List.append_assoc,
    List.find?_append, List.singleton_append, List.find?_cons_of_neg (by simpa using he),
    ← List.find?_append, ← List.reverse_append]

end Entries

/-! ### Settings with an environment -/

section Layers

variable {reader : Yaml.Reader} {settings base : Settings} {disk : Disk} {homes : Homes}
  {file : Option String} {env : Environment} {s n key : String}

/-- No value that is read from a variable counts as none. -/
theorem parseValue_ne_null (text : String) : parseValue text ≠ .null :=
  parseValue_cases (motive := (· ≠ .null)) (fun _ => nofun) (fun _ => nofun) (fun _ => nofun)
    (fun _ => nofun) text

theorem lastValue?_ne_null (env : Environment) (name : String × String) :
    lastValue? env name ≠ some .null := by
  intro h
  obtain ⟨e, -, he⟩ := Option.map_eq_some_iff.mp h
  exact parseValue_ne_null e.2 he

/-- A section and a name with a dot between are the parts of their key. -/
theorem parts_dotted (hs : '.' ∉ s.toList) (hn : '.' ∉ n.toList) :
    parts (s ++ "." ++ n) = [s, n] := by
  have htext : (s ++ "." ++ n).toList = s.toList ++ '.' :: n.toList := by
    rw [String.toList_append, String.toList_append, List.append_assoc]
    rfl
  rw [parts, htext, Text.split_append_cons, Text.split_of_not_mem hs, Text.split_of_not_mem hn,
    List.singleton_append, List.map_cons, List.map_singleton, String.ofList_toList,
    String.ofList_toList]

theorem layer_loadEnvironment_of_ne {source : Source} (h : source ≠ .environment)
    (settings : Settings) (env : Environment) :
    (settings.loadEnvironment env).layer source = settings.layer source := by
  unfold loadEnvironment
  dsimp only
  split
  · rfl
  · rw [layer, document_setDocument_of_ne h, layer]

/-- The layer of the environment gives the value of the last variable that sets the key. -/
theorem lookup_loadEnvironment (hlayer : settings.layer .environment = none)
    (hkey : parts key = [s, n]) (env : Environment) :
    (settings.loadEnvironment env).lookup .environment key = lastValue? env (s, n) := by
  have hat := at?_environmentEntries env s n
  have hfound : ((settings.loadEnvironment env).layer .environment).bind (·.at? (parts key)) =
      lastValue? env (s, n) := by
    rw [hkey, ← hat, loadEnvironment]
    split
    · rename_i hnil
      rw [hlayer, List.isEmpty_iff.mp hnil]
      rfl
    · rw [layer_setDocument_self]
      rfl
  rw [lookup, hfound]
  split
  · rename_i hnull
    exact absurd hnull (lastValue?_ne_null env (s, n))
  · rfl

/-- The environment is loaded into what the settings would be without it. -/
theorem start_some_eq (env : Environment) :
    start reader disk homes file (some env) =
      (fun base => base.loadEnvironment env) <$> start reader disk homes file none := by
  cases file with
  | none => rfl
  | some name =>
    by_cases hempty : name = ""
    · subst hempty
      rfl
    · rw [start_of_name hempty, start_of_name hempty]
      cases initial.load reader disk homes name .user <;> rfl

/-- Without an environment only the layers of the defaults and of the file are there. -/
theorem layer_start_none (h : start reader disk homes file none = .ok base) {source : Source}
    (hsource : Source.user.rank < source.rank) : base.layer source = none := by
  have hinitial : initial.layer source = none := by
    cases source with
    | defaults => exact absurd hsource (by decide)
    | _ => rfl
  cases file with
  | none =>
    cases h
    exact hinitial
  | some name =>
    by_cases hempty : name = ""
    · subst hempty
      cases h
      exact hinitial
    · rw [start_of_name hempty] at h
      obtain ⟨loaded, hload, h⟩ := Outcome.bind_eq_ok_iff.mp h
      cases h
      rw [layer, document_load_of_ne (ne_of_rank_lt hsource) hload, ← layer, hinitial]

/-- With an environment a key gives the value of the last variable that sets it, or else
what it gives without. -/
theorem get_loadEnvironment (h : start reader disk homes file none = .ok base)
    (hkey : parts key = [s, n]) (env : Environment) (default : Value) :
    (base.loadEnvironment env).get key default =
      (lastValue? env (s, n)).getD (base.get key default) := by
  have hlookup := lookup_loadEnvironment (layer_start_none h (by decide)) hkey env
  cases hlast : lastValue? env (s, n) with
  | some v =>
    have habove : ∀ source, Source.environment.rank < source.rank →
        (base.loadEnvironment env).lookup source key = none := by
      intro source hsource
      rw [lookup, layer_loadEnvironment_of_ne (ne_of_rank_lt hsource),
        layer_start_none h (Nat.lt_trans (by decide) hsource)]
      rfl
    exact get_of_topmost habove (hlookup.trans hlast) default
  | none =>
    refine get_congr (fun source => ?_) default
    by_cases hsource : source = .environment
    · rw [hsource, hlookup, hlast, lookup, layer_start_none h (by decide)]
      rfl
    · rw [lookup, layer_loadEnvironment_of_ne hsource, lookup]

/-- **The environment stands above the file, and its last spelling counts.**  Settings that
can be made from the defaults and a file, or without one, can be made with any environment
on top.  A section and a name then give the value of the last variable that has them behind
its fixed part, in either case; where there is none, they give what they give without the
environment.  A variable that has anything else may be left out. -/
theorem get_of_environment (h : start reader disk homes file none = .ok base) (env : Environment) :
    ∃ settings, start reader disk homes file (some env) = .ok settings ∧
      ∀ s n : String, s ≠ "" → '_' ∉ s.toList → '.' ∉ s.toList → n ≠ "" → '.' ∉ n.toList →
        ∀ default,
        (∀ front variable_ text back, env = front ++ (variable_, text) :: back →
          Spells variable_ (s, n) → (∀ e ∈ back, ¬ Spells e.1 (s, n)) →
          settings.get (s ++ "." ++ n) default = parseValue text) ∧
        ((∀ e ∈ env, ¬ Spells e.1 (s, n)) →
          settings.get (s ++ "." ++ n) default = base.get (s ++ "." ++ n) default) ∧
        ∀ front e back settings', env = front ++ e :: back → ¬ Spells e.1 (s, n) →
          start reader disk homes file (some (front ++ back)) = .ok settings' →
          settings'.get (s ++ "." ++ n) default = settings.get (s ++ "." ++ n) default := by
  refine ⟨base.loadEnvironment env, by rw [start_some_eq, h, Outcome.map_ok], ?_⟩
  intro s n hs hunderscore hdot hn hdot' default
  have hkey : parts (s ++ "." ++ n) = [s, n] := parts_dotted hdot hdot'
  have hname (variable_ : String) :
      settingName? variable_ = some (s, n) ↔ Spells variable_ (s, n) :=
    settingName?_eq_some_iff.trans (and_iff_left ⟨hs, hunderscore, hn⟩)
  have hnot {variable_ : String} (hother : ¬ Spells variable_ (s, n)) :
      settingName? variable_ ≠ some (s, n) := mt (hname variable_).mp hother
  have hget (env : Environment) : (base.loadEnvironment env).get (s ++ "." ++ n) default =
      (lastValue? env (s, n)).getD (base.get (s ++ "." ++ n) default) :=
    get_loadEnvironment h hkey env default
  refine ⟨?_, ?_, ?_⟩
  · rintro front variable_ text back rfl hspells hback
    have hlast : lastValue? (front ++ (variable_, text) :: back) (s, n) =
        some (parseValue text) :=
      lastValue?_of_last ((hname variable_).mpr hspells) (fun e he => hnot (hback e he)) front
    rw [hget, hlast, Option.getD_some]
  · intro hnone
    rw [hget, lastValue?_of_none fun e he => hnot (hnone e he), Option.getD_none]
  · rintro front e back settings' rfl hother hstart
    rw [start_some_eq, h, Outcome.map_ok] at hstart
    cases hstart
    rw [hget, hget, lastValue?_of_other (hnot hother)]

/-- Two spellings of one key above a file, and two variables that are named otherwise. -/
theorem get_of_environment_spellings :
    let disk : Disk :=
      ⟨[(⟨0, ["c.yaml".toList]⟩, .file "logging: {level: INFO, file: a.log}".toUTF8.toList)]⟩
    let env : Environment := [("RSYNCFILTER_LOGGING_LEVEL", "DEBUG"),
      ("RSYNCFILTER_Logging_level", ","), ("RSYNCFILTER_LOGGING", "x"), ("LOGGING_FILE", "b.log")]
    ∃ settings, start Yaml.read disk (fun _ => none) (some "c.yaml") (some env) = .ok settings ∧
      settings.get "logging.level" .null = .list [] ∧
      settings.get "logging.file" .null = .text "a.log" := by
  intro disk env
  obtain ⟨base, hbase, hfile⟩ := Outcome.exists_of_any
    (x := start Yaml.read disk (fun _ => none) (some "c.yaml") none)
    (p := fun base => (base.get "logging.file" .null).sameKey (.text "a.log")) (by decide +kernel)
  rw [Value.sameKey_text_iff] at hfile
  obtain ⟨settings, hstart, hget⟩ := get_of_environment hbase env
  have hnot {variable_ : String} {name : String × String} (hname : name.1 ≠ "")
      (hsection : '_' ∉ name.1.toList) (hkey : name.2 ≠ "")
      (h : settingName? variable_ ≠ some name) : ¬ Spells variable_ name :=
    fun hspells => h (settingName?_eq_some_iff.mpr ⟨hspells, hname, hsection, hkey⟩)
  refine ⟨settings, hstart, ?_, ?_⟩
  · obtain ⟨hlast, -, -⟩ := hget "logging" "level" (by decide) (by decide) (by decide) (by decide)
      (by decide) .null
    have hspells : Spells "RSYNCFILTER_Logging_level" ("logging", "level") :=
      ⟨"Logging_level".toList, rfl, by decide +kernel⟩
    refine hlast [("RSYNCFILTER_LOGGING_LEVEL", "DEBUG")] _ "," _ rfl hspells ?_
    simp only [List.forall_mem_cons]
    exact ⟨hnot (by decide) (by decide) (by decide) (by decide +kernel),
      hnot (by decide) (by decide) (by decide) (by decide +kernel), List.forall_mem_nil _⟩
  · obtain ⟨-, hnone, -⟩ := hget "logging" "file" (by decide) (by decide) (by decide) (by decide)
      (by decide) .null
    refine (hnone ?_).trans hfile
    simp only [env, List.forall_mem_cons]
    exact ⟨hnot (by decide) (by decide) (by decide) (by decide +kernel),
      hnot (by decide) (by decide) (by decide) (by decide +kernel),
      hnot (by decide) (by decide) (by decide) (by decide +kernel),
      hnot (by decide) (by decide) (by decide) (by decide +kernel), List.forall_mem_nil _⟩

end Layers

end ExcludeRules.Settings
