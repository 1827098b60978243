/-
When a value is refused, and that nothing is changed then.

A value is refused where its path runs into something that is there and is no mapping,
before the path ends.  A walk that changes a layer as it goes makes each mapping that is
missing before it goes on.  It leaves no trace all the same when it fails: below a mapping
that was made nothing is there that could be in its way.  Main statements:
  * `assign_eq_error_iff` : the paths at whose end no value can be put;
  * `walk_eq` : a walk that changes values as it goes;
  * `setInPlace_eq` : the same in a layer of settings;
  * `set_refused_iff_blocked` : which keys are refused, and what is left behind.
-/
import ExcludeRules.Proofs.Settings.Visibility

namespace ExcludeRules

namespace Value

variable {v new : Value} {path : List String}

/-! ### What is in the way -/

/-- After the first `j` of its parts the path stands before something that is no mapping. -/
def Blocks (v : Value) (path : List String) (j : Nat) : Prop :=
  j < path.length ∧ ∃ w, v.at? (path.take j) = some w ∧ ∀ entries, w ≠ map entries

theorem blocks_zero_iff {part : String} :
    v.Blocks (part :: path) 0 ↔ ∀ entries, v ≠ map entries := by
  constructor
  · rintro ⟨-, w, hw, hleaf⟩
    obtain rfl : v = w := Option.some.inj hw
    exact hleaf
  · intro hleaf
    exact ⟨Nat.zero_lt_succ _, v, rfl, hleaf⟩

theorem not_blocks_succ_of_leaf (hv : ∀ entries, v ≠ map entries) {part : String} {j : Nat} :
    ¬ v.Blocks (part :: path) (j + 1) := by
  rintro ⟨-, w, hw, -⟩
  cases v with
  | map entries => exact hv entries rfl
  | _ => cases hw

/-- Nothing is in the way below an empty mapping. -/
theorem not_blocks_empty (path : List String) (j : Nat) : ¬ (map []).Blocks path j := by
  rintro ⟨-, w, hw, hleaf⟩
  cases htake : path.take j with
  | nil =>
    rw [htake] at hw
    exact hleaf [] (Option.some.inj hw).symm
  | cons part rest =>
    rw [htake] at hw
    cases hw

theorem blocks_succ_iff {entries : List (Value × Value)} {part : String} {j : Nat} :
    (map entries).Blocks (part :: path) (j + 1) ↔
      ((find? (text part) entries).getD (map [])).Blocks path j := by
  cases hfind : find? (text part) entries with
  | some child =>
    refine and_congr Nat.succ_lt_succ_iff (exists_congr fun w => ?_)
    rw [List.take_succ_cons, at?_cons, hfind]
    rfl
  | none =>
    refine iff_of_false ?_ (not_blocks_empty path j)
    rintro ⟨-, w, hw, -⟩
    rw [List.take_succ_cons, at?_cons, hfind] at hw
    cases hw

/-- **What refuses a value** : something in its way, and the error tells how far the way was. -/
theorem assign_eq_error_iff {o : Obstacle} :
    v.assign new path = .error o ↔
      ∃ j, v.Blocks path j ∧ o = if j + 1 = path.length then .atLastPart else .onTheWay := by
  induction path generalizing v with
  | nil =>
    constructor
    · intro h
      cases h
    · rintro ⟨j, ⟨hj, -⟩, -⟩
      cases hj
  | cons part path ih =>
    by_cases hmap : ∃ entries, v = map entries
    · obtain ⟨entries, rfl⟩ := hmap
      rw [assign_cons, Outcome.map_eq_error_iff, ih]
      constructor
      · rintro ⟨j, hj, ho⟩
        exact ⟨j + 1, blocks_succ_iff.mpr hj, by simpa using ho⟩
      · rintro ⟨j, hj, ho⟩
        cases j with
        | zero => exact absurd rfl (blocks_zero_iff.mp hj entries)
        | succ j => exact ⟨j, blocks_succ_iff.mp hj, by simpa using ho⟩
    · have hleaf : ∀ entries, v ≠ map entries := fun entries heq => hmap ⟨entries, heq⟩
      rw [assign_of_leaf hleaf]
      constructor
      · intro h
        cases h
        exact ⟨0, blocks_zero_iff.mpr hleaf, by simp⟩
      · rintro ⟨j, hj, ho⟩
        cases j with
        | zero => rw [ho]; simp
        | succ j => exact absurd hj (not_blocks_succ_of_leaf hleaf)

theorem assign_empty_ne_error (new : Value) (path : List String) (o : Obstacle) :
    (map []).assign new path ≠ .error o := by
  intro h
  obtain ⟨j, hj, -⟩ := assign_eq_error_iff.mp h
  exact not_blocks_empty path j hj

/-! ### Changing as one goes -/

/-- Puts a value at the end of a path in place: what is changed stays changed, also if the
walk then fails.  Gives what has become of `v`, and what the walk ran into. -/
def walk (new : Value) : List String → Value → Value × Option Obstacle
  | [], _ => (new, none)
  | [part], map entries => (map (put (.text part) new entries), none)
  | [_], v => (v, some .atLastPart)
  | part :: next :: parts, map entries =>
    -- a mapping that is missing is made here, and what becomes of it is kept in any case
    let (child, met) := walk new (next :: parts) ((find? (.text part) entries).getD (map []))
    (map (put (.text part) child entries), met)
  | _ :: _ :: _, v => (v, some .onTheWay)

theorem walk_cons (new : Value) (entries : List (Value × Value)) (part : String)
    (path : List String) :
    walk new (part :: path) (map entries) =
      (map (put (text part) (walk new path ((find? (text part) entries).getD (map []))).1 entries),
        (walk new path ((find? (text part) entries).getD (map []))).2) := by
  cases path <;> rfl

/-- To put a key's own value under it again changes nothing. -/
theorem put_of_find?_eq_some {k : Value} {entries : List (Value × Value)}
    (h : find? k entries = some v) : put k v entries = entries := by
  induction entries with
  | nil => cases h
  | cons e rest ih =>
    rw [find?_cons] at h
    rw [put]
    by_cases hsame : e.1.sameKey k = true
    · rw [if_pos hsame] at h ⊢
      rw [← Option.some.inj h]
    · rw [if_neg hsame] at h ⊢
      rw [ih h]

/-- **A walk that fails has changed nothing**, and one that succeeds has put the value. -/
theorem walk_eq (new : Value) (path : List String) (v : Value) :
    walk new path v =
      match v.assign new path with
      | .ok result => (result, none)
      | .error o => (v, some o) := by
  induction path generalizing v with
  | nil => rfl
  | cons part path ih =>
    by_cases hmap : ∃ entries, v = map entries
    · obtain ⟨entries, rfl⟩ := hmap
      rw [walk_cons, ih, assign_cons]
      cases hfind : find? (text part) entries with
      | some child =>
        rw [Option.getD_some]
        cases child.assign new path with
        | ok result => rfl
        | error o =>
          rw [Outcome.map_error]
          dsimp only
          rw [put_of_find?_eq_some hfind]
      | none =>
        -- the mapping that was made is empty, so the walk below it does not fail
        rw [Option.getD_none]
        cases hassign : (map []).assign new path with
        | ok result => rfl
        | error o => exact absurd hassign (assign_empty_ne_error new path o)
    · have hleaf : ∀ entries, v ≠ map entries := fun entries heq => hmap ⟨entries, heq⟩
      rw [assign_of_leaf hleaf]
      cases v with
      | map entries => exact absurd rfl (hleaf entries)
      | _ => cases path <;> rfl

end Value

namespace Settings

variable {settings : Settings} {key : String} {new : Document} {source : Source}

theorem set_eq_error_iff {o : Value.Obstacle} :
    settings.set key new source = .error o ↔
      ∃ d, settings.document source = some d ∧
        d.value.assign new.value (parts key) = .error o := by
  have hassign : settings.set key new source = .error o ↔
      ((settings.document source).getD .empty).value.assign new.value (parts key) = .error o :=
    Outcome.map_eq_error_iff.trans Outcome.map_eq_error_iff
  rw [hassign]
  cases settings.document source with
  | some d => simp
  | none =>
    -- a layer that is made refuses nothing
    refine iff_of_false (Value.assign_empty_ne_error new.value (parts key) o) ?_
    rintro ⟨d, hd, -⟩
    cases hd

theorem setDocument_document (settings : Settings) (source : Source) :
    settings.setDocument source (settings.document source) = settings := by
  have hdocument :
      (settings.setDocument source (settings.document source)).document = settings.document := by
    funext s
    by_cases hs : s = source
    · rw [hs, document_setDocument_self]
    · rw [document_setDocument_of_ne hs]
  exact congrArg Settings.mk hdocument

/-- Sets a value in place: a layer that is missing is made, and then the walk goes down.  What
it has changed by then is kept, also if it fails. -/
def setInPlace (settings : Settings) (key : String) (new : Document) (source : Source) :
    Settings × Option Value.Obstacle :=
  let d := (settings.document source).getD .empty
  match Value.walk new.value (parts key) d.value with
  | (value, none) => (settings.setDocument source (some (d.spread new (parts key) value)), none)
  | (value, some o) => (settings.setDocument source (some ⟨value, d.shared⟩), some o)

/-- Where the value is refused no layer is changed, and none is made. -/
theorem setInPlace_eq (settings : Settings) (key : String) (new : Document) (source : Source) :
    settings.setInPlace key new source =
      match settings.set key new source with
      | .ok changed => (changed, none)
      | .error o => (settings, some o) := by
  rw [setInPlace, Value.walk_eq]
  cases hset : settings.set key new source with
  | ok changed =>
    obtain ⟨d, hd, rfl⟩ := set_eq_ok_iff.mp hset
    obtain ⟨v, hv, rfl⟩ := Document.write_eq_ok_iff.mp hd
    rw [hv]
  | error o =>
    obtain ⟨d, hd, hrefused⟩ := set_eq_error_iff.mp hset
    rw [hd, Option.getD_some, hrefused]
    dsimp only
    rw [← hd, setDocument_document]

/-- In the layer of the source the first `j` parts of the key, one at least, lead to something
that is no mapping. -/
def Blocks (settings : Settings) (source : Source) (key : String) (j : Nat) : Prop :=
  1 ≤ j ∧ ∃ layer, settings.layer source = some layer ∧ layer.Blocks (parts key) j

theorem blocks_of_layer {layer : Value} (hlayer : settings.layer source = some layer)
    (hmap : ∃ entries, layer = .map entries) {j : Nat} (h : layer.Blocks (parts key) j) :
    settings.Blocks source key j := by
  refine ⟨Nat.one_le_iff_ne_zero.mpr ?_, layer, hlayer, h⟩
  rintro rfl
  obtain ⟨entries, rfl⟩ := hmap
  obtain ⟨part, path, hparts⟩ := List.exists_cons_of_ne_nil (parts_ne_nil key)
  rw [hparts] at h
  exact Value.blocks_zero_iff.mp h entries rfl

/-- **When a value is refused.**  In settings whose layers are mappings a value is refused if
and only if some of the parts of its key, but not all, lead in the layer of the source to
something that is no mapping; the error tells whether all parts but the last do.  If it is
set in place and refused, all layers are as they were, and none is made. -/
theorem set_refused_iff_blocked
    (hlayers : ∀ s layer, settings.layer s = some layer → ∃ entries, layer = .map entries)
    (key : String) (new : Document) (source : Source) :
    ((∃ o, settings.set key new source = .error o) ↔ ∃ j, settings.Blocks source key j) ∧
    (∀ j, settings.Blocks source key j → (∀ i, settings.Blocks source key i → j ≤ i) →
      settings.set key new source =
        .error (if j + 1 = (parts key).length then .atLastPart else .onTheWay)) ∧
    settings.setInPlace key new source =
      match settings.set key new source with
      | .ok changed => (changed, none)
      | .error o => (settings, some o) := by
  have herror : ∀ j, settings.Blocks source key j → settings.set key new source =
      .error (if j + 1 = (parts key).length then .atLastPart else .onTheWay) := by
    rintro j ⟨-, layer, hlayer, hblocks⟩
    obtain ⟨d, hd, rfl⟩ := layer_eq_some_iff.mp hlayer
    exact set_eq_error_iff.mpr ⟨d, hd, Value.assign_eq_error_iff.mpr ⟨j, hblocks, rfl⟩⟩
  refine ⟨⟨?_, ?_⟩, fun j hj _ => herror j hj, setInPlace_eq settings key new source⟩
  · rintro ⟨o, ho⟩
    obtain ⟨d, hd, hassign⟩ := set_eq_error_iff.mp ho
    have hlayer : settings.layer source = some d.value := layer_eq_some_iff.mpr ⟨d, hd, rfl⟩
    obtain ⟨j, hj, -⟩ := Value.assign_eq_error_iff.mp hassign
    exact ⟨j, blocks_of_layer hlayer (hlayers source d.value hlayer) hj⟩
  · rintro ⟨j, hj⟩
    exact ⟨_, herror j hj⟩

/-- The root of the rules is null by default, and null is no mapping. -/
theorem set_refused_iff_blocked_root :
    Reachable Yaml.read initial ∧
      initial.set "rules.root.a.b" (.plain (.int 1)) .defaults = .error .onTheWay ∧
      initial.setInPlace "rules.root.a.b" (.plain (.int 1)) .defaults =
        (initial, some .onTheWay) := by
  have hstart : Reachable Yaml.read initial :=
    @Reachable.start Yaml.read ⟨[]⟩ (fun _ => none) none none initial rfl
  obtain ⟨-, herror, hplace⟩ := set_refused_iff_blocked
    (fun s layer hlayer => (wellKeyed_of_reachable Yaml.wellKeyed_read hstart s layer hlayer).2)
    "rules.root.a.b" (.plain (.int 1)) .defaults
  have hblocks : initial.Blocks .defaults "rules.root.a.b" 2 :=
    ⟨by decide, defaults, rfl, by decide, .null, rfl, fun entries => Value.noConfusion⟩
  -- one part of the key leads to the section of the rules, which is a mapping
  have hleast : ∀ i, initial.Blocks .defaults "rules.root.a.b" i → 2 ≤ i := by
    rintro (_ | _ | i) ⟨hi, layer, hlayer, -, w, hw, hleaf⟩
    · cases hi
    · obtain rfl := Option.some.inj hlayer
      obtain rfl := Option.some.inj hw
      exact absurd rfl (hleaf _)
    · exact Nat.le_add_left 2 i
  have hset := herror 2 hblocks hleast
  refine ⟨hstart, hset, ?_⟩
  rw [hplace, hset]
  rfl

end Settings

end ExcludeRules
