/-
A look-up finds what the merger of all layers shows.

A look-up goes through the layers from the highest and passes over null; the merger
is built from the lowest, and a value that is no mapping replaces whatever lay below
it.  Where the merger shows a value, a look-up of the same key finds it too: the
same value, or a mapping whose keys the merger all has.
Main statements:
  * `lookup_eq_some_iff` : what a key finds in one layer;
  * `exists_found_of_shown` : a merger of some layers, and a look-up in them;
  * `get_eq_of_merged` : a look-up in settings that some changes have led to.
-/
import ExcludeRules.Proofs.Settings.WellKeyed

namespace ExcludeRules

namespace Value

/-- `shown` is this value, or a mapping that has every key of it. -/
structure IsPartOf (found shown : Value) : Prop where
  eq_of_leaf : (∀ entries, shown ≠ map entries) → found = shown
  of_map : ∀ entries, shown = map entries →
    ∃ own, found = map own ∧ ∀ e ∈ own, HasKey e.1 entries

theorem WellKeyed.of_at? {v w : Value} (hv : v.WellKeyed) {path : List String}
    (h : v.at? path = some w) : w.WellKeyed := by
  induction path generalizing v with
  | nil =>
    rw [at?] at h
    exact Option.some.inj h ▸ hv
  | cons part path ih =>
    cases v with
    | map entries =>
      rw [at?_cons] at h
      obtain ⟨child, hchild, h⟩ := Option.bind_eq_some_iff.mp h
      exact ih (WellKeyed.of_find? hv hchild) h
    | _ => cases h

/-- A value is part of what it becomes when it is merged over another. -/
theorem isPartOf_mergeValue {w : Value} (hw : w.WellKeyed) (below : Option Value) :
    w.IsPartOf (mergeValue below w) := by
  by_cases hmap : ∃ high, w = map high
  · obtain ⟨high, rfl⟩ := hmap
    obtain ⟨hkeys, -, -⟩ := wellKeyed_map_iff.mp hw
    -- whatever lies below, the merger is a mapping that has all the keys
    have hmerger : ∃ entries, mergeValue below (map high) = map entries ∧
        ∀ e ∈ high, HasKey e.1 entries := by
      by_cases hbelow : ∃ low, below = some (map low)
      · obtain ⟨low, rfl⟩ := hbelow
        rw [mergeValue]
        exact ⟨_, rfl, fun e he => hasKey_mergeEntries hkeys he⟩
      · rw [mergeValue_eq_self fun low _ hlow => absurd ⟨low, hlow⟩ hbelow]
        exact ⟨high, rfl, fun e he => ⟨e, he, sameKey_self (hkeys e he)⟩⟩
    obtain ⟨entries, heq, hall⟩ := hmerger
    refine ⟨fun hleaf => absurd heq (hleaf entries), fun entries' heq' => ?_⟩
    obtain rfl : entries = entries' := Value.map.inj (heq.symm.trans heq')
    exact ⟨high, rfl, hall⟩
  · have hleaf : ∀ high, w ≠ map high := fun high h => hmap ⟨high, h⟩
    rw [mergeValue_eq_self fun _ high _ => hleaf high]
    exact ⟨fun _ => rfl, fun entries h => absurd h (hleaf entries)⟩

end Value

namespace Settings

variable {reader : Yaml.Reader} {settings : Settings} {key : String}

/-- A key finds in a layer what stands at the end of its path, unless that is null. -/
theorem lookup_eq_some_iff {source : Source} {found : Value} :
    settings.lookup source key = some found ↔
      (∃ layer, settings.layer source = some layer ∧ layer.at? (parts key) = some found) ∧
        found ≠ .null := by
  rw [← Option.bind_eq_some_iff, lookup]
  split
  · rename_i hnull
    constructor
    · intro h
      cases h
    · rintro ⟨h, hne⟩
      rw [hnull] at h
      exact absurd (Option.some.inj h).symm hne
  · rename_i hnull
    constructor
    · intro h
      refine ⟨h, ?_⟩
      rintro rfl
      exact hnull h
    · exact And.left

theorem lookup_of_at?_eq_none {source : Source} {layer : Value}
    (hlayer : settings.layer source = some layer) (h : layer.at? (parts key) = none) :
    settings.lookup source key = none := by
  rw [lookup, hlayer, Option.bind_some, h]

/-- The entries of the given layers, merged in their order. -/
def mergeLayers (settings : Settings) (sources : List Source) : Option (List (Value × Value)) :=
  (sources.filterMap settings.layer).foldlM
    (fun base layer => match layer with
      | .map high => some (Value.mergeEntries base high)
      | _ => none)
    []

theorem merged?_eq (settings : Settings) :
    settings.merged? = (settings.mergeLayers Source.all).map .map := by
  rw [Option.map_eq_bind]
  rfl

theorem mergeLayers_append_of_none {sources : List Source} {source : Source}
    (h : settings.layer source = none) :
    settings.mergeLayers (sources ++ [source]) = settings.mergeLayers sources := by
  have hnil : [source].filterMap settings.layer = [] := List.filterMap_cons_none h
  rw [mergeLayers, List.filterMap_append, hnil, List.append_nil, mergeLayers]

theorem mergeLayers_append_of_map {sources : List Source} {source : Source}
    {low high : List (Value × Value)} (hlow : settings.mergeLayers sources = some low)
    (h : settings.layer source = some (.map high)) :
    settings.mergeLayers (sources ++ [source]) = some (Value.mergeEntries low high) := by
  have hone : [source].filterMap settings.layer = [.map high] := List.filterMap_cons_some h
  rw [mergeLayers] at hlow ⊢
  rw [List.filterMap_append, List.foldlM_append, hlow, hone]
  rfl

/-- Layers can be merged, and what the merger shows under a key a look-up in them finds.
The sources are given as a look-up goes through them, the highest first. -/
theorem exists_found_of_shown (h : settings.WellKeyed) (sources : List Source) :
    ∃ entries, settings.mergeLayers sources.reverse = some entries ∧
      ∀ key shown, (Value.map entries).at? (parts key) = some shown → shown ≠ .null →
        ∃ found, sources.findSome? (settings.lookup · key) = some found ∧
          found.IsPartOf shown := by
  induction sources with
  | nil =>
    refine ⟨[], rfl, fun key shown hshown => ?_⟩
    obtain ⟨part, path, hparts⟩ := List.exists_cons_of_ne_nil (parts_ne_nil key)
    rw [hparts, Value.at?_cons] at hshown
    cases hshown
  | cons source sources ih =>
    obtain ⟨low, hlow, hfound⟩ := ih
    rw [List.reverse_cons]
    cases hlayer : settings.layer source with
    | none =>
      refine ⟨low, (mergeLayers_append_of_none hlayer).trans hlow, fun key shown hshown hne => ?_⟩
      have hnone : settings.lookup source key = none := by
        rw [lookup, hlayer]
        rfl
      rw [List.findSome?_cons, hnone]
      exact hfound key shown hshown hne
    | some layer =>
      obtain ⟨hwell, high, rfl⟩ := h source layer hlayer
      refine ⟨_, mergeLayers_append_of_map hlow hlayer, fun key shown hshown hne => ?_⟩
      rw [List.findSome?_cons]
      rcases Value.at?_mergeEntries hwell hshown with ⟨w, hw, rfl⟩ | ⟨hnone, hbelow⟩
      · -- the highest layer leads somewhere, and if to null, then the merger shows null
        have hwne : w ≠ .null := by
          rintro rfl
          exact hne (Value.mergeValue_eq_self fun _ _ _ => Value.noConfusion)
        rw [lookup_eq_some_iff.mpr ⟨⟨_, hlayer, hw⟩, hwne⟩]
        exact ⟨w, rfl, Value.isPartOf_mergeValue (hwell.of_at? hw) _⟩
      · rw [lookup_of_at?_eq_none hlayer hnone]
        exact hfound key shown hbelow hne

/-- **A look-up finds what the merger shows.**  In settings that any start and any
changes have led to, the layers can be merged; and if the path of a key leads in the
merger to a value other than null, some layer has a value for that key, the look-up
gives one whatever the default is, and it is the value shown, or a mapping of which
the mapping shown has every key. -/
theorem get_eq_of_merged (hread : reader.WellKeyed) (h : Reachable reader settings) :
    ∃ merged, settings.merged? = some merged ∧
      ∀ key shown, merged.at? (parts key) = some shown → shown ≠ .null →
        ∃ found, (∃ source, settings.lookup source key = some found) ∧ found ≠ .null ∧
          (∀ default, settings.get key default = found) ∧ found.IsPartOf shown := by
  obtain ⟨entries, hentries, hshows⟩ :=
    exists_found_of_shown (wellKeyed_of_reachable hread h) Source.all.reverse
  rw [List.reverse_reverse] at hentries
  refine ⟨.map entries, by rw [merged?_eq, hentries]; rfl, fun key shown hshown hne => ?_⟩
  obtain ⟨found, hfound, hpart⟩ := hshows key shown hshown hne
  obtain ⟨source, -, hsource⟩ := List.exists_of_findSome?_eq_some hfound
  refine ⟨found, ⟨source, hsource⟩, (lookup_eq_some_iff.mp hsource).2, fun default => ?_, hpart⟩
  rw [get, hfound]
  rfl

/-- A number replaces a section of the defaults, and a mapping replaces the number. -/
theorem get_eq_of_merged_replaced :
    ∃ settings merged, Yaml.Reader.WellKeyed Yaml.read ∧ Reachable Yaml.read settings ∧
      settings.merged? = some merged ∧
      merged.at? (parts "rules.root") = some (.text "/srv") ∧
      ∀ default, settings.get "rules.root" default = .text "/srv" := by
  have hstart : Reachable Yaml.read initial :=
    @Reachable.start Yaml.read ⟨[]⟩ (fun _ => none) none none initial rfl
  have hnumber : Change.WellKeyed (.set "rules" (.plain (.int 5)) .user) :=
    Value.WellKeyed.leaf fun entries => Value.noConfusion
  have hmapping : Change.WellKeyed
      (.loadMapping [(.text "rules", .map [(.text "root", .text "/srv")])] [] .runtime) := by
    simp [Change.WellKeyed, Value.wellKeyed_cons_iff, Value.wellKeyed_nil, Value.isKey,
      Value.WellKeyed.leaf]
  have hreach := (hstart.after hnumber).after hmapping
  obtain ⟨merged, hmerged, hget⟩ := get_eq_of_merged Yaml.wellKeyed_read hreach
  have hroot : merged.at? (parts "rules.root") = some (.text "/srv") := by
    obtain rfl := Option.some.inj hmerged
    rfl
  obtain ⟨found, -, -, hfound, hpart⟩ := hget "rules.root" _ hroot Value.noConfusion
  obtain rfl : found = .text "/srv" := hpart.eq_of_leaf fun entries => Value.noConfusion
  exact ⟨_, merged, Yaml.wellKeyed_read, hreach, hmerged, hroot, hfound⟩

end Settings

end ExcludeRules
