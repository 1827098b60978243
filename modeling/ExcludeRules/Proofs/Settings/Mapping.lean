/-
Mappings of values, as look-ups.

In a well-keyed value the keys of every mapping can be keys, and no two of them are
one.  Such mappings are told by what is found under each key; the part of a path is
a text, which is one with itself only.  When mappings are merged, what a path finds
comes from the higher one where the path leads to something there, and otherwise is
what the path found below, unless something on its way is now replaced.
Main statements:
  * `find?_put_of_ne`, `wellKeyed_put` : one entry more, or one changed;
  * `find?_mergeEntries` : what a merger holds under a text;
  * `at?_mergeEntries` : what a path finds in a merger;
  * `assign_cons_eq_ok_iff`, `wellKeyed_assign` : a value put at the end of a path.
-/
import ExcludeRules.Proofs.Outcome
import ExcludeRules.Settings.Layers

namespace ExcludeRules.Value

/-! ### Keys -/

theorem sameKey_text_iff {k : Value} {s : String} : k.sameKey (text s) = true ↔ k = text s := by
  cases k with
  | text t => rw [sameKey, beq_iff_eq, Value.text.injEq]
  | float x =>
    -- a number may be an integer or not, and a text is neither
    cases hx : Decimal.integer? x <;> simp [sameKey, integer?, hx]
  | _ => simp [sameKey, integer?]

theorem text_sameKey_iff {k : Value} {s : String} : (text s).sameKey k = true ↔ k = text s := by
  cases k with
  | text t =>
    rw [sameKey, beq_iff_eq, Value.text.injEq]
    exact eq_comm
  | float x => cases hx : Decimal.integer? x <;> simp [sameKey, integer?, hx]
  | _ => simp [sameKey, integer?]

theorem sameKey_self {k : Value} (h : k.isKey = true) : k.sameKey k = true := by
  cases k with
  | null => rfl
  | bool b => simp [sameKey, integer?]
  | int n => simp [sameKey, integer?]
  | float x => cases hx : Decimal.integer? x <;> simp [sameKey, integer?, hx]
  | text s => simp [sameKey]
  | bytes bs => simp [sameKey]
  | list items => cases h
  | set members => cases h
  | map entries => cases h
  | other kind s => simp [sameKey]

/-- The entries hold something under the key. -/
def HasKey (k : Value) (entries : List (Value × Value)) : Prop :=
  ∃ e ∈ entries, e.1.sameKey k = true

/-- In every mapping the keys can be keys, and no two of them are one. -/
inductive WellKeyed : Value → Prop
  | leaf {v : Value} (h : ∀ entries, v ≠ map entries) : WellKeyed v
  | mapping {entries : List (Value × Value)} (hkeys : ∀ e ∈ entries, e.1.isKey = true)
      (hdistinct : entries.Pairwise fun e f => e.1.sameKey f.1 = false)
      (hvalues : ∀ e ∈ entries, WellKeyed e.2) : WellKeyed (map entries)

variable {entries : List (Value × Value)} {k v : Value} {s : String}

theorem wellKeyed_map_iff :
    (map entries).WellKeyed ↔ (∀ e ∈ entries, e.1.isKey = true) ∧
      (entries.Pairwise fun e f => e.1.sameKey f.1 = false) ∧
      ∀ e ∈ entries, e.2.WellKeyed := by
  constructor
  · intro h
    cases h with
    | leaf h => exact absurd rfl (h entries)
    | mapping hkeys hdistinct hvalues => exact ⟨hkeys, hdistinct, hvalues⟩
  · rintro ⟨hkeys, hdistinct, hvalues⟩
    exact .mapping hkeys hdistinct hvalues

theorem wellKeyed_nil : (map []).WellKeyed :=
  .mapping (List.forall_mem_nil _) .nil (List.forall_mem_nil _)

theorem wellKeyed_cons_iff {e : Value × Value} :
    (map (e :: entries)).WellKeyed ↔ e.1.isKey = true ∧ e.2.WellKeyed ∧
      (∀ f ∈ entries, e.1.sameKey f.1 = false) ∧ (map entries).WellKeyed := by
  rw [wellKeyed_map_iff, wellKeyed_map_iff, List.forall_mem_cons, List.forall_mem_cons,
    List.pairwise_cons]
  constructor
  · rintro ⟨⟨hk, hkeys⟩, ⟨hne, hdistinct⟩, hv, hvalues⟩
    exact ⟨hk, hv, hne, hkeys, hdistinct, hvalues⟩
  · rintro ⟨hk, hv, hne, hkeys, hdistinct, hvalues⟩
    exact ⟨⟨hk, hkeys⟩, ⟨hne, hdistinct⟩, hv, hvalues⟩

/-! ### Look-ups -/

theorem find?_cons (e : Value × Value) (k : Value) (entries : List (Value × Value)) :
    find? k (e :: entries) = if e.1.sameKey k then some e.2 else find? k entries := by
  rw [find?, List.find?_cons]
  cases e.1.sameKey k <;> rfl

/-- What is found stands in an entry whose key is one with the key that was asked for. -/
theorem exists_mem_of_find?_eq_some (h : find? k entries = some v) :
    ∃ e ∈ entries, e.1.sameKey k = true ∧ e.2 = v := by
  obtain ⟨e, he, rfl⟩ := Option.map_eq_some_iff.mp h
  have hsame := List.find?_some he
  exact ⟨e, List.mem_of_find?_eq_some he, hsame, rfl⟩

theorem WellKeyed.of_find? (h : (map entries).WellKeyed) (hfind : find? k entries = some v) :
    v.WellKeyed := by
  obtain ⟨e, he, -, rfl⟩ := exists_mem_of_find?_eq_some hfind
  exact (wellKeyed_map_iff.mp h).2.2 e he

/-- Beside the first entry of its key, a text finds nothing. -/
theorem find?_eq_none_of_ne (h : ∀ e ∈ entries, (text s).sameKey e.1 = false) :
    find? (text s) entries = none := by
  rw [find?, Option.map_eq_none_iff, List.find?_eq_none]
  intro e he hsame
  have hkey : e.1 = text s := sameKey_text_iff.mp hsame
  have hne := h e he
  rw [hkey, sameKey_text_iff.mpr rfl] at hne
  cases hne

theorem find?_put_of_ne (hk : k ≠ text s) :
    find? (text s) (put k v entries) = find? (text s) entries := by
  have hother : k.sameKey (text s) ≠ true := fun hsame => hk (sameKey_text_iff.mp hsame)
  induction entries with
  | nil => rw [put, find?_cons, if_neg hother]
  | cons e rest ih =>
    rw [put]
    by_cases hsame : e.1.sameKey k = true
    · -- a key that is one with `k` is no text either
      have hne : e.1.sameKey (text s) ≠ true := by
        intro htext
        rw [sameKey_text_iff.mp htext] at hsame
        exact hk (text_sameKey_iff.mp hsame)
      rw [if_pos hsame, find?_cons, find?_cons, if_neg hne, if_neg hne]
    · rw [if_neg hsame, find?_cons, find?_cons, ih]

/-! ### One entry more -/

/-- What stands in the entries after one is put there: an entry of before, or the new value. -/
theorem mem_put {e : Value × Value} (h : e ∈ put k v entries) :
    e ∈ entries ∨ e.2 = v ∧ (e.1 = k ∨ ∃ f ∈ entries, f.1 = e.1) := by
  induction entries with
  | nil =>
    obtain rfl := List.mem_singleton.mp h
    exact .inr ⟨rfl, .inl rfl⟩
  | cons f rest ih =>
    rw [put] at h
    by_cases hsame : f.1.sameKey k = true
    · rw [if_pos hsame] at h
      rcases List.mem_cons.mp h with rfl | h
      · exact .inr ⟨rfl, .inr ⟨f, List.mem_cons_self .., rfl⟩⟩
      · exact .inl (List.mem_cons_of_mem _ h)
    · rw [if_neg hsame] at h
      rcases List.mem_cons.mp h with rfl | h
      · exact .inl (List.mem_cons_self ..)
      · rcases ih h with h | ⟨hv, hk | ⟨g, hg, hkey⟩⟩
        · exact .inl (List.mem_cons_of_mem _ h)
        · exact .inr ⟨hv, .inl hk⟩
        · exact .inr ⟨hv, .inr ⟨g, List.mem_cons_of_mem _ hg, hkey⟩⟩

/-- Putting an entry keeps each key in its place, and adds its own only if none is one with it. -/
theorem keys_put (k v : Value) (entries : List (Value × Value)) :
    (put k v entries).map Prod.fst = entries.map Prod.fst ∨
      (∀ e ∈ entries, e.1.sameKey k = false) ∧
        (put k v entries).map Prod.fst = entries.map Prod.fst ++ [k] := by
  induction entries with
  | nil => exact .inr ⟨List.forall_mem_nil _, rfl⟩
  | cons e rest ih =>
    rw [put]
    by_cases hsame : e.1.sameKey k = true
    · rw [if_pos hsame]
      exact .inl rfl
    · rw [if_neg hsame, List.map_cons, List.map_cons]
      rcases ih with h | ⟨hnone, h⟩
      · exact .inl (by rw [h])
      · refine .inr ⟨List.forall_mem_cons.mpr ⟨by simpa using hsame, hnone⟩, ?_⟩
        rw [h, List.cons_append]

theorem wellKeyed_put (h : (map entries).WellKeyed) (hk : k.isKey = true) (hv : v.WellKeyed) :
    (map (put k v entries)).WellKeyed := by
  obtain ⟨hkeys, hdistinct, hvalues⟩ := wellKeyed_map_iff.mp h
  refine .mapping ?_ ?_ ?_
  · intro e he
    rcases mem_put he with he | ⟨-, rfl | ⟨f, hf, hkey⟩⟩
    · exact hkeys e he
    · exact hk
    · exact hkey ▸ hkeys f hf
  · -- being one is a matter of the keys alone, and these are the old ones and perhaps `k`
    have hmap : ∀ es : List (Value × Value),
        (es.map Prod.fst).Pairwise (fun a b => a.sameKey b = false) ↔
          es.Pairwise fun e f => e.1.sameKey f.1 = false :=
      fun es => List.pairwise_map
    rw [← hmap] at hdistinct ⊢
    rcases keys_put k v entries with heq | ⟨hnone, heq⟩
    · rw [heq]
      exact hdistinct
    · rw [heq, List.pairwise_append]
      refine ⟨hdistinct, List.pairwise_singleton _ _, ?_⟩
      intro a ha b hb
      obtain ⟨e, he, rfl⟩ := List.mem_map.mp ha
      obtain rfl := List.mem_singleton.mp hb
      exact hnone e he
  · intro e he
    rcases mem_put he with he | ⟨rfl, -⟩
    · exact hvalues e he
    · exact hv

theorem HasKey.put {q : Value} (h : HasKey q entries) (k v : Value) :
    HasKey q (put k v entries) := by
  have hkeys : ∀ es, HasKey q es ↔ ∃ a ∈ es.map Prod.fst, a.sameKey q = true := by
    intro es
    constructor
    · rintro ⟨e, he, hsame⟩
      exact ⟨e.1, List.mem_map_of_mem he, hsame⟩
    · rintro ⟨a, ha, hsame⟩
      obtain ⟨e, he, rfl⟩ := List.mem_map.mp ha
      exact ⟨e, he, hsame⟩
  rw [hkeys] at h ⊢
  obtain ⟨a, ha, hsame⟩ := h
  rcases keys_put k v entries with heq | ⟨-, heq⟩
  · exact ⟨a, heq ▸ ha, hsame⟩
  · exact ⟨a, heq ▸ List.mem_append_left _ ha, hsame⟩

theorem hasKey_put_self (hk : k.isKey = true) (v : Value) (entries : List (Value × Value)) :
    HasKey k (put k v entries) := by
  have hfind : find? k (Value.put k v entries) = some v := find?_put_self (sameKey_self hk)
  obtain ⟨e, he, hsame, -⟩ := exists_mem_of_find?_eq_some hfind
  exact ⟨e, he, hsame⟩

/-! ### Mergers -/

theorem HasKey.mergeEntries {q : Value} {low : List (Value × Value)} (h : HasKey q low)
    (high : List (Value × Value)) : HasKey q (mergeEntries low high) := by
  induction high generalizing low with
  | nil =>
    rw [Value.mergeEntries]
    exact h
  | cons e high ih =>
    rw [Value.mergeEntries]
    exact ih (h.put _ _)

/-- A merger has every key of the higher mapping. -/
theorem hasKey_mergeEntries {low high : List (Value × Value)}
    (hkeys : ∀ e ∈ high, e.1.isKey = true) {e : Value × Value} (he : e ∈ high) :
    HasKey e.1 (mergeEntries low high) := by
  induction high generalizing low with
  | nil => cases he
  | cons f high ih =>
    obtain ⟨hf, hkeys⟩ := List.forall_mem_cons.mp hkeys
    rw [mergeEntries]
    rcases List.mem_cons.mp he with rfl | he
    · exact (hasKey_put_self hf _ _).mergeEntries high
    · exact ih hkeys he

/-- What a merger holds under a text: what the lower mapping holds, or the higher over it. -/
theorem find?_mergeEntries {low high : List (Value × Value)} (h : (map high).WellKeyed) :
    find? (text s) (mergeEntries low high) =
      match find? (text s) high with
      | none => find? (text s) low
      | some v => some (mergeValue (find? (text s) low) v) := by
  induction high generalizing low with
  | nil => rw [mergeEntries]; rfl
  | cons e high ih =>
    obtain ⟨k, v⟩ := e
    obtain ⟨-, -, hne, hhigh⟩ := wellKeyed_cons_iff.mp h
    rw [mergeEntries, ih hhigh, find?_cons]
    by_cases hk : k = text s
    · -- the text is found here, and in no entry after this one
      subst hk
      rw [find?_eq_none_of_ne hne, if_pos (sameKey_text_iff.mpr rfl),
        find?_put_self (sameKey_text_iff.mpr rfl)]
    · rw [find?_put_of_ne hk, if_neg fun hsame => hk (sameKey_text_iff.mp hsame)]

/-- Only a mapping is merged, and only with a mapping. -/
theorem mergeValue_eq_self {below : Option Value} {v : Value}
    (h : ∀ low high, below = some (map low) → v ≠ map high) : mergeValue below v = v := by
  cases v with
  | map high =>
    rw [mergeValue]
    intro low hlow
    exact h low high hlow rfl
  | _ => rw [mergeValue]; intro high; exact Value.noConfusion

/-! ### Paths -/

theorem at?_cons (entries : List (Value × Value)) (part : String) (path : List String) :
    (map entries).at? (part :: path) =
      (find? (text part) entries).bind fun child => child.at? path := by
  rw [at?]

/-- No path leads through a value that is no mapping. -/
theorem eq_of_at?_leaf (hv : ∀ entries, v ≠ map entries) {path : List String} {w : Value}
    (h : v.at? path = some w) : w = v := by
  cases path with
  | nil =>
    rw [at?] at h
    exact (Option.some.inj h).symm
  | cons part path =>
    cases v with
    | map entries => exact absurd rfl (hv entries)
    | _ => cases h

/-- **What a path finds in a merger.**  Where it leads to something in the higher mapping,
that is taken over what it finds in the lower one; otherwise it finds what it found in
the lower mapping. -/
theorem at?_mergeEntries {low high : List (Value × Value)} (hhigh : (map high).WellKeyed)
    {path : List String} (h : (map (mergeEntries low high)).at? path = some v) :
    (∃ w, (map high).at? path = some w ∧ v = mergeValue ((map low).at? path) w) ∨
      (map high).at? path = none ∧ (map low).at? path = some v := by
  induction path generalizing low high with
  | nil =>
    rw [at?] at h
    refine .inl ⟨map high, rfl, ?_⟩
    rw [← Option.some.inj h, at?, mergeValue]
  | cons part path ih =>
    rw [at?_cons, find?_mergeEntries hhigh] at h
    rw [at?_cons, at?_cons]
    cases hfind : find? (text part) high with
    | none =>
      rw [hfind] at h
      exact .inr ⟨rfl, h⟩
    | some x =>
      rw [hfind] at h
      dsimp only [Option.bind_some] at h ⊢
      by_cases hx : ∃ xs, x = map xs
      · obtain ⟨xs, rfl⟩ := hx
        by_cases hlow : ∃ ls, find? (text part) low = some (map ls)
        · -- two mappings are merged in their turn
          obtain ⟨ls, hls⟩ := hlow
          rw [hls, mergeValue] at h
          rw [hls]
          exact ih (hhigh.of_find? hfind) h
        · -- the mapping replaces what is no mapping, and no path led through that
          have hreplaced : ∀ ls, find? (text part) low ≠ some (map ls) :=
            fun ls hls => hlow ⟨ls, hls⟩
          rw [mergeValue_eq_self fun ls _ hls => absurd hls (hreplaced ls)] at h
          refine .inl ⟨v, h, (mergeValue_eq_self fun ls _ hls => ?_).symm⟩
          cases hl : find? (text part) low with
          | none =>
            rw [hl] at hls
            cases hls
          | some l =>
            rw [hl] at hls
            have hleaf : ∀ es, l ≠ map es := fun es hes => hreplaced es (hes ▸ hl)
            exact absurd (eq_of_at?_leaf hleaf hls).symm (hleaf ls)
      · have hleaf : ∀ es, x ≠ map es := fun es hes => hx ⟨es, hes⟩
        rw [mergeValue_eq_self fun _ high _ => hleaf high] at h
        obtain rfl : v = x := eq_of_at?_leaf hleaf h
        exact .inl ⟨v, h, (mergeValue_eq_self fun _ high _ => hleaf high).symm⟩

/-! ### A value at the end of a path -/

theorem assign_cons (new : Value) (entries : List (Value × Value)) (part : String)
    (path : List String) :
    (map entries).assign new (part :: path) =
      (fun child => map (put (text part) child entries)) <$>
        ((find? (text part) entries).getD (map [])).assign new path := by
  cases path with
  | nil => rfl
  | cons next path =>
    rw [assign]
    cases ((find? (text part) entries).getD (map [])).assign new (next :: path) <;> rfl

theorem assign_of_leaf (hv : ∀ entries, v ≠ map entries) (new : Value) (part : String)
    (path : List String) :
    v.assign new (part :: path) = .error (if path = [] then .atLastPart else .onTheWay) := by
  cases v with
  | map entries => exact absurd rfl (hv entries)
  | _ => cases path <;> rfl

theorem assign_cons_eq_ok_iff {new result : Value} {part : String} {path : List String} :
    v.assign new (part :: path) = .ok result ↔
      ∃ entries child, v = map entries ∧
        ((find? (text part) entries).getD (map [])).assign new path = .ok child ∧
        result = map (put (text part) child entries) := by
  constructor
  · intro h
    by_cases hmap : ∃ entries, v = map entries
    · obtain ⟨entries, rfl⟩ := hmap
      rw [assign_cons] at h
      obtain ⟨child, hchild, rfl⟩ := Outcome.map_eq_ok_iff.mp h
      exact ⟨entries, child, rfl, hchild, rfl⟩
    · rw [assign_of_leaf fun entries heq => hmap ⟨entries, heq⟩] at h
      cases h
  · rintro ⟨entries, child, rfl, hchild, rfl⟩
    rw [assign_cons, hchild, Outcome.map_ok]

theorem wellKeyed_assign {new result : Value} (hnew : new.WellKeyed) {path : List String}
    (hv : v.WellKeyed) (h : v.assign new path = .ok result) :
    result.WellKeyed ∧ (path ≠ [] → ∃ entries, result = map entries) := by
  induction path generalizing v result with
  | nil =>
    cases h
    exact ⟨hnew, fun hne => absurd rfl hne⟩
  | cons part path ih =>
    obtain ⟨entries, child, rfl, hchild, rfl⟩ := assign_cons_eq_ok_iff.mp h
    have hbefore : ((find? (text part) entries).getD (map [])).WellKeyed := by
      cases hfind : find? (text part) entries with
      | none => exact wellKeyed_nil
      | some w => exact hv.of_find? hfind
    exact ⟨wellKeyed_put hv rfl (ih hbefore hchild).1, fun _ => ⟨_, rfl⟩⟩

end ExcludeRules.Value
