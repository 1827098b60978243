/-
Contexts that are merged.

A context that others are merged into holds the keys of all of them, each in the place where
it first came, with the value that came last.  Main statements:
  * `IsMerged.merge` : what is merged on top is what comes last;
  * `merge_merge_self` : merging once more what was merged already changes nothing.
-/
import ExcludeRules.Proofs.Log.Delivery

namespace ExcludeRules.Log

theorem eraseDups_concat_of_mem {α : Type} [BEq α] [LawfulBEq α] {a : α} {l : List α}
    (h : a ∈ l) : (l ++ [a]).eraseDups = l.eraseDups := by
  rw [List.eraseDups_append, List.removeAll, List.filter_cons_of_neg (by simp [h])]
  simp

theorem eraseDups_concat_of_not_mem {α : Type} [BEq α] [LawfulBEq α] {a : α} {l : List α}
    (h : a ∉ l) : (l ++ [a]).eraseDups = l.eraseDups ++ [a] := by
  rw [List.eraseDups_append, List.removeAll, List.filter_cons_of_pos (by simp [h])]
  rfl

namespace Context

def keys (context : Context) : List String := context.map (·.1)

theorem keys_append (context more : Context) :
    keys (context ++ more) = context.keys ++ more.keys := List.map_append

/-- Each key of the entries stands once, where it came first, with the value that came last. -/
structure IsMerged (context entries : Context) : Prop where
  keys_eq : context.keys = entries.keys.eraseDups
  lookup_eq : ∀ key, context.lookup key = entries.reverse.lookup key

theorem keys_set_of_mem {key : String} {context : Context} (h : key ∈ context.keys)
    (value : Value) : (context.set key value).keys = context.keys := by
  induction context with
  | nil => cases h
  | cons e rest ih =>
    obtain ⟨k, v⟩ := e
    by_cases hk : k = key
    · rw [set, if_pos hk]
      rfl
    · have hrest : key ∈ keys rest := (List.mem_cons.mp h).resolve_left (Ne.symm hk)
      rw [set, if_neg hk]
      exact congrArg (k :: ·) (ih hrest)

theorem set_of_not_mem {key : String} {context : Context} (h : key ∉ context.keys)
    (value : Value) : context.set key value = context ++ [(key, value)] := by
  induction context with
  | nil => rfl
  | cons e rest ih =>
    obtain ⟨k, v⟩ := e
    obtain ⟨hk, hrest⟩ := not_or.mp (fun hmem => h (List.mem_cons.mpr hmem))
    rw [set, if_neg (Ne.symm hk), ih hrest]
    rfl

namespace IsMerged

theorem nil : IsMerged [] [] := ⟨rfl, fun _ => rfl⟩

theorem set {context entries : Context} (h : IsMerged context entries) (key : String)
    (value : Value) : IsMerged (context.set key value) (entries ++ [(key, value)]) := by
  constructor
  · have hmem_iff : key ∈ context.keys ↔ key ∈ entries.keys := by
      rw [h.keys_eq, List.mem_eraseDups]
    rw [keys_append]
    by_cases hmem : key ∈ context.keys
    · rw [keys_set_of_mem hmem, h.keys_eq]
      exact (eraseDups_concat_of_mem (hmem_iff.mp hmem)).symm
    · rw [set_of_not_mem hmem, keys_append, h.keys_eq]
      exact (eraseDups_concat_of_not_mem fun hin => hmem (hmem_iff.mpr hin)).symm
  · intro k
    rw [List.reverse_append, List.reverse_singleton, List.singleton_append, lookup_cons_eq]
    by_cases hk : k = key
    · rw [if_pos hk, hk, lookup_set_self]
    · rw [if_neg hk, lookup_set_of_ne hk, h.lookup_eq]

/-- What is merged on top is what comes last. -/
theorem merge {context entries : Context} (h : IsMerged context entries) (inner : Context) :
    IsMerged (context.merge inner) (entries ++ inner) := by
  induction inner generalizing context entries with
  | nil => rwa [List.append_nil]
  | cons e inner ih =>
    rw [List.append_cons]
    exact ih (h.set e.1 e.2)

theorem foldl_merge {context entries : Context} (h : IsMerged context entries)
    (scopes : List Context) :
    IsMerged (scopes.foldl Context.merge context) (entries ++ scopes.flatten) := by
  induction scopes generalizing context entries with
  | nil => simpa using h
  | cons scope scopes ih =>
    rw [List.flatten_cons, ← List.append_assoc]
    exact ih (h.merge scope)

end IsMerged

theorem prefix_keys_set (key : String) (value : Value) (context : Context) :
    context.keys <+: (context.set key value).keys := by
  by_cases hmem : key ∈ context.keys
  · have heq := keys_set_of_mem hmem value
    exact heq ▸ List.prefix_rfl
  · rw [set_of_not_mem hmem, keys_append]
    exact List.prefix_append _ _

theorem nodup_keys_set {context : Context} (h : context.keys.Nodup) (key : String)
    (value : Value) : (context.set key value).keys.Nodup := by
  by_cases hmem : key ∈ context.keys
  · rwa [keys_set_of_mem hmem]
  · rw [set_of_not_mem hmem, keys_append]
    refine List.nodup_append.mpr ⟨h, List.pairwise_singleton _ _, fun k hk l hl hkl => ?_⟩
    obtain rfl : l = key := List.mem_singleton.mp hl
    exact hmem (hkl ▸ hk)

theorem prefix_keys_merge (context inner : Context) :
    context.keys <+: (context.merge inner).keys := by
  induction inner generalizing context with
  | nil => exact List.prefix_rfl
  | cons e inner ih => exact (prefix_keys_set e.1 e.2 context).trans (ih _)

theorem nodup_keys_merge {context : Context} (h : context.keys.Nodup) (inner : Context) :
    (context.merge inner).keys.Nodup := by
  induction inner generalizing context with
  | nil => exact h
  | cons e inner ih => exact ih (nodup_keys_set h e.1 e.2)

theorem nodup_keys_foldl_merge {context : Context} (h : context.keys.Nodup)
    (scopes : List Context) : (scopes.foldl merge context).keys.Nodup := by
  induction scopes generalizing context with
  | nil => exact h
  | cons scope scopes ih => exact ih (nodup_keys_merge h scope)

/-- Values of other keys are merged behind the first. -/
theorem merge_cons_of_not_mem {key : String} {inner : Context} (h : key ∉ inner.keys)
    (value : Value) (context : Context) :
    merge ((key, value) :: context) inner = (key, value) :: context.merge inner := by
  induction inner generalizing context with
  | nil => rfl
  | cons e inner ih =>
    obtain ⟨hkey, hinner⟩ := not_or.mp (fun hmem => h (List.mem_cons.mpr hmem))
    have hset : set e.1 e.2 ((key, value) :: context) = (key, value) :: context.set e.1 e.2 := by
      rw [set, if_neg hkey]
    rw [merge, List.foldl_cons, hset]
    exact ih hinner _

/-- What begins with the keys of a context takes its place. -/
theorem merge_of_prefix {context inner : Context} (h : context.keys <+: inner.keys)
    (hnodup : inner.keys.Nodup) : context.merge inner = inner := by
  induction inner generalizing context with
  | nil =>
    obtain rfl : context = [] := List.map_eq_nil_iff.mp (List.prefix_nil.mp h)
    rfl
  | cons e inner ih =>
    obtain ⟨key, value⟩ := e
    obtain ⟨hnot, hrest⟩ := List.nodup_cons.mp hnodup
    cases context with
    | nil =>
      have hset : merge [] ((key, value) :: inner) = merge [(key, value)] inner := rfl
      rw [hset, merge_cons_of_not_mem hnot, @ih [] List.nil_prefix hrest]
    | cons f context =>
      obtain ⟨k, v⟩ := f
      obtain ⟨hk, hprefix⟩ := List.cons_prefix_cons.mp h
      obtain rfl : k = key := hk
      -- the value of the first key is replaced where it stands
      have hset : merge ((k, v) :: context) ((k, value) :: inner) =
          merge ((k, value) :: context) inner := by
        rw [merge, List.foldl_cons, set, if_pos rfl]
        rfl
      rw [hset, merge_cons_of_not_mem hnot, ih hprefix hrest]

/-- Merging once more what was merged already changes nothing. -/
theorem merge_merge_self {context : Context} (h : context.keys.Nodup) (inner : Context) :
    context.merge (context.merge inner) = context.merge inner :=
  merge_of_prefix (prefix_keys_merge context inner) (nodup_keys_merge h inner)

end Context

end ExcludeRules.Log
