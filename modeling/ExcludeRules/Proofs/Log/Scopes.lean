/-
The scopes that are open in a thread along a run.

Which scopes are open is told from the steps alone: those that were opened in the thread
and not closed.  Where each step that closes a scope closes the one that was opened last in
its thread, they are what the state keeps for the thread.  Main statements:
  * `openIn_snoc` : what one step does to the scopes that are open in a thread;
  * `scopesOf_after` : they are the scopes that the state keeps;
  * `openIn_closed` : once a scope is closed, those are open that were open before it.
-/
import ExcludeRules.Log.Step
import ExcludeRules.Proofs.Log.Merging
import Mathlib.Data.List.Induction
import Mathlib.Data.List.Nodup

namespace ExcludeRules.Log

namespace Step

/-- The scope that a step opens in a thread: its number and what it holds. -/
def opened? (thread : Nat) : Step → Option (Nat × Context)
  | opens scope t values => if t = thread then some (scope, values) else none
  | _ => none

/-- The number of the scope that a step closes in a thread. -/
def closed? (thread : Nat) : Step → Option Nat
  | closes scope t => if t = thread then some scope else none
  | _ => none

/-- The number of the scope that a step opens in any thread. -/
def number? : Step → Option Nat
  | opens scope _ _ => some scope
  | _ => none

end Step

/-- The scopes of a thread that were opened and not closed, in the order of their opening. -/
def openIn (thread : Nat) (steps : List Step) : List (Nat × Context) :=
  (steps.filterMap (Step.opened? thread)).filter (·.1 ∉ steps.filterMap (Step.closed? thread))

/-- What may come next: a scope that is opened gets a new number, and one that is closed is the
one that was opened last in its thread and is still open. -/
def Step.Fits (before : List Step) : Step → Prop
  | opens scope _ _ => scope ∉ before.filterMap Step.number?
  | closes scope thread => (openIn thread before).getLast?.map (·.1) = some scope
  | _ => True

instance (before : List Step) : (step : Step) → Decidable (step.Fits before)
  | .opens scope _ _ => inferInstanceAs (Decidable (scope ∉ before.filterMap Step.number?))
  | .closes scope thread =>
    inferInstanceAs (Decidable ((openIn thread before).getLast?.map (·.1) = some scope))
  | .create .. | .obtain .. | .install .. | .setLevel .. | .attach .. | .attachFile ..
  | .detach .. | .look .. | .call .. => .isTrue trivial

/-- Each step fits the steps before it, the first of which are given. -/
def NestedBehind (before : List Step) : List Step → Prop
  | [] => True
  | step :: rest => step.Fits before ∧ NestedBehind (before ++ [step]) rest

/-- The scopes of each thread are closed in the order opposite to that of their opening. -/
def Nested (steps : List Step) : Prop := NestedBehind [] steps

instance decidableNestedBehind :
    (steps before : List Step) → Decidable (NestedBehind before steps)
  | [], _ => .isTrue trivial
  | step :: rest, before =>
    have := decidableNestedBehind rest (before ++ [step])
    inferInstanceAs (Decidable (step.Fits before ∧ NestedBehind (before ++ [step]) rest))

instance (steps : List Step) : Decidable (Nested steps) :=
  inferInstanceAs (Decidable (NestedBehind [] steps))

theorem nestedBehind_append {before steps more : List Step} :
    NestedBehind before (steps ++ more) ↔
      NestedBehind before steps ∧ NestedBehind (before ++ steps) more := by
  induction steps generalizing before with
  | nil => rw [List.append_nil]; exact (true_and _).symm.to_iff
  | cons step steps ih =>
    rw [List.cons_append, NestedBehind, NestedBehind, ih, and_assoc, List.append_assoc]
    rfl

theorem nested_snoc {steps : List Step} {step : Step} :
    Nested (steps ++ [step]) ↔ Nested steps ∧ step.Fits steps := by
  rw [Nested, nestedBehind_append, List.nil_append, NestedBehind, NestedBehind, and_true]
  rfl

theorem Nested.of_append {steps more : List Step} (h : Nested (steps ++ more)) : Nested steps :=
  (nestedBehind_append.mp h).1

/-! ### One step -/

theorem filter_number_ne {front : List (Nat × Context)} {last : Nat × Context}
    (h : ((front ++ [last]).map (·.1)).Nodup) :
    (front ++ [last]).filter (·.1 ≠ last.1) = front := by
  rw [List.map_append, List.nodup_append] at h
  obtain ⟨-, -, hdisjoint⟩ := h
  have hfront : ∀ e ∈ front, e.1 ≠ last.1 := fun e he =>
    hdisjoint _ (List.mem_map_of_mem he) _ (List.mem_singleton.mpr rfl)
  rw [List.filter_append, List.filter_eq_self.mpr (by simpa using hfront)]
  simp

theorem sublist_numbers_opened (thread : Nat) (steps : List Step) :
    ((steps.filterMap (Step.opened? thread)).map (·.1)).Sublist (steps.filterMap Step.number?) := by
  induction steps with
  | nil => exact .slnil
  | cons step steps ih =>
    cases step with
    | opens scope t values =>
      have hnumber : (Step.opens scope t values).number? = some scope := rfl
      rw [List.filterMap_cons_some hnumber]
      by_cases ht : t = thread
      · have hopened : (Step.opens scope t values).opened? thread = some (scope, values) :=
          if_pos ht
        rw [List.filterMap_cons_some hopened, List.map_cons]
        exact ih.cons_cons scope
      · have hopened : (Step.opens scope t values).opened? thread = none := if_neg ht
        rw [List.filterMap_cons_none hopened]
        exact ih.cons scope
    | _ => exact ih

theorem sublist_numbers_openIn (thread : Nat) (steps : List Step) :
    ((openIn thread steps).map (·.1)).Sublist (steps.filterMap Step.number?) :=
  (List.filter_sublist.map _).trans (sublist_numbers_opened thread steps)

theorem Nested.nodup_numbers {steps : List Step} (h : Nested steps) :
    (steps.filterMap Step.number?).Nodup := by
  induction steps using List.reverseRecOn with
  | nil => exact List.nodup_nil
  | append_singleton steps step ih =>
    obtain ⟨hsteps, hfits⟩ := nested_snoc.mp h
    rw [List.filterMap_append]
    cases step with
    | opens scope t values =>
      refine List.nodup_append.mpr ⟨ih hsteps, List.nodup_singleton scope, ?_⟩
      intro a ha b hb heq
      obtain rfl : b = scope := List.mem_singleton.mp hb
      exact hfits (heq ▸ ha)
    | _ =>
      change (steps.filterMap Step.number? ++ []).Nodup
      rw [List.append_nil]
      exact ih hsteps

theorem Nested.nodup_openIn {steps : List Step} (h : Nested steps) (thread : Nat) :
    ((openIn thread steps).map (·.1)).Nodup :=
  h.nodup_numbers.sublist (sublist_numbers_openIn thread steps)

theorem exists_openIn_eq {steps : List Step} {scope thread : Nat}
    (h : (Step.closes scope thread).Fits steps) :
    ∃ front values, openIn thread steps = front ++ [(scope, values)] := by
  obtain ⟨⟨number, values⟩, hlast, hnumber⟩ := Option.map_eq_some_iff.mp h
  obtain ⟨front, hfront⟩ := List.getLast?_eq_some_iff.mp hlast
  obtain rfl : number = scope := hnumber
  exact ⟨front, values, hfront⟩

/-- Only scopes that were opened are closed. -/
theorem Nested.closed_subset {steps : List Step} (h : Nested steps) (thread : Nat) :
    steps.filterMap (Step.closed? thread) ⊆ steps.filterMap Step.number? := by
  induction steps using List.reverseRecOn with
  | nil => exact List.Subset.refl _
  | append_singleton steps step ih =>
    obtain ⟨hsteps, hfits⟩ := nested_snoc.mp h
    rw [List.filterMap_append, List.filterMap_append]
    refine List.append_subset.mpr ⟨fun number hnumber =>
      List.mem_append_left _ (ih hsteps hnumber), fun number hnumber => List.mem_append_left _ ?_⟩
    cases step with
    | closes scope t =>
      obtain ⟨front, values, hopen⟩ := exists_openIn_eq hfits
      have hscope : scope ∈ (openIn t steps).map (·.1) := by
        rw [hopen]
        simp
      have hmem := (sublist_numbers_openIn t steps).subset hscope
      by_cases ht : t = thread
      · have hclosed : (Step.closes scope t).closed? thread = some scope := if_pos ht
        rw [List.filterMap_cons_some hclosed] at hnumber
        rwa [List.mem_singleton.mp hnumber]
      · have hclosed : (Step.closes scope t).closed? thread = none := if_neg ht
        rw [List.filterMap_cons_none hclosed] at hnumber
        cases hnumber
    | _ => cases hnumber

/-- Whether a step neither opens nor closes a scope. -/
def Step.leavesScopes : Step → Bool
  | opens .. => false
  | closes .. => false
  | _ => true

theorem openIn_snoc_of_none {step : Step} {thread : Nat} (hopened : step.opened? thread = none)
    (hclosed : step.closed? thread = none) (steps : List Step) :
    openIn thread (steps ++ [step]) = openIn thread steps := by
  rw [openIn, openIn, List.filterMap_append, List.filterMap_append,
    List.filterMap_cons_none hopened, List.filterMap_cons_none hclosed]
  simp

theorem openIn_snoc_of_leavesScopes {step : Step} (h : step.leavesScopes = true) (thread : Nat)
    (steps : List Step) : openIn thread (steps ++ [step]) = openIn thread steps := by
  cases step with
  | opens scope t values => cases h
  | closes scope t => cases h
  | _ => exact openIn_snoc_of_none rfl rfl steps

theorem openIn_snoc_opens {steps : List Step} {scope t : Nat} {values : Context}
    (h : Nested (steps ++ [.opens scope t values])) (thread : Nat) :
    openIn thread (steps ++ [.opens scope t values]) =
      if t = thread then openIn thread steps ++ [(scope, values)] else openIn thread steps := by
  obtain ⟨hsteps, hfits⟩ := nested_snoc.mp h
  by_cases ht : t = thread
  · have hopened : (Step.opens scope t values).opened? thread = some (scope, values) := if_pos ht
    have hclosed : (Step.opens scope t values).closed? thread = none := rfl
    have hout : scope ∉ steps.filterMap (Step.closed? thread) :=
      fun hmem => hfits (hsteps.closed_subset thread hmem)
    rw [if_pos ht, openIn, List.filterMap_append, List.filterMap_append,
      List.filterMap_cons_some hopened, List.filterMap_cons_none hclosed, List.filter_append,
      List.filterMap_nil, List.filterMap_nil, List.append_nil,
      List.filter_cons_of_pos (by simpa using hout)]
    rfl
  · have hopened : (Step.opens scope t values).opened? thread = none := if_neg ht
    rw [if_neg ht, openIn_snoc_of_none hopened rfl]

theorem openIn_snoc_closes {steps : List Step} {scope t : Nat}
    (h : Nested (steps ++ [.closes scope t])) (thread : Nat) :
    openIn thread (steps ++ [.closes scope t]) =
      if t = thread then (openIn thread steps).dropLast else openIn thread steps := by
  obtain ⟨hsteps, hfits⟩ := nested_snoc.mp h
  by_cases ht : t = thread
  · subst ht
    obtain ⟨front, values, hopen⟩ := exists_openIn_eq hfits
    have hopened : (Step.closes scope t).opened? t = none := rfl
    have hclosed : (Step.closes scope t).closed? t = some scope := if_pos rfl
    have hfilter : openIn t (steps ++ [.closes scope t]) =
        (openIn t steps).filter (·.1 ≠ scope) := by
      rw [openIn, openIn, List.filterMap_append, List.filterMap_append,
        List.filterMap_cons_none hopened, List.filterMap_cons_some hclosed, List.filter_filter]
      simp [and_comm]
    -- no other scope has the number of the last, so leaving that number out drops the last only
    have hnodup := hsteps.nodup_openIn t
    rw [hopen] at hnodup
    rw [if_pos rfl, hfilter, hopen, List.dropLast_concat]
    exact filter_number_ne hnodup
  · have hclosed : (Step.closes scope t).closed? thread = none := if_neg ht
    rw [if_neg ht, openIn_snoc_of_none rfl hclosed]

/-! ### A run -/

theorem State.scopesOf_touch (s : State) (a b : Nat) :
    (s.touch b).scopesOf a = s.scopesOf a := by
  by_cases h : a = b
  · subst h
    exact scopesOf_setScopes_self s a _
  · exact scopesOf_setScopes_of_ne s h _

theorem Logger.scopesOf_log (logger : Logger) (thread : Nat) (level : Level) (message : String)
    (values : Context) (trouble : Option Report) (s : State) (t : Nat) :
    (logger.log thread level message values trouble s).scopesOf t = s.scopesOf t := by
  rcases logger.exists_log_eq thread level message values trouble s with heq | ⟨_, _, _, heq⟩
  · rw [heq]
  · rw [heq]
    exact s.scopesOf_touch t thread

theorem Call.scopesOf_apply (call : Call) (s : State) (t : Nat) :
    (call.apply s).scopesOf t = s.scopesOf t := by
  rw [Call.apply]
  split
  · exact Logger.scopesOf_log ..
  · rw [Logger.report, Logger.scopesOf_log, State.scopesOf_touch]

/-- Only opening and closing scopes changes what the state keeps for a thread. -/
theorem Step.scopesOf_apply_of_leavesScopes {step : Step} (h : step.leavesScopes = true)
    (s : State) (thread : Nat) : (step.apply s).scopesOf thread = s.scopesOf thread := by
  cases step with
  | opens scope t values => cases h
  | closes scope t => cases h
  | look t => exact s.scopesOf_touch thread t
  | call c => exact c.scopesOf_apply s thread
  | create name level targets =>
    rw [Step.apply]
    split <;> rfl
  | setLevel logger level =>
    rw [Step.apply]
    split <;> rfl
  | attachFile logger name maxBytes backups =>
    rw [Step.apply]
    split
    · rename_i hattach
      obtain ⟨file, disk, hattached⟩ := Logger.exists_of_attachFile_eq_ok hattach
      cases hattached
      rfl
    · rfl
  | obtain name =>
    rw [Step.apply, Logger.obtain]
    split
    · split <;> rfl
    · rfl
  | install logger => rfl
  | attach logger target => rfl
  | detach logger sink => rfl

theorem State.closeScope?_eq_ok {s : State} {thread : Nat} {first last : Context}
    {front : List Context} (h : s.scopesOf thread = first :: (front ++ [last])) :
    s.closeScope? thread = .ok (s.closeScope thread) := by
  unfold scopesOf at h
  unfold closeScope?
  split at h
  · rename_i hfind
    rw [hfind]
    cases h
    rfl
  · cases front <;> cases h

/-- **What the state keeps for a thread are the scopes that are open in it**, behind an empty
one. -/
theorem scopesOf_after (disk : Disk) (stamp : String) {steps : List Step} (h : Nested steps)
    (thread : Nat) :
    (Step.after disk stamp steps).scopesOf thread =
      [] :: (openIn thread steps).map (·.2) := by
  induction steps using List.reverseRecOn generalizing thread with
  | nil => rfl
  | append_singleton steps step ih =>
    obtain ⟨hsteps, hfits⟩ := nested_snoc.mp h
    rw [Step.after, Step.run_snoc, ← Step.after]
    have ih := ih hsteps
    cases hleaves : step.leavesScopes with
    | true =>
      rw [Step.scopesOf_apply_of_leavesScopes hleaves, ih, openIn_snoc_of_leavesScopes hleaves]
    | false =>
      cases step with
      | opens scope t values =>
        rw [openIn_snoc_opens h, Step.apply, State.openScope]
        by_cases ht : t = thread
        · subst ht
          rw [State.scopesOf_setScopes_self, ih, if_pos rfl, List.map_append]
          rfl
        · rw [State.scopesOf_setScopes_of_ne _ (Ne.symm ht), ih, if_neg ht]
      | closes scope t =>
        -- the scope that is closed is the last that is open, and so the last that is kept
        obtain ⟨front, values, hopen⟩ := exists_openIn_eq hfits
        have hscopes := ih t
        rw [hopen, List.map_append] at hscopes
        rw [openIn_snoc_closes h, Step.apply, State.closeScope?_eq_ok hscopes]
        dsimp only
        rw [State.closeScope]
        by_cases ht : t = thread
        · subst ht
          rw [State.scopesOf_setScopes_self, hscopes, if_pos rfl, hopen, List.dropLast_concat,
            ← List.cons_append, List.map_singleton, List.dropLast_concat]
        · rw [State.scopesOf_setScopes_of_ne _ (Ne.symm ht), ih, if_neg ht]
      | _ => cases hleaves

/-- The context of a thread is what the scopes that are open in it hold, merged. -/
theorem isMerged_context_after (disk : Disk) (stamp : String) {steps : List Step} (h : Nested steps)
    (thread : Nat) :
    ((Step.after disk stamp steps).context thread).IsMerged
      ((openIn thread steps).flatMap (·.2)) := by
  rw [State.context, scopesOf_after disk stamp h, List.foldl_cons, List.flatMap_def]
  exact Context.IsMerged.nil.foldl_merge _

/-! ### Scopes that are closed again -/

/-- As long as a scope is open, those that were opened before it stay open. -/
theorem openIn_behind {before inner : List Step} {scope thread : Nat} {values : Context}
    (h : Nested (before ++ .opens scope thread values :: inner)) :
    (∃ more, openIn thread (before ++ .opens scope thread values :: inner) =
      openIn thread before ++ (scope, values) :: more) ∨
      scope ∉ (openIn thread (before ++ .opens scope thread values :: inner)).map (·.1) := by
  have hfirst : Nested (before ++ [.opens scope thread values]) := by
    rw [List.append_cons] at h
    exact h.of_append
  have hfresh : scope ∉ (openIn thread before).map (·.1) := fun hmem =>
    (nested_snoc.mp hfirst).2 ((sublist_numbers_openIn thread before).subset hmem)
  induction inner using List.reverseRecOn with
  | nil =>
    rw [openIn_snoc_opens hfirst, if_pos rfl]
    exact .inl ⟨[], rfl⟩
  | append_singleton inner step ih =>
    rw [← List.cons_append, ← List.append_assoc] at h ⊢
    have ih := ih h.of_append
    cases hleaves : step.leavesScopes with
    | true => rwa [openIn_snoc_of_leavesScopes hleaves]
    | false =>
      cases step with
      | opens number t values' =>
        rw [openIn_snoc_opens h]
        by_cases ht : t = thread
        · rw [if_pos ht]
          rcases ih with ⟨more, hmore⟩ | hnot
          · exact .inl ⟨more ++ [(number, values')], by rw [hmore, List.append_assoc]; rfl⟩
          · -- the number is new, so it is not that of the scope
            have hne : scope ≠ number := by
              rintro rfl
              exact (nested_snoc.mp h).2 (by simp [Step.number?])
            refine .inr ?_
            rw [List.map_append, List.mem_append, not_or]
            exact ⟨hnot, by simpa using hne⟩
        · rwa [if_neg ht]
      | closes number t =>
        rw [openIn_snoc_closes h]
        by_cases ht : t = thread
        · rw [if_pos ht]
          rcases ih with ⟨more, hmore⟩ | hnot
          · rcases List.eq_nil_or_concat more with rfl | ⟨more, last, rfl⟩
            · -- it is the scope itself that is closed, and its number was new
              rw [hmore, List.dropLast_concat]
              exact .inr hfresh
            · rw [hmore, List.concat_eq_append, ← List.cons_append, ← List.append_assoc,
                List.dropLast_concat]
              exact .inl ⟨more, rfl⟩
          · exact .inr fun hmem => hnot (((List.dropLast_sublist _).map _).subset hmem)
        · rwa [if_neg ht]
      | _ => cases hleaves

/-- Once a scope is closed, those are open in its thread that were open before it. -/
theorem openIn_closed {before inner : List Step} {scope thread : Nat} {values : Context}
    (h : Nested (before ++ .opens scope thread values :: inner ++ [.closes scope thread])) :
    openIn thread (before ++ .opens scope thread values :: inner ++ [.closes scope thread]) =
      openIn thread before := by
  obtain ⟨hpast, hfits⟩ := nested_snoc.mp h
  obtain ⟨front, values', hopen⟩ := exists_openIn_eq hfits
  have hnodup := hpast.nodup_openIn thread
  rw [openIn_snoc_closes h, if_pos rfl]
  rcases openIn_behind hpast with ⟨more, hmore⟩ | hnot
  · rcases List.eq_nil_or_concat more with rfl | ⟨more, last, rfl⟩
    · rw [hmore, List.dropLast_concat]
    · -- the scope that was opened last would have the number of the one that is closed
      rw [hmore, List.concat_eq_append, ← List.cons_append, ← List.append_assoc] at hopen
      obtain ⟨-, hlast⟩ := List.append_inj' hopen rfl
      obtain rfl : last = (scope, values') := (List.cons_eq_cons.mp hlast).1
      rw [hmore, List.concat_eq_append, List.map_append, List.map_cons, List.map_append] at hnodup
      have hnot := (List.nodup_cons.mp (List.nodup_append.mp hnodup).2.1).1
      exact absurd (List.mem_append_right _ (List.mem_singleton.mpr rfl)) hnot
  · rw [hopen] at hnot
    simp at hnot

end ExcludeRules.Log
