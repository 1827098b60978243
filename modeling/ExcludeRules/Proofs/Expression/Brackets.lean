/-
Reading a bracket expression.

Only a closing bracket leads out of a bracket expression, and only a range in it
can be at fault before the text ends.  What a rule writes behind its body holds
no closing bracket, so a bracket expression that the body leaves open swallows the
rest of the text.

`Ends P r` is the postcondition in which all of this is said: the reading `r` ends
in a fault of a bracket expression, or in a mode and with pieces that satisfy `P`.
Main statements:
  * `ends_step`, `ends_step_close` : one glyph between brackets;
  * `ends_run` : without a closing bracket the reading stays between them;
  * `ends_run_bracketed` : brackets with their members are one set;
  * `read_of_ends` : brackets that are never closed are at fault.
-/
import ExcludeRules.Proofs.Expression.Reading

namespace ExcludeRules.Expression

/-- A fault that only a bracket expression can have. -/
def Fault.OfSet : Fault → Prop
  | .unterminatedSet => True
  | .badRange _ _ => True
  | _ => False

namespace Mode

/-- The machine is between the brackets of a bracket expression. -/
def InSet : Mode → Prop
  | outside => False
  | paren => False
  | parenMark => False
  | _ => True

/-- A closing bracket would end the bracket expression. -/
def Closable : Mode → Prop
  | members set => set.members ≠ []
  | pending _ _ => True
  | ranging _ _ => True
  | _ => False

/-- The machine is not in the middle of opening a group. -/
def Settled (m : Mode) : Prop := m = outside ∨ m.InSet

/-- The machine has settled, and what it completed are atoms. -/
def Whole (m : Mode) (ps : List Piece) : Prop :=
  m.Settled ∧ ∃ atoms : List Atom, ps = atoms.flatMap Atom.pieces

/-- A reading is stopped by a bracket expression, or ends as `P` says. -/
def Ends (P : Mode → List Piece → Prop) : Except Fault (Mode × List Piece) → Prop
  | .error f => f.OfSet
  | .ok r => P r.1 r.2

variable {m m' : Mode} {g : Glyph} {gs hs : List Glyph} {ps qs : List Piece}
  {P Q : Mode → List Piece → Prop}

theorem Whole.append (hps : m.Whole ps) (hqs : m'.Whole qs) : m'.Whole (ps ++ qs) := by
  obtain ⟨-, as, rfl⟩ := hps
  obtain ⟨hm', bs, rfl⟩ := hqs
  exact ⟨hm', as ++ bs, List.flatMap_append.symm⟩

theorem InSet.whole (hm : m.InSet) : m.Whole [] := ⟨.inr hm, [], rfl⟩

theorem Ends.imp {r : Except Fault (Mode × List Piece)} (h : Ends P r)
    (hPQ : ∀ m ps, P m ps → Q m ps) : Ends Q r := by
  cases r with
  | error f => exact h
  | ok r => exact hPQ r.1 r.2 h

/-- A reading that goes on after `x` ends as its second part does. -/
theorem Ends.bind {x : Except Fault (Mode × List Piece)}
    {f : Mode → Except Fault (Mode × List Piece)} (h : Ends P x)
    (hrest : ∀ m' ps, P m' ps → Ends (fun m'' qs => Q m'' (ps ++ qs)) (f m')) :
    Ends Q (x >>= fun r => (fun q => (q.1, r.2 ++ q.2)) <$> f r.1) := by
  cases x with
  | error f => exact h
  | ok r =>
    have hr := hrest r.1 r.2 h
    rw [Outcome.ok_bind]
    cases hf : f r.1 with
    | error f' =>
      rw [hf] at hr
      exact hr
    | ok q =>
      rw [hf] at hr
      exact hr

theorem Ends.cons (h : Ends P (m.step g))
    (hrest : ∀ m' ps, P m' ps → Ends (fun m'' qs => Q m'' (ps ++ qs)) (m'.run gs)) :
    Ends Q (m.run (g :: gs)) := by
  rw [run_cons]
  exact h.bind hrest

theorem Ends.append (h : Ends P (m.run gs))
    (hrest : ∀ m' ps, P m' ps → Ends (fun m'' qs => Q m'' (ps ++ qs)) (m'.run hs)) :
    Ends Q (m.run (gs ++ hs)) := by
  rw [run_append]
  exact h.bind hrest

/-! ### One glyph -/

/-- Nothing but a closing bracket leads out of a bracket expression. -/
theorem ends_step (hm : m.InSet) (hg : g ≠ .plain ']') :
    Ends (fun m' ps => m'.InSet ∧ ps = [] ∧ (g ≠ .plain '^' → m'.Closable)) (m.step g) := by
  have hmember : ∀ set, ofMember set g = (pending set g, []) := fun set => by simp [ofMember, hg]
  cases m with
  | outside => exact hm.elim
  | paren => exact hm.elim
  | parenMark => exact hm.elim
  | opened =>
    by_cases hcaret : g = .plain '^'
    · simp [step, hcaret, Ends, InSet]
    · simp [step, hcaret, hmember, Ends, InSet, Closable]
  | members set => simp [step, hmember, Ends, InSet, Closable]
  | pending set first =>
    by_cases hhyphen : g = .plain '-'
    · simp [step, hhyphen, Ends, InSet, Closable]
    · simp [step, hhyphen, hmember, Ends, InSet, Closable]
  | ranging set first =>
    -- the one place where a glyph is at fault: a range that runs backwards
    by_cases hlt : g.char < first.char
    · simp [step, hg, hlt, Ends, Fault.OfSet]
    · simp [step, hg, hlt, Ends, InSet, Closable, OpenSet.push]

theorem ends_step_close (hm : m.Closable) :
    Ends (fun m' ps => m' = outside ∧ ∃ set, ps = [.one set]) (m.step (.plain ']')) := by
  cases m with
  | outside => exact hm.elim
  | paren => exact hm.elim
  | parenMark => exact hm.elim
  | opened => exact hm.elim
  | members set =>
    have hmem : set.members ≠ [] := hm
    simp [step, ofMember, hmem, Ends, OpenSet.close]
  | pending set first => simp [step, ofMember, OpenSet.push, Ends, OpenSet.close]
  | ranging set first => simp [step, Ends, OpenSet.close]

/-- Right behind the opening bracket a closing one is a member, and later it ends the set. -/
theorem ends_step_bracket (hm : m.InSet) :
    Ends Whole (m.step (.plain ']')) := by
  by_cases hclosable : m.Closable
  · refine (ends_step_close hclosable).imp ?_
    rintro m' ps ⟨rfl, set, rfl⟩
    exact ⟨.inl rfl, [.one set], rfl⟩
  · cases m with
    | outside => exact hm.elim
    | paren => exact hm.elim
    | parenMark => exact hm.elim
    | opened => exact InSet.whole trivial
    | members set =>
      have hmem : set.members = [] := Classical.not_not.mp hclosable
      simp only [step, ofMember, hmem, ne_eq, not_true_eq_false, and_false, if_false]
      exact InSet.whole trivial
    | pending set first => exact absurd trivial hclosable
    | ranging set first => exact absurd trivial hclosable

/-- An opening bracket opens a set, or is a member of the one that is open. -/
theorem ends_step_open (hm : m.Settled) :
    Ends (fun m' ps => m'.InSet ∧ ps = []) (m.step (.plain '[')) := by
  rcases hm with rfl | hm
  · exact ⟨trivial, rfl⟩
  · exact (ends_step hm (by decide)).imp fun _ _ h => ⟨h.1, h.2.1⟩

/-! ### Several glyphs -/

theorem ends_run (hm : m.InSet) (hgs : ∀ g ∈ gs, g ≠ .plain ']') :
    Ends (fun m' ps => m'.InSet ∧ ps = []) (m.run gs) := by
  induction gs generalizing m with
  | nil => exact ⟨hm, rfl⟩
  | cons g gs ih =>
    obtain ⟨hg, hgs⟩ := List.forall_mem_cons.mp hgs
    refine (ends_step hm hg).cons ?_
    rintro m' ps ⟨hm', rfl, -⟩
    exact ih hm' hgs

/-- Without a closing bracket an opening one leaves a bracket expression open. -/
theorem ends_run_open (hm : m.Settled) (hgs : ∀ g ∈ gs, g ≠ .plain ']') :
    Ends (fun m' ps => m'.InSet ∧ ps = []) (m.run (.plain '[' :: gs)) := by
  refine (ends_step_open hm).cons ?_
  rintro m' _ ⟨hm', rfl⟩
  exact ends_run hm' hgs

theorem ends_run_bracketed (hm : m.Settled) (hgs : ∀ g ∈ gs, g ≠ .plain ']')
    (hg : g ≠ .plain ']') (hcaret : g ≠ .plain '^') :
    Ends (fun m' ps => m' = outside ∧ ∃ set, ps = [.one set])
      (m.run (.plain '[' :: (gs ++ [g, .plain ']']))) := by
  -- the last member is kept apart: behind it the set is not empty and can be closed
  have hcut : Glyph.plain '[' :: (gs ++ [g, .plain ']']) =
      (.plain '[' :: gs) ++ [g, .plain ']'] := rfl
  rw [hcut]
  refine (ends_run_open hm hgs).append ?_
  rintro m₂ _ ⟨hm₂, rfl⟩
  refine (ends_step hm₂ hg).cons ?_
  rintro m₃ _ ⟨-, rfl, hm₃⟩
  rw [run_singleton]
  exact ends_step_close (hm₃ hcaret)

/-- The brackets that keep out a slash are one set. -/
theorem ends_run_notSlash (hm : m.Settled) :
    Ends (fun m' ps => m' = outside ∧ ∃ set, ps = [.one set])
      (m.run [.plain '[', .plain '^', .plain '/', .plain ']']) := by
  have hgs : ∀ g ∈ [Glyph.plain '^'], g ≠ .plain ']' := by decide
  exact ends_run_bracketed hm hgs (by decide : Glyph.plain '/' ≠ .plain ']') (by decide)

theorem read_of_ends (h : Ends (fun m' _ => m'.InSet) (m.run gs)) :
    ∃ f : Fault, f.OfSet ∧ m.read gs = .error f := by
  rw [read]
  cases hrun : m.run gs with
  | error f =>
    rw [hrun] at h
    exact ⟨f, h, rfl⟩
  | ok r =>
    rw [hrun] at h
    obtain ⟨m', ps⟩ := r
    have hm' : m'.InSet := h
    refine ⟨.unterminatedSet, trivial, ?_⟩
    cases m' with
    | outside => exact hm'.elim
    | paren => exact hm'.elim
    | parenMark => exact hm'.elim
    | opened => rfl
    | members set => rfl
    | pending set first => rfl
    | ranging set first => rfl

end Mode

end ExcludeRules.Expression
