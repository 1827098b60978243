/-
Members of a bracket expression, one glyph each.

Between brackets a glyph is a member by itself unless it is a closing bracket, a hyphen,
or a caret right behind the opening bracket.  The members gathered so far are then read
off the mode of the machine, and nothing is at fault.  Main statements:
  * `step_of_gathered`, `step_close_of_gathered` : one more member, and the end of the set;
  * `run_of_gathered` : several members;
  * `run_set` : the set that members and the bracket behind them make;
  * `run_set_of_hyphen`, `run_set_of_range` : a hyphen that is a member, and one that is not;
  * `LeadsOut.step_close` : where a closing bracket is no fault.
-/
import ExcludeRules.Proofs.Expression.Reading

namespace ExcludeRules.Expression

namespace Mode

/-- The set as it is if no range is made with the last member. -/
def gathered? : Mode → Option OpenSet
  | opened => some ⟨false, []⟩
  | members set => some set
  | pending set first => some (set.push first.char first.char)
  | _ => none

variable {m : Mode} {set : OpenSet} {g : Glyph} {gs : List Glyph}

theorem step_of_gathered (hm : m.gathered? = some set) (hclose : g ≠ .plain ']')
    (hhyphen : g ≠ .plain '-') (hcaret : m = opened → g ≠ .plain '^') :
    m.step g = .ok (pending set g, []) := by
  have hmember : ∀ set, ofMember set g = (pending set g, []) := fun set => by
    simp [ofMember, hclose]
  cases m with
  | outside => cases hm
  | paren => cases hm
  | parenMark => cases hm
  | ranging set first => cases hm
  | opened =>
    obtain rfl := Option.some.inj hm
    simp [step, hcaret rfl, hmember]
  | members set =>
    obtain rfl := Option.some.inj hm
    simp [step, hmember]
  | pending set first =>
    obtain rfl := Option.some.inj hm
    simp [step, hhyphen, hmember]

theorem step_close_of_gathered (hm : m.gathered? = some set) (hne : set.members ≠ []) :
    m.step (.plain ']') = .ok (outside, [set.close]) := by
  cases m with
  | outside => cases hm
  | paren => cases hm
  | parenMark => cases hm
  | ranging set first => cases hm
  | opened =>
    obtain rfl := Option.some.inj hm
    exact absurd rfl hne
  | members set =>
    obtain rfl := Option.some.inj hm
    simp [step, ofMember, hne]
  | pending set first =>
    obtain rfl := Option.some.inj hm
    simp [step, ofMember, hne]

/-- Members that come one after the other are gathered in their order, the last first. -/
theorem run_of_gathered (hm : m.gathered? = some set)
    (hgs : ∀ g ∈ gs, g ≠ .plain ']' ∧ g ≠ .plain '-' ∧ g ≠ .plain '^') :
    ∃ m', m.run gs = .ok (m', []) ∧
      m'.gathered? =
        some ⟨set.negated, (gs.map fun g => (g.char, g.char)).reverse ++ set.members⟩ := by
  induction gs generalizing m set with
  | nil => exact ⟨m, rfl, hm⟩
  | cons g gs ih =>
    obtain ⟨⟨hclose, hhyphen, hcaret⟩, hgs⟩ := List.forall_mem_cons.mp hgs
    have hpending : (pending set g).gathered? = some (set.push g.char g.char) := rfl
    obtain ⟨m', hrun, hm'⟩ := ih hpending hgs
    refine ⟨m', ?_, ?_⟩
    · rw [run_cons, step_of_gathered hm hclose hhyphen fun _ => hcaret, Outcome.ok_bind, hrun]
      rfl
    · rw [hm', List.map_cons, List.reverse_cons, List.append_assoc]
      rfl

/-- **Members and the bracket behind them make the set of these members.** -/
theorem run_set (hm : m.gathered? = some set) (hne : set.members ≠ [] ∨ gs ≠ [])
    (hgs : ∀ g ∈ gs, g ≠ .plain ']' ∧ g ≠ .plain '-' ∧ g ≠ .plain '^') :
    m.run (gs ++ [.plain ']']) =
      .ok (outside, [.one (.ranges set.negated
        (set.members.reverse ++ gs.map fun g => (g.char, g.char)))]) := by
  obtain ⟨m', hrun, hm'⟩ := run_of_gathered hm hgs
  have hmembers : (gs.map fun g => (g.char, g.char)).reverse ++ set.members ≠ [] := by
    simpa [Decidable.imp_iff_not_or, or_comm] using hne
  rw [run_append, hrun, Outcome.ok_bind, run_singleton, step_close_of_gathered hm' hmembers]
  simp [OpenSet.close]

/-- A hyphen is a member where no range can begin in front of it or end behind it. -/
theorem run_set_of_hyphen (hm : m.gathered? = some set) (hne : set.members ≠ [])
    (hfree : m = members set ∨ gs = [])
    (hgs : ∀ g ∈ gs, g ≠ .plain ']' ∧ g ≠ .plain '-' ∧ g ≠ .plain '^') :
    m.run (.plain '-' :: (gs ++ [.plain ']'])) =
      .ok (outside, [.one (.ranges set.negated
        (set.members.reverse ++ ('-', '-') :: gs.map fun g => (g.char, g.char)))]) := by
  -- as a member, the hyphen is gathered behind those that are there
  have hmember : (members set).run (.plain '-' :: (gs ++ [.plain ']'])) =
      .ok (outside, [.one (.ranges set.negated
        (set.members.reverse ++ ('-', '-') :: gs.map fun g => (g.char, g.char)))]) := by
    have hstep : (members set).step (.plain '-') = .ok (pending set (.plain '-'), []) := rfl
    have hpending : (pending set (.plain '-')).gathered? = some (set.push '-' '-') := rfl
    rw [run_cons, hstep, Outcome.ok_bind, run_set hpending (.inl (List.cons_ne_nil _ _)) hgs]
    simp [OpenSet.push]
  rcases hfree with rfl | rfl
  · exact hmember
  · cases m with
    | outside => cases hm
    | paren => cases hm
    | parenMark => cases hm
    | ranging set first => cases hm
    | opened =>
      obtain rfl := Option.some.inj hm
      exact absurd rfl hne
    | members set =>
      obtain rfl := Option.some.inj hm
      exact hmember
    | pending set first =>
      obtain rfl := Option.some.inj hm
      simp [run, step, OpenSet.close, OpenSet.push]

/-- A hyphen between two members makes a range of them. -/
theorem run_set_of_range {last : Glyph} (hclose : g ≠ .plain ']') (hle : ¬ g.char < last.char)
    (hgs : ∀ g ∈ gs, g ≠ .plain ']' ∧ g ≠ .plain '-' ∧ g ≠ .plain '^') :
    (pending set last).run (.plain '-' :: g :: (gs ++ [.plain ']'])) =
      .ok (outside, [.one (.ranges set.negated
        (set.members.reverse ++ (last.char, g.char) :: gs.map fun g => (g.char, g.char)))]) := by
  have hhyphen : (pending set last).step (.plain '-') = .ok (ranging set last, []) := rfl
  have hrange : (ranging set last).step g = .ok (members (set.push last.char g.char), []) := by
    simp [step, hclose, hle]
  have hmembers : (members (set.push last.char g.char)).gathered? =
      some (set.push last.char g.char) := rfl
  rw [run_cons, hhyphen, Outcome.ok_bind, run_cons, hrange, Outcome.ok_bind,
    run_set hmembers (.inl (List.cons_ne_nil _ _)) hgs]
  simp [OpenSet.push]

/-- The ends of a range must not be out of order. -/
theorem run_range_of_lt {last : Glyph} (hclose : g ≠ .plain ']') (hlt : g.char < last.char)
    (gs : List Glyph) :
    (pending set last).run (.plain '-' :: g :: gs) =
      .error (.badRange last.written g.written) := by
  have hhyphen : (pending set last).step (.plain '-') = .ok (ranging set last, []) := rfl
  have hrange : (ranging set last).step g = .error (.badRange last.written g.written) := by
    simp [step, hclose, hlt]
  rw [run_cons, hhyphen, Outcome.ok_bind, run_cons, hrange]
  rfl

/-- The brackets that keep out a slash close the brackets that they stand between. -/
theorem run_notSlash_of_gathered (hm : m.gathered? = some set) :
    ∃ closed, m.run [.plain '[', .plain '^', .plain '/', .plain ']'] =
      .ok (outside, [.one closed]) := by
  have hbracket := step_of_gathered hm (by decide : Glyph.plain '[' ≠ .plain ']') (by decide)
    fun _ => by decide
  -- the caret is no negation here, as it stands behind a member
  have hclosed : ∃ closed, (pending set (.plain '[')).run [.plain '^', .plain '/', .plain ']'] =
      .ok (outside, [.one closed]) := ⟨_, rfl⟩
  obtain ⟨closed, hclosed⟩ := hclosed
  refine ⟨closed, ?_⟩
  rw [run_cons, hbracket, Outcome.ok_bind, hclosed]
  rfl

/-- A closing bracket leads out of brackets, or stands outside of them. -/
def LeadsOut (m : Mode) : Prop :=
  m = outside ∨ ∃ set, m.gathered? = some set ∧ set.members ≠ []

theorem LeadsOut.step_close (hm : m.LeadsOut) :
    ∃ atoms : List Atom, m.step (.plain ']') = .ok (outside, atoms.flatMap Atom.pieces) := by
  rcases hm with rfl | ⟨set, hset, hne⟩
  · exact ⟨[.one (.only ']')], rfl⟩
  · exact ⟨[.one (.ranges set.negated set.members.reverse)], step_close_of_gathered hset hne⟩

end Mode

end ExcludeRules.Expression
