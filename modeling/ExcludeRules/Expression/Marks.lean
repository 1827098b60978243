/-
Moving marks over a text decides what an expression matches.

After an expression has moved the marks, a place is marked exactly if some place
that was marked before lies in front of a match that ends there.  A text is then
accepted exactly if the expression matches it as a whole.

Main statements:
  * `mark_advance` : which places are marked after an expression;
  * `accepts_iff` : `accepts` decides `Matches`.
-/
import ExcludeRules.Expression.Basic

namespace ExcludeRules.Expression

/-- Whether the place behind `n` characters is marked. -/
def Marked (marks : List Bool) (n : Nat) : Prop := marks[n]? = some true

/-! ### Counting marks -/

theorem length_spread (set : CharSet) (carry : Bool) (text : List Char) (marks : List Bool)
    (h : marks.length = text.length + 1) :
    (spread set carry text marks).length = marks.length := by
  induction text generalizing carry marks with
  | nil =>
    obtain ⟨m, rfl⟩ := List.length_eq_one_iff.1 h
    rfl
  | cons c text ih =>
    obtain ⟨m, marks, rfl⟩ := List.exists_cons_of_length_eq_add_one h
    simpa [spread] using ih _ marks (by simpa using h)

theorem length_keepFinish (text : List Char) (marks : List Bool)
    (h : marks.length = text.length + 1) : (keepFinish text marks).length = marks.length := by
  induction text generalizing marks with
  | nil =>
    obtain ⟨m, rfl⟩ := List.length_eq_one_iff.1 h
    rfl
  | cons c text ih =>
    obtain ⟨m, marks, rfl⟩ := List.exists_cons_of_length_eq_add_one h
    simpa [keepFinish] using ih marks (by simpa using h)

/-- An expression adds no place and loses none. -/
theorem length_advance (text : List Char) (e : Expression) (marks : List Bool)
    (h : marks.length = text.length + 1) : (advance text e marks).length = marks.length := by
  induction e generalizing marks with
  | empty => rfl
  | one set => simp [advance, shift, h]
  | many set => exact length_spread set false text marks h
  | start => cases marks <;> simp [advance, keepStart]
  | finish => exact length_keepFinish text marks h
  | seq e f he hf => rw [advance, hf _ (by rw [he _ h, h]), he _ h]
  | alt e f he hf => simp [advance, he _ h, hf _ h]
  | optional e he => simp [advance, he _ h]

/-! ### Where marks go -/

theorem getElem?_map_false {α : Type} (l : List α) (n : Nat) :
    (l.map fun _ => false)[n]? ≠ some true := by
  rw [List.getElem?_map]
  cases l[n]? <;> simp

theorem marked_zipWith_or {a b : List Bool} (h : a.length = b.length) (n : Nat) :
    Marked (List.zipWith (· || ·) a b) n ↔ Marked a n ∨ Marked b n := by
  unfold Marked
  rw [List.getElem?_zipWith]
  by_cases hn : n < a.length
  · rw [List.getElem?_eq_getElem hn, List.getElem?_eq_getElem (h ▸ hn)]
    simp
  · rw [List.getElem?_eq_none (Nat.le_of_not_lt hn),
      List.getElem?_eq_none (h ▸ Nat.le_of_not_lt hn)]
    simp

theorem marked_shift {set : CharSet} {u w : List Char} {marks : List Bool} :
    Marked (shift set (u ++ w) marks) u.length ↔
      ∃ pre c, u = pre ++ [c] ∧ Marked marks pre.length ∧ set.contains c = true := by
  unfold Marked
  rcases List.eq_nil_or_concat u with rfl | ⟨pre, c, rfl⟩
  · simp [shift]
  · have hc : (pre ++ c :: w)[pre.length]? = some c := by simp
    rw [shift, List.concat_eq_append, List.length_append, List.length_singleton,
      List.getElem?_cons_succ, List.getElem?_zipWith, List.append_assoc, List.singleton_append, hc]
    constructor
    · intro h
      cases hm : marks[pre.length]? with
      | none => simp [hm] at h
      | some m =>
        simp only [hm, Option.some.injEq, Bool.and_eq_true] at h
        exact ⟨pre, c, rfl, by rw [hm, h.1], h.2⟩
    · rintro ⟨pre', c', heq, hm, hset⟩
      obtain ⟨rfl, hc'⟩ := List.append_inj' heq rfl
      obtain rfl := List.singleton_inj.1 hc'
      simp [hm, hset]

theorem marked_spread {set : CharSet} {carry : Bool} {u w : List Char} {marks : List Bool}
    (h : marks.length = (u ++ w).length + 1) :
    Marked (spread set carry (u ++ w) marks) u.length ↔
      (carry = true ∧ ∀ c ∈ u, set.contains c = true) ∨
      ∃ pre mid, u = pre ++ mid ∧ Marked marks pre.length ∧ ∀ c ∈ mid, set.contains c = true := by
  induction u generalizing carry marks with
  | nil =>
    obtain ⟨m, marks, rfl⟩ := List.exists_cons_of_length_eq_add_one h
    have hhead : (spread set carry w (m :: marks))[0]? = some (carry || m) := by
      cases w <;> rfl
    simp only [Marked, List.nil_append, List.length_nil, hhead, Option.some.injEq,
      Bool.or_eq_true]
    constructor
    · rintro (hc | hm)
      · exact .inl ⟨hc, by simp⟩
      · exact .inr ⟨[], [], rfl, by simp [hm], by simp⟩
    · rintro (⟨hc, -⟩ | ⟨pre, mid, heq, hm, -⟩)
      · exact .inl hc
      · obtain ⟨rfl, rfl⟩ := List.append_eq_nil_iff.1 heq.symm
        exact .inr (by simpa using hm)
  | cons c u ih =>
    obtain ⟨m, marks, rfl⟩ := List.exists_cons_of_length_eq_add_one h
    have hstep : Marked (spread set carry (c :: u ++ w) (m :: marks)) (c :: u).length ↔
        Marked (spread set ((carry || m) && set.contains c) (u ++ w) marks) u.length := by
      simp [Marked, spread]
    rw [hstep, ih (by simpa using h)]
    constructor
    · rintro (⟨hc, hu⟩ | ⟨pre, mid, rfl, hm, hmid⟩)
      · simp only [Bool.and_eq_true, Bool.or_eq_true] at hc
        have hall : ∀ d ∈ c :: u, set.contains d = true :=
          List.forall_mem_cons.2 ⟨hc.2, hu⟩
        rcases hc.1 with hcarry | hm
        · exact .inl ⟨hcarry, hall⟩
        · exact .inr ⟨[], c :: u, rfl, by simp [Marked, hm], hall⟩
      · exact .inr ⟨c :: pre, mid, rfl, by simpa [Marked] using hm, hmid⟩
    · rintro (⟨hc, hu⟩ | ⟨pre, mid, heq, hm, hmid⟩)
      · obtain ⟨hset, hu⟩ := List.forall_mem_cons.1 hu
        exact .inl ⟨by simp [hc, hset], hu⟩
      · cases pre with
        | nil =>
          obtain rfl : c :: u = mid := heq
          obtain ⟨hset, hu⟩ := List.forall_mem_cons.1 hmid
          have hm' : m = true := by simpa [Marked] using hm
          exact .inl ⟨by simp [hm', hset], hu⟩
        | cons d pre =>
          obtain ⟨rfl, rfl⟩ := List.cons_eq_cons.1 heq
          exact .inr ⟨pre, mid, rfl, by simpa [Marked] using hm, hmid⟩

theorem marked_keepStart {marks : List Bool} (n : Nat) :
    Marked (keepStart marks) n ↔ n = 0 ∧ Marked marks n := by
  unfold Marked
  cases marks with
  | nil => simp [keepStart]
  | cons m marks =>
    cases n with
    | zero => simp [keepStart]
    | succ n => exact iff_of_false (getElem?_map_false marks n) (by simp)

theorem marked_keepFinish {u w : List Char} {marks : List Bool}
    (h : marks.length = (u ++ w).length + 1) :
    Marked (keepFinish (u ++ w) marks) u.length ↔
      Marked marks u.length ∧ (w = [] ∨ w = ['\n']) := by
  induction u generalizing marks with
  | nil =>
    obtain ⟨m, marks, rfl⟩ := List.exists_cons_of_length_eq_add_one h
    cases w with
    | nil => simp [Marked, keepFinish]
    | cons c w => simp [Marked, keepFinish, and_assoc]
  | cons c u ih =>
    obtain ⟨m, marks, rfl⟩ := List.exists_cons_of_length_eq_add_one h
    simpa [Marked, keepFinish] using ih (by simpa using h)

/-- A place is marked if a match that begins at a mark ends there. -/
theorem mark_advance {e : Expression} {u w : List Char} {marks : List Bool}
    (h : marks.length = (u ++ w).length + 1) :
    Marked (advance (u ++ w) e marks) u.length ↔
      ∃ pre mid, u = pre ++ mid ∧ Marked marks pre.length ∧ e.Matches pre mid w := by
  induction e generalizing u w marks with
  | empty =>
    constructor
    · exact fun hm => ⟨u, [], by simp, hm, rfl⟩
    · rintro ⟨pre, mid, rfl, hm, rfl⟩
      simpa [advance] using hm
  | one set =>
    rw [advance, marked_shift]
    constructor
    · rintro ⟨pre, c, rfl, hm, hc⟩
      exact ⟨pre, [c], rfl, hm, c, rfl, hc⟩
    · rintro ⟨pre, mid, rfl, hm, c, rfl, hc⟩
      exact ⟨pre, c, rfl, hm, hc⟩
  | many set =>
    rw [advance, marked_spread h]
    constructor
    · rintro (⟨hfalse, -⟩ | hmany)
      · exact absurd hfalse (by simp)
      · exact hmany
    · exact .inr
  | start =>
    rw [advance, marked_keepStart]
    constructor
    · rintro ⟨hu, hm⟩
      obtain rfl := List.length_eq_zero_iff.1 hu
      exact ⟨[], [], rfl, hm, rfl, rfl⟩
    · rintro ⟨pre, mid, rfl, hm, rfl, rfl⟩
      exact ⟨rfl, hm⟩
  | finish =>
    rw [advance, marked_keepFinish h]
    constructor
    · exact fun ⟨hm, hw⟩ => ⟨u, [], by simp, hm, rfl, hw⟩
    · rintro ⟨pre, mid, rfl, hm, rfl, hw⟩
      exact ⟨by simpa using hm, hw⟩
  | seq e f he hf =>
    rw [advance, hf (by rw [length_advance _ _ _ h, h])]
    constructor
    · rintro ⟨pre₂, v, rfl, hm, hv⟩
      rw [List.append_assoc] at h hm
      obtain ⟨pre, u, rfl, hpre, hu⟩ := (he h).1 hm
      exact ⟨pre, u ++ v, by simp, hpre, u, v, rfl, hu, hv⟩
    · rintro ⟨pre, mid, rfl, hpre, u, v, rfl, hu, hv⟩
      refine ⟨pre ++ u, v, by simp, ?_, hv⟩
      have hassoc : pre ++ (u ++ v) ++ w = pre ++ u ++ (v ++ w) := by simp
      rw [hassoc] at h ⊢
      exact (he h).2 ⟨pre, u, rfl, hpre, hu⟩
  | alt e f he hf =>
    rw [advance, marked_zipWith_or (by rw [length_advance _ _ _ h, length_advance _ _ _ h]),
      he h, hf h]
    constructor
    · rintro (⟨pre, mid, heq, hm, hmid⟩ | ⟨pre, mid, heq, hm, hmid⟩)
      · exact ⟨pre, mid, heq, hm, .inl hmid⟩
      · exact ⟨pre, mid, heq, hm, .inr hmid⟩
    · rintro ⟨pre, mid, heq, hm, hmid | hmid⟩
      · exact .inl ⟨pre, mid, heq, hm, hmid⟩
      · exact .inr ⟨pre, mid, heq, hm, hmid⟩
  | optional e he =>
    rw [advance, marked_zipWith_or (by rw [length_advance _ _ _ h]), he h]
    constructor
    · rintro (hm | ⟨pre, mid, heq, hm, hmid⟩)
      · exact ⟨u, [], by simp, hm, .inl rfl⟩
      · exact ⟨pre, mid, heq, hm, .inr hmid⟩
    · rintro ⟨pre, mid, rfl, hm, rfl | hmid⟩
      · exact .inl (by simpa using hm)
      · exact .inr ⟨pre, mid, rfl, hm, hmid⟩

theorem marked_begin (text : List Char) (n : Nat) :
    Marked (true :: text.map fun _ => false) n ↔ n = 0 := by
  cases n with
  | zero => simp [Marked]
  | succ n => exact iff_of_false (getElem?_map_false text n) (by simp)

/-- An expression accepts a text exactly if it matches it as a whole. -/
theorem accepts_iff {e : Expression} {text : List Char} :
    e.accepts text = true ↔ e.Matches [] text [] := by
  have hlen : (true :: text.map fun _ => false).length = (text ++ []).length + 1 := by simp
  have hadv := length_advance (text ++ []) e _ hlen
  have hlast : e.accepts text = true ↔
      Marked (advance (text ++ []) e (true :: text.map fun _ => false)) text.length := by
    rw [List.append_nil] at hadv hlen ⊢
    rw [accepts, List.getLast?_eq_getElem?, hadv, hlen, Nat.add_sub_cancel, Marked]
    cases (advance text e (true :: text.map fun _ => false))[text.length]? <;> simp
  rw [hlast, mark_advance hlen]
  constructor
  · rintro ⟨pre, mid, rfl, hm, hmid⟩
    obtain rfl := List.length_eq_zero_iff.1 ((marked_begin _ _).1 hm)
    exact hmid
  · exact fun h => ⟨[], text, rfl, by simp [Marked], h⟩

end ExcludeRules.Expression
