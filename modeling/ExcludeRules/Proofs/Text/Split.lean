/-
Cutting and joining texts, as laws of each other.

Pieces without separator come back from the text that joins them, and a joined
text can be cut at a separator only between two of its pieces.  Main statements:
  * `split_append_cons` : cutting a text in two parts;
  * `split_join` : the pieces of a joined text;
  * `join_eq_append_cons` : where a joined text can be cut.
-/
import ExcludeRules.Text.Split

namespace ExcludeRules.Text

variable {sep : Char}

theorem split_append_cons (u v : List Char) :
    split sep (u ++ sep :: v) = split sep u ++ split sep v := by
  induction u with
  | nil => simp [split]
  | cons c u ih =>
    rw [List.cons_append, split, split, ih]
    by_cases hc : c = sep
    · simp [hc]
    · rw [if_neg hc, if_neg hc]
      cases h : split sep u with
      | nil => exact absurd h (split_ne_nil sep u)
      | cons piece pieces => rfl

theorem split_of_not_mem {s : List Char} (h : sep ∉ s) : split sep s = [s] := by
  induction s with
  | nil => rfl
  | cons c s ih =>
    obtain ⟨hc, hs⟩ := not_or.mp (mt List.mem_cons.mpr h)
    rw [split, if_neg (Ne.symm hc), ih hs]

theorem not_mem_of_mem_split {s piece : List Char} (h : piece ∈ split sep s) : sep ∉ piece := by
  induction s generalizing piece with
  | nil =>
    rw [split, List.mem_singleton] at h
    simp [h]
  | cons c s ih =>
    rw [split] at h
    by_cases hc : c = sep
    · rw [if_pos hc] at h
      rcases List.mem_cons.mp h with rfl | h
      · simp
      · exact ih h
    · rw [if_neg hc] at h
      cases hs : split sep s with
      | nil => exact absurd hs (split_ne_nil sep s)
      | cons first pieces =>
        rw [hs] at h ih
        rcases List.mem_cons.mp h with rfl | h
        · exact mt List.mem_cons.mp (not_or.mpr ⟨Ne.symm hc, ih (List.mem_cons_self ..)⟩)
        · exact ih (List.mem_cons_of_mem _ h)

theorem mem_join_of_mem {pieces : List (List Char)} {piece : List Char} (h : piece ∈ pieces)
    {c : Char} (hc : c ∈ piece) : c ∈ join sep pieces := by
  induction pieces with
  | nil => cases h
  | cons p ps ih =>
    cases ps with
    | nil =>
      obtain rfl := List.mem_singleton.mp h
      exact hc
    | cons q qs =>
      rw [join]
      · rcases List.mem_cons.mp h with rfl | h
        · exact List.mem_append_left _ hc
        · exact List.mem_append_right _ (List.mem_cons_of_mem _ (ih h))
      · exact List.cons_ne_nil q qs

/-- What is neither a separator nor in a piece is not in the pieces joined. -/
theorem mem_join {pieces : List (List Char)} {c : Char} (h : c ∈ join sep pieces) :
    c = sep ∨ ∃ piece ∈ pieces, c ∈ piece := by
  induction pieces with
  | nil => cases h
  | cons p ps ih =>
    cases ps with
    | nil => exact .inr ⟨p, List.mem_singleton_self p, h⟩
    | cons q qs =>
      rw [join] at h
      · rcases List.mem_append.mp h with hp | hrest
        · exact .inr ⟨p, List.mem_cons_self, hp⟩
        · rcases List.mem_cons.mp hrest with rfl | hrest
          · exact .inl rfl
          · rcases ih hrest with hsep | ⟨piece, hpiece, hc⟩
            · exact .inl hsep
            · exact .inr ⟨piece, List.mem_cons_of_mem p hpiece, hc⟩
      · exact List.cons_ne_nil q qs

/-- A piece holds only what the text holds. -/
theorem mem_of_mem_split {s piece : List Char} (h : piece ∈ split sep s) {c : Char}
    (hc : c ∈ piece) : c ∈ s := by
  rw [← join_split sep s]
  exact mem_join_of_mem h hc

theorem join_cons {piece : List Char} {pieces : List (List Char)} (h : pieces ≠ []) :
    join sep (piece :: pieces) = piece ++ sep :: join sep pieces := by
  cases pieces with
  | nil => exact absurd rfl h
  | cons p ps => rfl

theorem join_append {as bs : List (List Char)} (ha : as ≠ []) (hb : bs ≠ []) :
    join sep (as ++ bs) = join sep as ++ sep :: join sep bs := by
  induction as with
  | nil => exact absurd rfl ha
  | cons a as ih =>
    cases as with
    | nil => exact join_cons hb
    | cons a' as =>
      have hne : a' :: as ++ bs ≠ [] := List.cons_ne_nil _ _
      rw [List.cons_append, join_cons hne, join_cons (List.cons_ne_nil _ _),
        ih (List.cons_ne_nil _ _), List.append_assoc, List.cons_append]

theorem split_join {pieces : List (List Char)} (hne : pieces ≠ [])
    (h : ∀ p ∈ pieces, sep ∉ p) : split sep (join sep pieces) = pieces := by
  induction pieces with
  | nil => exact absurd rfl hne
  | cons piece pieces ih =>
    obtain ⟨hpiece, hpieces⟩ := List.forall_mem_cons.mp h
    cases pieces with
    | nil => exact split_of_not_mem hpiece
    | cons p ps =>
      rw [join_cons (List.cons_ne_nil _ _), split_append_cons, split_of_not_mem hpiece,
        ih (List.cons_ne_nil _ _) hpieces]
      rfl

/-- A joined text can be cut at a separator only between two of its pieces. -/
theorem join_eq_append_cons {pieces : List (List Char)} (h : ∀ p ∈ pieces, sep ∉ p)
    {u v : List Char} (heq : join sep pieces = u ++ sep :: v) :
    ∃ as bs, as ≠ [] ∧ bs ≠ [] ∧ pieces = as ++ bs ∧ u = join sep as ∧ v = join sep bs := by
  have hne : pieces ≠ [] := by
    rintro rfl
    simp [join] at heq
  refine ⟨split sep u, split sep v, split_ne_nil sep u, split_ne_nil sep v, ?_,
    (join_split sep u).symm, (join_split sep v).symm⟩
  rw [← split_append_cons, ← heq, split_join hne h]

end ExcludeRules.Text
