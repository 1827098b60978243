/-
Cutting a text at a separator, and joining pieces with one.

Main statements:
  * `split_ne_nil` : a text always has at least one piece;
  * `join_split` : joining the pieces of a text gives the text again.
-/

namespace ExcludeRules.Text

/-- The pieces of a text between the separators; empty pieces count. -/
def split (sep : Char) : List Char → List (List Char)
  | [] => [[]]
  | c :: rest =>
    if c = sep then [] :: split sep rest
    else match split sep rest with
      | [] => [[c]]
      | piece :: pieces => (c :: piece) :: pieces

/-- The pieces with a separator between each two. -/
def join (sep : Char) : List (List Char) → List Char
  | [] => []
  | [piece] => piece
  | piece :: pieces => piece ++ sep :: join sep pieces

theorem split_ne_nil (sep : Char) (s : List Char) : split sep s ≠ [] := by
  cases s with
  | nil => simp [split]
  | cons c rest =>
    rw [split]
    split
    · simp
    · split <;> simp

theorem join_split (sep : Char) (s : List Char) : join sep (split sep s) = s := by
  induction s with
  | nil => rfl
  | cons c rest ih =>
    rw [split]
    cases h : split sep rest with
    | nil => exact absurd h (split_ne_nil sep rest)
    | cons piece pieces =>
      rw [h] at ih
      split
      · rename_i hc
        simp [join, ih, hc]
      · cases pieces with
        | nil => simpa [join] using ih
        | cons p ps => simpa [join] using ih

end ExcludeRules.Text
