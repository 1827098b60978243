/-
Blank characters and trimming.

A character is blank when Unicode 14.0 gives it the property White_Space or makes
it a paragraph or segment separator for bidirectional text; this adds the four
information separators U+001C to U+001F.  Main statements:
  * `isBlank_of_isWhitespace` : what core takes for white space is blank;
  * `trimLeft_eq_nil_iff` : trimming leaves nothing exactly when all is blank.
-/
import ExcludeRules.Text.Ranges

namespace ExcludeRules.Text

/-- The code points of the blank characters. -/
def blankRanges : Ranges := [
  (0x9, 0xD), (0x1C, 0x20), (0x85, 0x85), (0xA0, 0xA0), (0x1680, 0x1680), (0x2000, 0x200A),
  (0x2028, 0x2029), (0x202F, 0x202F), (0x205F, 0x205F), (0x3000, 0x3000)]

def isBlank (c : Char) : Bool := blankRanges.covers c

/-- Removes the blank characters at the start. -/
def trimLeft (s : List Char) : List Char := s.dropWhile isBlank

/-- Removes the blank characters at the end. -/
def trimRight (s : List Char) : List Char := (s.reverse.dropWhile isBlank).reverse

/-- Removes the blank characters at both ends. -/
def trim (s : List Char) : List Char := trimRight (trimLeft s)

theorem isBlank_of_isWhitespace {c : Char} (h : c.isWhitespace = true) : isBlank c = true := by
  simp only [Char.isWhitespace, Bool.or_eq_true, decide_eq_true_eq] at h
  rcases h with ((rfl | rfl) | rfl) | rfl <;> decide

theorem trimLeft_eq_nil_iff {s : List Char} : trimLeft s = [] ↔ ∀ c ∈ s, isBlank c = true := by
  induction s with
  | nil => simp [trimLeft]
  | cons c s ih =>
    by_cases h : isBlank c = true
    · rw [trimLeft, List.dropWhile_cons_of_pos h]
      exact ih.trans (by simp [h])
    · simp [trimLeft, h]

end ExcludeRules.Text
