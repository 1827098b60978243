/-
The lines of a text.

A line ends at a line feed, at a carriage return, or at the two together; the
last line may lack its end.  Where it is not known how a text goes on, its last line is
not known either, nor that a carriage return at its end stands alone.  Main statements:
  * `lines_append_newline` : a line and its end in front of a text is one line more;
  * `endedLines_prefix` : the lines that have ended are lines, however the text goes on.
-/

namespace ExcludeRules.Text

/-- Lines of the text that follows the characters of `line`, which is reversed. -/
def linesAfter (line : List Char) : List Char → List (List Char)
  | [] => if line.isEmpty then [] else [line.reverse]
  | '\r' :: '\n' :: rest => line.reverse :: linesAfter [] rest
  | c :: rest =>
    if c = '\n' ∨ c = '\r' then line.reverse :: linesAfter [] rest
    else linesAfter (c :: line) rest

/-- The lines of a text, without their ends. -/
def lines (s : List Char) : List (List Char) := linesAfter [] s

/-- Lines that have ended in a text that follows the characters of `line` and may go on. -/
def endedLinesAfter (line : List Char) : List Char → List (List Char)
  | [] => []
  | ['\r'] => []
  | '\r' :: '\n' :: rest => line.reverse :: endedLinesAfter [] rest
  | c :: rest =>
    if c = '\n' ∨ c = '\r' then line.reverse :: endedLinesAfter [] rest
    else endedLinesAfter (c :: line) rest

/-- The lines of a text that may go on, as far as they have ended. -/
def endedLines (s : List Char) : List (List Char) := endedLinesAfter [] s

/-- The text with a line feed for each end of a line. -/
def withLineFeeds : List Char → List Char
  | [] => []
  | '\r' :: '\n' :: rest => '\n' :: withLineFeeds rest
  | c :: rest => (if c = '\r' then '\n' else c) :: withLineFeeds rest

/-- Removes every carriage return and line feed at the end. -/
def trimLineEnd (s : List Char) : List Char :=
  (s.reverse.dropWhile fun c => c = '\n' ∨ c = '\r').reverse

theorem linesAfter_append {line : List Char} (before : List Char)
    (h : ∀ c ∈ line, c ≠ '\n' ∧ c ≠ '\r') (rest : List Char) :
    linesAfter before (line ++ rest) = linesAfter (line.reverse ++ before) rest := by
  induction line generalizing before with
  | nil => rfl
  | cons c line ih =>
    obtain ⟨hc, hline⟩ := List.forall_mem_cons.1 h
    simp [linesAfter, hc.1, hc.2, ih (c :: before) hline]

theorem linesAfter_cons_of_end {line rest : List Char} {c : Char} (h : c = '\n' ∨ c = '\r')
    (hnext : c = '\r' → rest.head? ≠ some '\n') :
    linesAfter line (c :: rest) = line.reverse :: linesAfter [] rest := by
  rcases h with rfl | rfl
  · simp [linesAfter]
  · cases rest with
    | nil => simp [linesAfter]
    | cons d rest =>
      have hd : d ≠ '\n' := fun hd => hnext rfl (hd ▸ rfl)
      simp [linesAfter, hd]

/-- A line and its line feed in front of a text is one line more. -/
theorem lines_append_newline {line : List Char} (h : ∀ c ∈ line, c ≠ '\n' ∧ c ≠ '\r')
    (rest : List Char) : lines (line ++ '\n' :: rest) = line :: lines rest := by
  simp [lines, linesAfter_append [] h, linesAfter]

/-- However a text goes on, the lines that have ended in it are the first ones. -/
theorem endedLines_prefix (s rest : List Char) : endedLines s <+: lines (s ++ rest) := by
  suffices h : ∀ line, endedLinesAfter line s <+: linesAfter line (s ++ rest) from h []
  intro line
  fun_induction endedLinesAfter line s with
  | case1 => exact List.nil_prefix
  | case2 => exact List.nil_prefix
  | case3 line s ih => exact List.cons_prefix_cons.mpr ⟨rfl, ih⟩
  | case4 line c s hreturn hboth hend ih =>
    -- a carriage return that ends a line is followed by something else than a line feed
    have hnext : c = '\r' → (s ++ rest).head? ≠ some '\n' := by
      rintro rfl
      cases s with
      | nil => exact absurd rfl (hreturn rfl)
      | cons d s =>
        rintro ⟨⟩
        exact hboth s rfl rfl
    rw [List.cons_append, linesAfter_cons_of_end hend hnext]
    exact List.cons_prefix_cons.mpr ⟨rfl, ih⟩
  | case5 line c s hreturn hboth hend ih =>
    rw [not_or] at hend
    have hcons := linesAfter_append line (List.forall_mem_singleton.mpr hend) (s ++ rest)
    rw [List.cons_append]
    exact hcons ▸ ih

end ExcludeRules.Text
