/-
Texts that are written line by line.

The lines of a text end all alike, and the last one may lack its end.  Main
statements:
  * `lines_of_writes` : such a text is split into the lines that it was written from;
  * `trimLineEnd_of_noLineEnd` : a line without ends of lines in it keeps all it holds.
-/
import ExcludeRules.Text.Lines

namespace ExcludeRules.Text

/-- What ends the lines of a text. -/
inductive LineEnd
  | lineFeed
  | carriageReturn
  | both
  deriving DecidableEq, Repr

namespace LineEnd

def text : LineEnd → String
  | lineFeed => "\n"
  | carriageReturn => "\r"
  | both => "\r\n"

/-- A text consists of lines and an end after each; the last end may be missing after a line
that is not empty. -/
inductive Writes (e : LineEnd) : List String → String → Prop
  | nil : e.Writes [] ""
  | unended {line : String} (h : line ≠ "") : e.Writes [line] line
  | cons (line : String) {lines : List String} {text : String} (h : e.Writes lines text) :
      e.Writes (line :: lines) (line ++ e.text ++ text)

end LineEnd

/-- No line ends within the text. -/
def NoLineEnd (s : String) : Prop := ∀ c ∈ s.toList, c ≠ '\n' ∧ c ≠ '\r'

variable {e : LineEnd} {line : String} {lines : List String} {text : String}

theorem trimLineEnd_of_noLineEnd (h : NoLineEnd line) : trimLineEnd line.toList = line.toList := by
  rw [trimLineEnd]
  cases hrev : line.toList.reverse with
  | nil =>
    rw [List.reverse_eq_nil_iff.1 hrev]
    rfl
  | cons c cs =>
    have hc := h c (List.mem_reverse.1 (hrev ▸ List.mem_cons_self))
    rw [List.dropWhile_cons, if_neg (by simp [hc.1, hc.2]), ← hrev, List.reverse_reverse]

/-- Between carriage returns there is no line feed that could go with one of them. -/
theorem head?_ne_of_writes (h : LineEnd.carriageReturn.Writes lines text)
    (hlines : ∀ line ∈ lines, NoLineEnd line) : text.toList.head? ≠ some '\n' := by
  cases h with
  | nil => nofun
  | unended hne =>
    intro hc
    exact (hlines _ List.mem_cons_self '\n' (List.mem_of_mem_head? hc)).1 rfl
  | cons line h =>
    rw [String.toList_append, String.toList_append, List.append_assoc]
    cases hline : line.toList with
    | nil => nofun
    | cons c cs =>
      rintro ⟨⟩
      exact (hlines line List.mem_cons_self '\n' (hline ▸ List.mem_cons_self)).1 rfl

theorem linesAfter_text_append (before : List Char) {rest : List Char}
    (h : e = .carriageReturn → rest.head? ≠ some '\n') :
    linesAfter before (e.text.toList ++ rest) = before.reverse :: linesAfter [] rest := by
  cases e with
  | lineFeed => simp [LineEnd.text, linesAfter]
  | both => simp [LineEnd.text, linesAfter]
  | carriageReturn =>
    cases rest with
    | nil => simp [LineEnd.text, linesAfter]
    | cons c rest =>
      have hc : c ≠ '\n' := fun hc => h rfl (hc ▸ rfl)
      simp [LineEnd.text, linesAfter, hc]

/-- A text that is written line by line is split into these lines. -/
theorem lines_of_writes (h : e.Writes lines text) (hlines : ∀ line ∈ lines, NoLineEnd line) :
    Text.lines text.toList = lines.map String.toList := by
  induction h with
  | nil => rfl
  | @unended line hne =>
    have hline := linesAfter_append [] (hlines line List.mem_cons_self) []
    rw [List.append_nil, List.append_nil] at hline
    rw [Text.lines, hline]
    simp [linesAfter, hne]
  | @cons line lines text h ih =>
    obtain ⟨hline, hlines⟩ := List.forall_mem_cons.1 hlines
    have hrest : e = .carriageReturn → text.toList.head? ≠ some '\n' := by
      rintro rfl
      exact head?_ne_of_writes h hlines
    rw [Text.lines, String.toList_append, String.toList_append, List.append_assoc,
      linesAfter_append [] hline, List.append_nil, linesAfter_text_append _ hrest,
      List.reverse_reverse, List.map_cons, ← ih hlines]
    rfl

end ExcludeRules.Text
