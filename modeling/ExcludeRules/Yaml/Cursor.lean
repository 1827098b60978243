/-
A place in a text that is read from left to right.

A cursor knows what is still to be read, how much was, and the line and column it
stands at; both start at zero.  A byte order mark takes no column.  Main statements:
  * `length_next` : a step over a character shortens what is left;
  * `rest_skip` : skipping drops as many characters.
-/

namespace ExcludeRules.Yaml

structure Cursor where
  rest : List Char
  index : Nat
  line : Nat
  column : Nat
  deriving DecidableEq, Repr

/-- The characters that end a line. -/
def isBreak (c : Char) : Bool :=
  c = '\n' || c = '\r' || c = '\x85' || c = '\u2028' || c = '\u2029'

def isSpace (c : Char) : Bool := c = ' ' || c = '\t'

/-- Whether a word ends here. -/
def endsWord : Option Char → Bool
  | none => true
  | some c => isSpace c || isBreak c

/-- Whether only a space may stand between here and the end of the line; a tab does not. -/
def endsTag : Option Char → Bool
  | none => true
  | some c => c = ' ' || isBreak c

namespace Cursor

def ofText (text : List Char) : Cursor := ⟨text, 0, 0, 0⟩

/-- The character that stands `k` places ahead. -/
def ahead? (c : Cursor) (k : Nat) : Option Char := c.rest[k]?

/-- The next character. -/
def here? (c : Cursor) : Option Char := c.rest.head?

/-- Steps over one character. -/
def next (c : Cursor) : Cursor :=
  match c.rest with
  | [] => c
  | ch :: rest =>
    if isBreak ch then ⟨rest, c.index + 1, c.line + 1, 0⟩
    else ⟨rest, c.index + 1, c.line, if ch = '\ufeff' then c.column else c.column + 1⟩

/-- Steps over some characters. -/
def skip (c : Cursor) : Nat → Cursor
  | 0 => c
  | n + 1 => c.next.skip n

/-- The characters up to the first that fails the test, and the place behind them. -/
def span (p : Char → Bool) (c : Cursor) : List Char × Cursor :=
  let run := c.rest.takeWhile p
  (run, c.skip run.length)

/-- Steps over the characters up to the first that fails the test. -/
def skipWhile (p : Char → Bool) (c : Cursor) : Cursor := (c.span p).2

/--
Steps over the end of a line and says how it is read: the separators of lines and
of paragraphs stand for themselves, any other end is a line feed.
-/
def lineBreak? (c : Cursor) : Option (Char × Cursor) :=
  match c.rest with
  | '\r' :: '\n' :: _ => some ('\n', c.skip 2)
  | ch :: _ =>
    if ch = '\u2028' || ch = '\u2029' then some (ch, c.next)
    else if isBreak ch then some ('\n', c.next)
    else none
  | [] => none

/-- Whether three marks stand here as a word, as they do between documents. -/
def atMarks (c : Cursor) (mark : Char) : Bool :=
  [mark, mark, mark].isPrefixOf c.rest && endsWord (c.ahead? 3)

/-- Whether a document starts or ends here. -/
def atDocumentMarks (c : Cursor) : Bool := c.atMarks '-' || c.atMarks '.'

theorem length_next (c : Cursor) : c.next.rest.length = c.rest.length - 1 := by
  rw [next]
  split
  · simp_all
  · rename_i h
    split <;> simp [h]

theorem rest_next (c : Cursor) : c.next.rest = c.rest.drop 1 := by
  rw [next]
  split
  · simp_all
  · rename_i h
    split <;> simp [h]

theorem rest_skip (c : Cursor) (n : Nat) : (c.skip n).rest = c.rest.drop n := by
  induction n generalizing c with
  | zero => rfl
  | succ n ih => rw [skip, ih, rest_next, List.drop_drop, Nat.add_comm 1 n]

end Cursor

end ExcludeRules.Yaml
