/-
Plain scalars.

A plain scalar is made of runs of characters with gaps between them.  A gap is
spaces in a line, or the end of one and what follows: a single line end is read
as a space, of several the first is dropped.
-/
import ExcludeRules.Yaml.Cursor

namespace ExcludeRules.Yaml.Plain

/-- Whether a run stops in front of this text; in a flow collection more characters stop it. -/
def stops (flow : Bool) : List Char → Bool
  | [] => true
  | ':' :: rest =>
    endsWord rest.head? || (flow && rest.head?.any fun c => c ∈ [',', '[', ']', '{', '}'])
  | c :: _ => isSpace c || isBreak c || (flow && c ∈ [',', '?', '[', ']', '{', '}'])

/-- The run of characters that a text starts with. -/
def run (flow : Bool) : List Char → List Char
  | [] => []
  | c :: rest => if stops flow (c :: rest) then [] else c :: run flow rest

/-- What follows a run: the text that the gap stands for, and whether a line ended in it. -/
structure Gap where
  text : List Char
  broken : Bool
  cursor : Cursor

/-- The ends of empty lines and the spaces between them; nothing if a document ends there. -/
def blankLines : (fuel : Nat) → List Char → Cursor → Option (List Char) × Cursor
  | 0, breaks, c => (some breaks, c)
  | fuel + 1, breaks, c =>
    let c := c.skipWhile (· = ' ')
    match c.lineBreak? with
    | none => (some breaks, c)
    | some (b, c) =>
      if c.atDocumentMarks then (none, c) else blankLines fuel (breaks ++ [b]) c

/-- The text that the end of a line and the ends of the empty lines behind it stand for. -/
def fold (first : Char) (breaks : List Char) : List Char :=
  if first ≠ '\n' then first :: breaks else if breaks.isEmpty then [' '] else breaks

/-- Reads the gap behind a run. -/
def gap (c : Cursor) : Gap :=
  let (spaces, c) := c.span (· = ' ')
  match c.lineBreak? with
  | none => ⟨spaces, false, c⟩
  | some (b, c) =>
    if c.atDocumentMarks then ⟨[], true, c⟩
    else match blankLines c.rest.length [] c with
      | (none, c) => ⟨[], true, c⟩
      | (some breaks, c) => ⟨fold b breaks, true, c⟩

/-- A scalar, whether a line ended behind its last run, and the place behind it. -/
structure Reading where
  text : List Char
  broken : Bool
  cursor : Cursor

/-- Reads runs as long as they belong to the scalar; `before` is the gap in front of the next. -/
def more (flow : Bool) (indent : Int) : (fuel : Nat) → (text : List Char) → (before : Gap) → Reading
  | 0, text, before => ⟨text, before.broken, before.cursor⟩
  | fuel + 1, text, before =>
    let piece := run flow before.cursor.rest
    if piece.isEmpty then ⟨text, before.broken, before.cursor⟩
    else
      let text := text ++ before.text ++ piece
      let after := gap (before.cursor.skip piece.length)
      if after.text.isEmpty || after.cursor.here? = some '#' ||
          (!flow && (after.cursor.column : Int) < indent) then
        ⟨text, after.broken, after.cursor⟩
      else more flow indent fuel text after

/-- Reads the plain scalar that starts here; its lines are indented by `indent` at least. -/
def read (flow : Bool) (indent : Int) (c : Cursor) : Reading :=
  more flow indent c.rest.length [] ⟨[], false, c⟩

/-- A run is in front of what it was cut from. -/
theorem run_append_drop (flow : Bool) (s : List Char) :
    run flow s ++ s.drop (run flow s).length = s := by
  induction s with
  | nil => rfl
  | cons c rest ih =>
    rw [run]
    split
    · rfl
    · simpa using ih

end ExcludeRules.Yaml.Plain
