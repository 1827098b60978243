/-
Block scalars.

A header says how the scalar ends and, if need be, how deep it is indented; the
lines behind it are its text.  A literal scalar keeps its line ends; in a folded
one a single line end between lines of words is read as a space.
-/
import ExcludeRules.Yaml.Cursor
import ExcludeRules.Yaml.Fault

namespace ExcludeRules.Yaml.Block

/-- What becomes of the line ends behind the last line: one is kept, all, or none. -/
inductive Chomping
  | clip
  | keep
  | strip
  deriving DecidableEq, Repr

structure Header where
  chomping : Chomping
  /-- By how much the scalar is indented more than what it stands in. -/
  indentation : Option Nat
  deriving DecidableEq, Repr

def chomping? : Option Char → Option Chomping
  | some '+' => some .keep
  | some '-' => some .strip
  | _ => none

def digit? : Option Char → Option Nat
  | some c => if c.isDigit then some (c.toNat - '0'.toNat) else none
  | none => none

/-- The two parts of a header, in either order. -/
def header (c : Cursor) : Except Fault (Header × Cursor) := do
  let (first, afterFirst) := match chomping? c.here? with
    | some chomping => (some chomping, c.next)
    | none => (none, c)
  let (indentation, afterDigit) := match digit? afterFirst.here? with
    | some n => (some n, afterFirst.next)
    | none => (none, afterFirst)
  let (chomping, c) := match first, chomping? afterDigit.here? with
    | none, some chomping =>
      if indentation.isSome then (chomping, afterDigit.next) else (.clip, afterDigit)
    | first, _ => (first.getD .clip, afterDigit)
  if indentation = some 0 || !endsTag c.here? then .error .badBlockHeader
  else return (⟨chomping, indentation⟩, c)

/-- Steps over spaces and a comment up to the end of the line, and over that. -/
def endOfLine (f : Fault) (c : Cursor) : Except Fault Cursor :=
  let c := c.skipWhile (· = ' ')
  let c := if c.here? = some '#' then c.skipWhile (!isBreak ·) else c
  match c.lineBreak? with
  | some (_, c) => .ok c
  | none => if c.rest.isEmpty then .ok c else .error f

/-- The empty lines in front of the text, and the deepest column that their spaces reach. -/
def leading : (fuel : Nat) → List Char → Nat → Cursor → List Char × Nat × Cursor
  | 0, breaks, deepest, c => (breaks, deepest, c)
  | fuel + 1, breaks, deepest, c =>
    let c := c.skipWhile (· = ' ')
    let deepest := max deepest c.column
    match c.lineBreak? with
    | some (b, c) => leading fuel (breaks ++ [b]) deepest c
    | none => (breaks, deepest, c)

/-- Steps over at most `indent` columns of spaces. -/
def margin (indent : Nat) (c : Cursor) : Cursor :=
  c.skip ((c.rest.takeWhile (· = ' ')).take (indent - c.column)).length

/-- The ends of empty lines, up to a line that holds something at the margin. -/
def blankLines (indent : Nat) : (fuel : Nat) → List Char → Cursor → List Char × Cursor
  | 0, breaks, c => (breaks, c)
  | fuel + 1, breaks, c =>
    let c := margin indent c
    match c.lineBreak? with
    | some (b, c) => blankLines indent fuel (breaks ++ [b]) c
    | none => (breaks, c)

/-- The lines of the text; `breaks` are the empty lines in front of the next. -/
def body (folded : Bool) (chomping : Chomping) (indent : Nat) :
    (fuel : Nat) → (text lineEnd breaks : List Char) → Cursor → List Char × Cursor
  | 0, text, _, _, c => (text, c)
  | fuel + 1, text, lineEnd, breaks, c =>
    if c.column = indent && !c.rest.isEmpty then
      let spaced := c.here?.any isSpace
      let (line, c) := c.span (!isBreak ·)
      let text := text ++ breaks ++ line
      let (lineEnd, c) := match c.lineBreak? with
        | some (b, c) => ([b], c)
        | none => ([], c)
      let (breaks, c) := blankLines indent (c.rest.length + 1) [] c
      if c.column = indent && !c.rest.isEmpty then
        let joins := folded && lineEnd = ['\n'] && !spaced && !c.here?.any isSpace
        let between := if joins then (if breaks.isEmpty then [' '] else []) else lineEnd
        body folded chomping indent fuel (text ++ between) lineEnd breaks c
      else (finish text lineEnd breaks, c)
    else (finish text lineEnd breaks, c)
where
  /-- The text with the line ends behind it that are kept. -/
  finish (text lineEnd breaks : List Char) : List Char :=
    match chomping with
    | .clip => text ++ lineEnd
    | .keep => text ++ lineEnd ++ breaks
    | .strip => text

/-- Reads the block scalar whose mark was just read, in a block that is indented by `parent`. -/
def read (folded : Bool) (parent : Int) (c : Cursor) : Except Fault (List Char × Cursor) := do
  let (header, c) ← header c
  let c ← endOfLine .badBlockHeader c
  let least := max 1 (parent + 1).toNat
  match header.indentation with
  | none =>
    let (breaks, deepest, c) := leading (c.rest.length + 1) [] 0 c
    return body folded header.chomping (max least deepest) (c.rest.length + 1) [] [] breaks c
  | some n =>
    let indent := least + n - 1
    let (breaks, c) := blankLines indent (c.rest.length + 1) [] c
    return body folded header.chomping indent (c.rest.length + 1) [] [] breaks c

end ExcludeRules.Yaml.Block
