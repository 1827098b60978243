/-
Quoted scalars.

Between single quotes only the quote itself is written specially, twice; between
double quotes a backslash begins an escape.  Line ends are folded as they are in
plain scalars, and the spaces around them are dropped.
-/
import ExcludeRules.Yaml.Cursor
import ExcludeRules.Yaml.Fault

namespace ExcludeRules.Yaml.Quoted

/-- The character that a backslash and a character stand for. -/
def escape? : Char → Option Char
  | '0' => some '\x00'
  | 'a' => some '\x07'
  | 'b' => some '\x08'
  | 't' => some '\t'
  | '\t' => some '\t'
  | 'n' => some '\n'
  | 'v' => some '\x0b'
  | 'f' => some '\x0c'
  | 'r' => some '\r'
  | 'e' => some '\x1b'
  | ' ' => some ' '
  | '"' => some '"'
  | '\\' => some '\\'
  | '/' => some '/'
  | 'N' => some '\x85'
  | '_' => some '\xa0'
  | 'L' => some '\u2028'
  | 'P' => some '\u2029'
  | _ => none

/-- The number of hexadecimal digits behind a backslash and a letter. -/
def codeLength? : Char → Option Nat
  | 'x' => some 2
  | 'u' => some 4
  | 'U' => some 8
  | _ => none

def hexDigit? (c : Char) : Option Nat :=
  if '0' ≤ c ∧ c ≤ '9' then some (c.toNat - '0'.toNat)
  else if 'a' ≤ c ∧ c ≤ 'f' then some (c.toNat - 'a'.toNat + 10)
  else if 'A' ≤ c ∧ c ≤ 'F' then some (c.toNat - 'A'.toNat + 10)
  else none

/-- The value of hexadecimal digits. -/
def hexValue? (digits : List Char) : Option Nat :=
  digits.foldlM (fun n c => (hexDigit? c).map (16 * n + ·)) 0

/-- The greatest number that a character's code is looked up by. -/
def maxCode : Nat := 0x7FFFFFFF

/-- Reads the escape whose backslash was just read; a line end that is escaped gives nothing. -/
def readEscape (c : Cursor) : Except ReadError (Option Char × Cursor) :=
  match c.here? with
  | none => .error (.fault .badEscape)
  | some ch =>
    match escape? ch, codeLength? ch with
    | some image, _ => .ok (some image, c.next)
    | none, some length =>
      let digits := c.next.rest.take length
      match hexValue? digits with
      | none => .error (.fault .badEscape)
      | some code =>
        if digits.length < length then .error (.fault .badEscape)
        else if maxCode < code then .error (.misfit .range)
        else if 0x10FFFF < code then .error (.misfit .value)
        else .ok (some (Char.ofNat code), c.next.skip length)
    | none, none =>
      match c.lineBreak? with
      | some (_, c) => .ok (none, c)
      | none => .error (.fault .badEscape)

/-- The ends of empty lines, with the spaces and tabs around them; no document may end here. -/
def blankLines : (fuel : Nat) → List Char → Cursor → Except ReadError (List Char × Cursor)
  | 0, breaks, c => .ok (breaks, c)
  | fuel + 1, breaks, c =>
    if c.atDocumentMarks then .error (.fault .separatorInQuote)
    else
      let c := c.skipWhile isSpace
      match c.lineBreak? with
      | none => .ok (breaks, c)
      | some (b, c) => blankLines fuel (breaks ++ [b]) c

/-- The text that a gap between words stands for. -/
def gap (c : Cursor) : Except ReadError (List Char × Cursor) := do
  let (spaces, c) := c.span isSpace
  match c.lineBreak? with
  | none => if c.rest.isEmpty then .error (.fault .unterminatedQuote) else return (spaces, c)
  | some (b, c) =>
    let (breaks, c) ← blankLines (c.rest.length + 1) [] c
    return (if b ≠ '\n' then b :: breaks else if breaks.isEmpty then [' '] else breaks, c)

/-- Reads up to the closing quote, which it steps over; `text` is what was read so far. -/
def more (double : Bool) : (fuel : Nat) → (text : List Char) → Cursor →
    Except ReadError (List Char × Cursor)
  | 0, _, _ => .error (.fault .unterminatedQuote)
  | fuel + 1, text, c =>
    match c.rest with
    | [] => .error (.fault .unterminatedQuote)
    | ch :: rest =>
      if !double && ch = '\'' && rest.head? = some '\'' then
        more double fuel (text ++ ['\'']) (c.skip 2)
      else if ch = (if double then '"' else '\'') then .ok (text, c.next)
      else if double && ch = '\\' then do
        let (image, after) ← readEscape c.next
        match image with
        | some image => more double fuel (text ++ [image]) after
        | none =>
          let (breaks, after) ← blankLines (after.rest.length + 1) [] after
          more double fuel (text ++ breaks) after
      else if isSpace ch || isBreak ch then do
        let (between, after) ← gap c
        more double fuel (text ++ between) after
      else more double fuel (text ++ [ch]) c.next

/-- Reads the quoted scalar that starts here. -/
def read (double : Bool) (c : Cursor) : Except ReadError (List Char × Cursor) :=
  more double c.rest.length [] c.next

end ExcludeRules.Yaml.Quoted
