/-
The tokens of a YAML document.

Indentation becomes tokens: a block collection opens where a line is indented more
than what it stands in, and closes at the first line that is indented less.  That
a scalar or a collection is the key of a mapping shows only at the colon behind
it; such a key may span one line and 1024 characters at most, and the token in
front of it is put in afterwards.
-/
import ExcludeRules.Yaml.Scalar.Block
import ExcludeRules.Yaml.Scalar.Plain
import ExcludeRules.Yaml.Scalar.Quoted

namespace ExcludeRules.Yaml

inductive Token
  /-- The version that a directive states. -/
  | version (major : Nat)
  /-- A directive that says what a tag handle stands for. -/
  | handle (name start : String)
  /-- A directive that says nothing here. -/
  | reserved
  | documentStart
  | documentEnd
  | blockSequence
  | blockMapping
  | blockEnd
  | openSequence
  | closeSequence
  | openMapping
  | closeMapping
  | entry
  | comma
  | key
  | value
  | alias (name : String)
  | anchor (name : String)
  | tag (handle : Option String) (suffix : String)
  | scalar (text : String) (plain : Bool)
  deriving DecidableEq, Repr

/-! ### Names, tags and directives -/

/-- Whether a character may stand in the name of an anchor, a directive or a handle. -/
def isWordChar (c : Char) : Bool := c.isAlphanum || c = '-' || c = '_'

/-- Whether a character may stand in a tag as it is. -/
def isUriChar (c : Char) : Bool := c.isAlphanum || "-;/?:@&=+$,_.!~*'()[]%".toList.contains c

/-- Reads the name of an anchor or an alias, whose mark was just read. -/
def readName (c : Cursor) : Except Fault (String × Cursor) :=
  let (name, c) := c.span isWordChar
  let ends := endsWord c.here? || c.here?.any fun ch => "?:,]\x7d%@\x60".toList.contains ch
  if name.isEmpty || !ends then .error .badName else .ok (String.ofList name, c)

/-- Reads a tag handle: an exclamation mark, or a word between two. -/
def readHandle (f : Fault) (c : Cursor) : Except Fault (String × Cursor) :=
  if c.here? ≠ some '!' then .error f
  else
    let (word, after) := c.next.span isWordChar
    if c.ahead? 1 = some ' ' then .ok ("!", c.next)
    else if after.here? = some '!' then .ok (String.ofList ('!' :: word ++ ['!']), after.next)
    else .error f

/-- The bytes that two-digit codes behind percent signs stand for. -/
def codedBytes : List Char → Option (List UInt8)
  | [] => some []
  | '%' :: h :: l :: rest => do
    let n ← Quoted.hexValue? [h, l]
    return UInt8.ofNat n :: (← codedBytes rest)
  | _ => none

/-- The text of a tag, in which codes behind percent signs stand for bytes. -/
def uriText : (fuel : Nat) → List Char → Option (List Char)
  | 0, _ => some []
  | _ + 1, [] => some []
  | fuel + 1, '%' :: rest => do
    let codes := codesOf fuel ('%' :: rest)
    let bytes ← codedBytes codes
    let text ← String.fromUTF8? ⟨bytes.toArray⟩
    return text.toList ++ (← uriText fuel (('%' :: rest).drop codes.length))
  | fuel + 1, c :: rest => (uriText fuel rest).map (c :: ·)
where
  /-- The codes that a text starts with, each with its percent sign. -/
  codesOf : Nat → List Char → List Char
    | fuel + 1, '%' :: rest => '%' :: rest.take 2 ++ codesOf fuel (rest.drop 2)
    | _, _ => []

/-- Reads the text of a tag up to a character that cannot stand in one. -/
def readUri (f : Fault) (c : Cursor) : Except Fault (String × Cursor) :=
  let (text, c) := c.span isUriChar
  match uriText (text.length + 1) text with
  | some uri => if text.isEmpty then .error f else .ok (String.ofList uri, c)
  | none => .error f

/-- Reads a tag. -/
def readTag (c : Cursor) : Except Fault (Token × Cursor) := do
  let (token, c) ←
    match c.ahead? 1 with
    | some '<' => do
      let (suffix, c) ← readUri .badTag (c.skip 2)
      if c.here? ≠ some '>' then .error .badTag
      pure (Token.tag none suffix, c.next)
    | next =>
      if endsWord next then pure (Token.tag none "!", c.next)
      else do
        let word := c.next.rest.takeWhile fun ch => !endsTag (some ch)
        let (handle, c) ← if word.contains '!' then readHandle .badTag c else pure ("!", c.next)
        let (suffix, c) ← readUri .badTag c
        pure (Token.tag (some handle) suffix, c)
  if endsTag c.here? then return (token, c) else .error .badTag

/-- Reads a number in decimal. -/
def readNumber (c : Cursor) : Except Fault (Nat × Cursor) :=
  let (digits, c) := c.span Char.isDigit
  if digits.isEmpty then .error .badDirective
  else .ok (digits.foldl (fun n d => 10 * n + (d.toNat - '0'.toNat)) 0, c)

/-- Reads a directive and the end of its line. -/
def readDirective (c : Cursor) : Except Fault (Token × Cursor) := do
  let (name, c) := c.next.span isWordChar
  if name.isEmpty || !endsTag c.here? then .error .badDirective
  let spaces (c : Cursor) : Cursor := c.skipWhile (· = ' ')
  let (token, c) ←
    if name = "YAML".toList then do
      let (major, c) ← readNumber (spaces c)
      if c.here? ≠ some '.' then .error .badDirective
      let (_, c) ← readNumber c.next
      pure (Token.version major, c)
    else if name = "TAG".toList then do
      let (handle, c) ← readHandle .badDirective (spaces c)
      if c.here? ≠ some ' ' then .error .badDirective
      let (start, c) ← readUri .badDirective (spaces c)
      pure (Token.handle handle start, c)
    else pure (Token.reserved, c.skipWhile (!isBreak ·))
  if !endsTag c.here? then .error .badDirective
  return (token, ← Block.endOfLine .badDirective c)

/-! ### The state between two tokens -/

/-- A token that may turn out to begin a key. -/
structure OpenKey where
  /-- The number of tokens in front of it. -/
  place : Nat
  /-- Whether it stands where only a key can. -/
  required : Bool
  index : Nat
  line : Nat
  column : Nat
  deriving DecidableEq, Repr

structure Lexer where
  cursor : Cursor
  /-- The number of flow collections around. -/
  flow : Nat
  /-- The column of the block collection that is open, or -1. -/
  indent : Int
  /-- The same of those around it, the innermost first. -/
  outer : List Int
  /-- Whether a key may begin here. -/
  allowKey : Bool
  /-- By the number of flow collections around it, what may begin a key. -/
  keys : List (Nat × OpenKey)
  tokens : Array Token

namespace Lexer

/-- A byte order mark at the very start is stepped over. -/
def ofText (text : List Char) : Lexer :=
  let c := Cursor.ofText text
  ⟨if c.here? = some '\ufeff' then c.next else c, 0, -1, [], true, [], #[]⟩

/-- The greatest number of characters of a key that nothing announces. -/
def maxKeyLength : Nat := 1024

def push (l : Lexer) (t : Token) : Lexer := { l with tokens := l.tokens.push t }

/-- Puts a token in front of those from a place on. -/
def insert (l : Lexer) (place : Nat) (t : Token) : Lexer :=
  { l with tokens := (l.tokens.extract 0 place).push t ++ l.tokens.extract place l.tokens.size }

/-- Steps over some characters that make a token. -/
def take (l : Lexer) (n : Nat) (t : Token) : Lexer :=
  { l.push t with cursor := l.cursor.skip n }

/-- Closes the block collections that are indented more than a column. -/
def unwindTo (column : Int) (l : Lexer) : List Int → Lexer
  | [] => l
  | o :: outer =>
    if column < l.indent then
      unwindTo column { l.push .blockEnd with indent := o, outer := outer } outer
    else l

/-- The same, but nothing is closed inside a flow collection. -/
def unwind (column : Int) (l : Lexer) : Lexer :=
  if l.flow = 0 then unwindTo column l l.outer else l

/-- Opens a block collection if a column is indented more than what is open. -/
def openBlock (l : Lexer) (column : Nat) (place : Nat) (t : Token) : Lexer :=
  if l.indent < column then
    { l.insert place t with indent := column, outer := l.indent :: l.outer }
  else l

/-- Gives up what can no longer begin a key. -/
def dropStale (l : Lexer) : Except Fault Lexer :=
  let stale (k : OpenKey) : Bool :=
    k.line != l.cursor.line || maxKeyLength < l.cursor.index - k.index
  if l.keys.any fun k => stale k.2 && k.2.required then .error .missingValueMark
  else .ok { l with keys := l.keys.filter fun k => !stale k.2 }

/-- What may begin a key here, if anything. -/
def key? (l : Lexer) : Option OpenKey := (l.keys.find? (·.1 = l.flow)).map (·.2)

/-- Forgets what may begin a key here. -/
def dropKey (l : Lexer) : Except Fault Lexer :=
  if l.key?.any (·.required) then .error .missingValueMark
  else .ok { l with keys := l.keys.filter (·.1 ≠ l.flow) }

/-- Notes that the token that follows may begin a key. -/
def saveKey (l : Lexer) : Except Fault Lexer :=
  if l.allowKey then do
    let l ← l.dropKey
    let c := l.cursor
    let required := l.flow = 0 && l.indent = c.column
    let key : OpenKey := ⟨l.tokens.size, required, c.index, c.line, c.column⟩
    return { l with keys := (l.flow, key) :: l.keys }
  else .ok l

/-- Steps to the next token: over spaces, comments and the ends of lines. -/
def skipBlanks : (fuel : Nat) → Lexer → Lexer
  | 0, l => l
  | fuel + 1, l =>
    let c := l.cursor.skipWhile (· = ' ')
    let c := if c.here? = some '#' then c.skipWhile (!isBreak ·) else c
    match c.lineBreak? with
    | some (_, c) => skipBlanks fuel { l with cursor := c, allowKey := l.allowKey || l.flow = 0 }
    | none => { l with cursor := c }

/-! ### Tokens -/

/-- A mark or a directive between documents. -/
def boundary (l : Lexer) : Except Fault Lexer := do
  return { ← (l.unwind (-1)).dropKey with allowKey := false }

def openFlow (l : Lexer) (t : Token) : Except Fault Lexer := do
  let l ← l.saveKey
  return { l.take 1 t with flow := l.flow + 1, allowKey := true }

def closeFlow (l : Lexer) (c : Char) (t : Token) : Except Fault Lexer := do
  let l ← l.dropKey
  if l.flow = 0 then .error (.unopened c)
  return { l.take 1 t with flow := l.flow - 1, allowKey := false }

def comma (l : Lexer) : Except Fault Lexer := do
  return { (← l.dropKey).take 1 .comma with allowKey := true }

def entry (l : Lexer) : Except Fault Lexer := do
  if l.flow = 0 && !l.allowKey then .error .misplacedEntry
  let l := if l.flow = 0 then l.openBlock l.cursor.column l.tokens.size .blockSequence else l
  return { (← l.dropKey).take 1 .entry with allowKey := true }

def key (l : Lexer) : Except Fault Lexer := do
  if l.flow = 0 && !l.allowKey then .error .misplacedKey
  let l := if l.flow = 0 then l.openBlock l.cursor.column l.tokens.size .blockMapping else l
  return { (← l.dropKey).take 1 .key with allowKey := l.flow = 0 }

def value (l : Lexer) : Except Fault Lexer := do
  match l.key? with
  | some k =>
    let l := { l with keys := l.keys.filter (·.1 ≠ l.flow) }
    let l := l.insert k.place .key
    let l := if l.flow = 0 then l.openBlock k.column k.place .blockMapping else l
    return { l.take 1 .value with allowKey := false }
  | none =>
    if l.flow = 0 && !l.allowKey then .error .misplacedValue
    let l := if l.flow = 0 then l.openBlock l.cursor.column l.tokens.size .blockMapping else l
    return { (← l.dropKey).take 1 .value with allowKey := l.flow = 0 }

/-- Adds a token that may begin a key. -/
def word (l : Lexer) (read : Cursor → Except ReadError (Token × Cursor)) :
    Except ReadError Lexer := do
  let l ← l.saveKey.mapError .fault
  let (t, c) ← read l.cursor
  return { l.push t with cursor := c, allowKey := false }

/-- A scalar as a token. -/
def scalarToken (r : List Char × Cursor) : Token × Cursor :=
  (.scalar (String.ofList r.1) false, r.2)

def blockScalar (l : Lexer) (folded : Bool) : Except Fault Lexer := do
  let l ← l.dropKey
  let (t, c) ← scalarToken <$> Block.read folded l.indent l.cursor.next
  return { l.push t with cursor := c, allowKey := true }

def plainScalar (l : Lexer) : Except Fault Lexer := do
  let l ← l.saveKey
  let r := Plain.read (l.flow ≠ 0) (l.indent + 1) l.cursor
  let scalar := Token.scalar (String.ofList r.text) true
  return { l.push scalar with cursor := r.cursor, allowKey := r.broken }

/-- Whether a plain scalar may begin here. -/
def startsPlain (l : Lexer) (c : Char) : Bool :=
  let last := endsWord (l.cursor.ahead? 1)
  if c = '-' then !last
  else if c = '?' || c = ':' then !last && l.flow = 0
  else !(isSpace c || isBreak c || ",[]\x7b\x7d#&*!|>'\"%@\x60".toList.contains c)

/-- Adds the token that begins with `c`. -/
def token (l : Lexer) (c : Char) : Except ReadError Lexer :=
  let last := endsWord (l.cursor.ahead? 1)
  let atMargin := l.cursor.column = 0
  let lift (x : Except Fault Lexer) : Except ReadError Lexer := x.mapError .fault
  let named (make : String → Token) : Cursor → Except ReadError (Token × Cursor) := fun c =>
    ((readName c.next).map fun r => (make r.1, r.2)).mapError .fault
  if c = '%' && atMargin then lift do
    let l ← l.boundary
    let (t, c) ← readDirective l.cursor
    return { l.push t with cursor := c }
  else if atMargin && l.cursor.atMarks '-' then lift do return (← l.boundary).take 3 .documentStart
  else if atMargin && l.cursor.atMarks '.' then lift do return (← l.boundary).take 3 .documentEnd
  else if c = '[' then lift (l.openFlow .openSequence)
  else if c = '\x7b' then lift (l.openFlow .openMapping)
  else if c = ']' then lift (l.closeFlow c .closeSequence)
  else if c = '\x7d' then lift (l.closeFlow c .closeMapping)
  else if c = ',' then lift l.comma
  else if c = '-' && last then lift l.entry
  else if c = '?' && (l.flow ≠ 0 || last) then lift l.key
  else if c = ':' && (l.flow ≠ 0 || last) then lift l.value
  else if c = '*' then l.word (named .alias)
  else if c = '&' then l.word (named .anchor)
  else if c = '!' then l.word fun c => (readTag c).mapError .fault
  else if c = '|' && l.flow = 0 then lift (l.blockScalar false)
  else if c = '>' && l.flow = 0 then lift (l.blockScalar true)
  else if c = '\'' then l.word fun c => scalarToken <$> Quoted.read false c
  else if c = '"' then l.word fun c => scalarToken <$> Quoted.read true c
  else if l.startsPlain c then lift l.plainScalar
  else .error (.fault (.unexpected c))

/-- Adds tokens up to the end of the text; `fuel` is greater than the length of the text. -/
def run : (fuel : Nat) → Lexer → Except ReadError (List Token)
  | 0, l => .ok l.tokens.toList
  | fuel + 1, l => do
    let l ← (skipBlanks (l.cursor.rest.length + 1) l).dropStale.mapError .fault
    let l := l.unwind l.cursor.column
    match l.cursor.here? with
    | none =>
      let l ← (l.unwind (-1)).dropKey.mapError .fault
      return l.tokens.toList
    | some c => run fuel (← l.token c)

end Lexer

/-- Whether a character may stand in a document. -/
def isPrintable (c : Char) : Bool :=
  c = '\t' || c = '\n' || c = '\r' || (' ' ≤ c && c ≤ '~') || c = '\x85' ||
    ('\xa0' ≤ c && c != '\ufffe' && c != '\uffff')

/-- The tokens of a text. -/
def Token.ofText (text : List Char) : Except ReadError (List Token) :=
  match text.find? (!isPrintable ·) with
  | some c => .error (.fault (.unprintable c))
  | none => (Lexer.ofText text).run (text.length + 1)

end ExcludeRules.Yaml
