/-
The values that YAML documents stand for.

A mapping takes over the entries of the mappings that it merges, in front of its
own; of entries with one key the last counts, in the place of the first.  Keys have
to be values that can be compared.  A mapping that aliases and mergers bring to several
places is one mapping.

This is one reader of documents among others.  It decodes a file before it looks at its
grammar, takes in values however deep they lie in one another, refuses a node that holds
itself, and goes through a set in the order in which it is written.
-/
import ExcludeRules.Document
import ExcludeRules.Text.Case
import ExcludeRules.Text.Integer
import ExcludeRules.Text.Lines
import ExcludeRules.Text.Split
import ExcludeRules.Yaml.Node

namespace ExcludeRules.Yaml

/-! ### Scalars -/

/-- A text without its underscores. -/
def withoutBars (s : List Char) : List Char := s.filter (· ≠ '_')

/-- Cuts the sign off a number; true stands for a minus. -/
def cutSign : List Char → Bool × List Char
  | '-' :: rest => (true, rest)
  | '+' :: rest => (false, rest)
  | s => (false, s)

/-- The value of digits in a base up to sixteen. -/
def digitsIn (base : Nat) (digits : List Char) : Except Misfit Int :=
  let value? := digits.foldlM
    (fun n c => (Quoted.hexDigit? c).bind fun d => if d < base then some (base * n + d) else none) 0
  match digits, value? with
  | _ :: _, some n => .ok (n : Nat)
  | _, _ => .error .value

def decimal (s : List Char) : Except Misfit Int :=
  match Text.integer? s with
  | some n => .ok n
  | none => .error .value

/-- The number whose digits to the base sixty are given. -/
def sumOfSixties (parts : List Int) : Int := parts.foldl (fun n part => 60 * n + part) 0

/-- The integer that a text spells. -/
def integerOf (s : String) : Except Misfit Int := do
  let (negative, body) := cutSign (withoutBars s.toList)
  let n : Int ← match body with
    | [] => .error .nothing
    | ['0'] => .ok 0
    | '0' :: 'b' :: digits => digitsIn 2 digits
    | '0' :: 'x' :: digits => digitsIn 16 digits
    | '0' :: digits => digitsIn 8 ('0' :: digits)
    | body =>
      if body.contains ':' then sumOfSixties <$> (Text.split ':' body).mapM decimal
      else decimal body
  return if negative then -n else n

def realOf (s : List Char) : Except Misfit Float :=
  match Decimal.read? (Text.trim s) with
  | some x => .ok x
  | none => .error .value

/-- The number that digits to the base sixty stand for, added up from the last. -/
def sumOfRealSixties (parts : List Float) : Float :=
  ((parts.reverse.mapIdx fun i part => part * Float.ofNat (Nat.pow 60 i)).foldl (· + ·) 0.0)

/-- The floating number that a text spells. -/
def floatOf (s : String) : Except Misfit Float := do
  let (negative, body) := cutSign (Text.lower (withoutBars s.toList))
  let x ←
    if s.toList.all (· = '_') then .error .nothing
    else if body = ".inf".toList then pure (1.0 / 0.0)
    else if body = ".nan".toList then pure (0.0 / 0.0)
    else if body.contains ':' then sumOfRealSixties <$> (Text.split ':' body).mapM realOf
    else realOf body
  return if negative then -x else x

/-- The truth value that a word spells, without regard to case. -/
def truthOf (s : String) : Except Misfit Bool :=
  let word := String.ofList (Text.lower s.toList)
  if word ∈ ["yes", "true", "on"] then .ok true
  else if word ∈ ["no", "false", "off"] then .ok false
  else .error (.word word)

/-- The moment that a text spells; what it is told from others by is its text. -/
def momentOf (s : String) : Except Misfit Value :=
  match Moment.ofText? s.toList with
  | none => .error .time
  | some m =>
    if m.isValid then .ok (.other (if m.time.isSome then "datetime" else "date") m.text)
    else .error .value

/-- The value of a digit to the base sixty-four. -/
def base64Digit? (c : Char) : Option Nat :=
  if 'A' ≤ c && c ≤ 'Z' then some (c.toNat - 'A'.toNat)
  else if 'a' ≤ c && c ≤ 'z' then some (c.toNat - 'a'.toNat + 26)
  else if c.isDigit then some (c.toNat - '0'.toNat + 52)
  else if c = '+' then some 62
  else if c = '/' then some 63
  else none

/-- The bytes that groups of four digits spell, if they are complete; what is no digit is
passed over.  `left` are the bits that are left of the digit before. -/
def ofBase64? (place padding left : Nat) : List Char → Option (List UInt8)
  | [] => if place = 0 then some [] else none
  | c :: rest =>
    if c = '=' then
      if 2 ≤ place && 4 ≤ place + padding + 1 then some []
      else ofBase64? place (if 2 ≤ place then padding + 1 else padding) left rest
    else
      match base64Digit? c, place with
      | none, _ => ofBase64? place padding left rest
      | some d, 0 => ofBase64? 1 0 d rest
      | some d, 1 => (UInt8.ofNat (left * 4 + d / 16) :: ·) <$> ofBase64? 2 0 (d % 16) rest
      | some d, 2 => (UInt8.ofNat (left * 16 + d / 4) :: ·) <$> ofBase64? 3 0 (d % 4) rest
      | some d, _ => (UInt8.ofNat (left * 64 + d) :: ·) <$> ofBase64? 0 0 0 rest

/-! ### Values as they are built -/

/-- A value in which each mapping knows the node that it was made for. -/
inductive Built
  | leaf (v : Value)
  | list (items : List Built)
  | map (id : Nat) (entries : List (Value × Built))

namespace Built

mutual

def value : Built → Value
  | leaf v => v
  | list items => .list (values items)
  | map _ entries => .map (entryValues entries)

def values : List Built → List Value
  | [] => []
  | b :: bs => b.value :: values bs

def entryValues : List (Value × Built) → List (Value × Value)
  | [] => []
  | (k, b) :: es => (k, b.value) :: entryValues es

end

mutual

/-- The places of mappings in a value, each with the node of its mapping. -/
def places : Built → List (Nat × Place)
  | leaf _ => []
  | list items => itemPlaces 0 items
  | map id entries => (id, []) :: entryPlaces entries

def itemPlaces (n : Nat) : List Built → List (Nat × Place)
  | [] => []
  | b :: bs => b.places.map (fun e => (e.1, .item n :: e.2)) ++ itemPlaces (n + 1) bs

def entryPlaces : List (Value × Built) → List (Nat × Place)
  | [] => []
  | (k, b) :: es => b.places.map (fun e => (e.1, .key k :: e.2)) ++ entryPlaces es

end

/-- The value, with the places of the mappings that stand in several. -/
def document (b : Built) : Document :=
  let places := b.places
  let places (id : Nat) : List Place := (places.filter (·.1 = id)).map (·.2)
  ⟨b.value, ((b.places.map (·.1)).eraseDups.map places).filter (1 < ·.length)⟩

end Built

/-! ### Nodes -/

namespace Node

/-- The tag of a node. -/
def tag : Node → Tag
  | scalar tag _ => tag
  | sequence tag _ => tag
  | mapping _ tag _ => tag

def withTag (tag : Tag) : Node → Node
  | scalar _ text => scalar tag text
  | sequence _ items => sequence tag items
  | mapping id _ entries => mapping id tag entries

/-- The text of a scalar, or of the entry that stands in for a mapping. -/
def text : (fuel : Nat) → Node → Except Fault String
  | 0, _ => .error .tooDeep
  | fuel + 1, node =>
    match node with
    | scalar _ text => .ok text
    | sequence _ _ => .error .wrongShape
    | mapping _ _ entries =>
      match entries.find? fun e => e.1.tag = .standIn with
      | some (_, v) => v.text fuel
      | none => .error .wrongShape

/-- The entries of a mapping, those that it merges in front. -/
def flatten : (fuel : Nat) → List (Node × Node) → Except Fault (List (Node × Node))
  | 0, _ => .error .tooDeep
  | fuel + 1, entries => do
    let ofMapping (node : Node) : Except Fault (List (Node × Node)) :=
      match node with
      | mapping _ _ entries => flatten fuel entries
      | _ => .error .badMerge
    let merged ← entries.mapM fun (k, v) =>
      if k.tag ≠ .merge then pure []
      else match v with
        | sequence _ items => do return (← items.mapM ofMapping).reverse.flatten
        | v => ofMapping v
    let own := entries.filter (·.1.tag ≠ .merge)
    return merged.flatten ++ own.map fun (k, v) =>
      (if k.tag = .standIn then k.withTag .text else k, v)

def lift {α : Type} (x : Except Fault α) : Except ReadError α := x.mapError .fault

def fit {α : Type} (x : Except Misfit α) : Except ReadError α := x.mapError .misfit

mutual

/-- The value of a node. -/
def value : (fuel : Nat) → Node → Except ReadError Built
  | 0, _ => .error (.fault .tooDeep)
  | fuel + 1, node => do
    match node.tag with
    | .null =>
      let _ ← lift (node.text fuel)
      return .leaf .null
    | .truth => return .leaf (.bool (← fit (truthOf (← lift (node.text fuel)))))
    | .integer => return .leaf (.int (← fit (integerOf (← lift (node.text fuel)))))
    | .float => return .leaf (.float (← fit (floatOf (← lift (node.text fuel)))))
    | .text => return .leaf (.text (← lift (node.text fuel)))
    | .time => return .leaf (← fit (momentOf (← lift (node.text fuel))))
    | .binary =>
      let text ← lift (node.text fuel)
      match ofBase64? 0 0 0 text.toList with
      | some bytes =>
        if text.toList.any (0x80 ≤ ·.toNat) then .error (.fault .wrongShape)
        return .leaf (.bytes bytes)
      | none => .error (.fault .wrongShape)
    | .sequence =>
      match node with
      | .sequence _ items => return .list (← items.mapM (value fuel))
      | _ => .error (.fault .wrongShape)
    | .mapping =>
      match node with
      | .mapping id _ es => return .map id (← entries fuel es)
      | _ => .error (.fault .wrongShape)
    | .set =>
      match node with
      | .mapping _ _ es => return .leaf (.set ((← entries fuel es).map (·.1)))
      | _ => .error (.fault .wrongShape)
    | .ordered => pairs fuel node
    | .pairs => pairs fuel node
    | .merge => .error (.fault (.unknownTag "merge"))
    | .standIn => .error (.fault (.unknownTag "value"))
    | .named name => .error (.fault (.unknownTag name))

/-- The entries of a mapping; of those with one key the last counts. -/
def entries : (fuel : Nat) → List (Node × Node) → Except ReadError (List (Value × Built))
  | 0, _ => .error (.fault .tooDeep)
  | fuel + 1, es => do
    let es ← lift (flatten fuel es)
    es.foldlM
      (fun done (k, v) => do
        let key := (← value fuel k).value
        if !key.isKey then .error (.fault .unhashableKey)
        return Value.put key (← value fuel v) done)
      []

/-- A list of mappings with one entry each, as pairs. -/
def pairs : (fuel : Nat) → Node → Except ReadError Built
  | 0, _ => .error (.fault .tooDeep)
  | fuel + 1, node =>
    match node with
    | sequence _ items => do
      let pairs ← items.mapM fun item =>
        match item with
        | mapping _ _ [(k, v)] => do
          let key ← value fuel k
          return Built.list [key, ← value fuel v]
        | _ => .error (.fault .wrongShape)
      return .list pairs
    | _ => .error (.fault .wrongShape)

end

end Node

/-- The document that a text stands for, null where there is none. -/
def ofText (text : List Char) : Except ReadError Document := do
  match ← Node.ofText? text with
  | none => return .plain .null
  | some node => return (← node.value (4 * text.length + 4)).document

/-- The document that a file holds. -/
def read (bytes : List UInt8) : Except ReadError Document := do
  let text ← (Text.Utf8.decode bytes).mapError .encoding
  ofText (Text.withLineFeeds text)

end ExcludeRules.Yaml
