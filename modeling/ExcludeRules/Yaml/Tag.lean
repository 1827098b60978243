/-
Tags, and the tags of scalars that are written without one.

A plain scalar is typed by its form: some words are truth values or null, and
numbers and dates are recognised as such; all else is text.
-/
import ExcludeRules.Yaml.Moment

namespace ExcludeRules.Yaml

inductive Tag
  | null
  | truth
  | integer
  | float
  | text
  | time
  | binary
  | sequence
  | mapping
  | set
  | ordered
  | pairs
  /-- The key whose value is a mapping to merge in. -/
  | merge
  /-- The key whose value stands for the whole mapping. -/
  | standIn
  | named (name : String)
  deriving DecidableEq, Repr

namespace Tag

/-- What the names of the tags of the standard begin with. -/
def standard : String := "tag:yaml.org,2002:"

def names : List (String × Tag) := [
  ("null", null), ("bool", truth), ("int", integer), ("float", float), ("str", text),
  ("timestamp", time), ("binary", binary), ("seq", sequence), ("map", mapping), ("set", set),
  ("omap", ordered), ("pairs", pairs), ("merge", merge), ("value", standIn)]

def ofName (name : String) : Tag :=
  match names.find? fun e => standard ++ e.1 = name with
  | some (_, tag) => tag
  | none => named name

/-! ### The forms of plain scalars -/

def truthWords : List String := [
  "yes", "Yes", "YES", "no", "No", "NO", "true", "True", "TRUE", "false", "False", "FALSE",
  "on", "On", "ON", "off", "Off", "OFF"]

def nullWords : List String := ["", "~", "null", "Null", "NULL"]

/-- A text without a sign in front. -/
def unsigned : List Char → List Char
  | '-' :: rest => rest
  | '+' :: rest => rest
  | s => s

/-- Whether all of a text passes a test, and there is any. -/
def allOf (p : Char → Bool) (s : List Char) : Bool := !s.isEmpty && s.all p

def isHexDigit (c : Char) : Bool := c.isDigit || ('a' ≤ c && c ≤ 'f') || ('A' ≤ c && c ≤ 'F')

def isDigitOrBar (c : Char) : Bool := c.isDigit || c = '_'

/-- Whether groups of at most two digits follow, each behind a colon and below sixty. -/
def sixties : List Char → Bool
  | [] => true
  | [':', a] => a.isDigit
  | ':' :: a :: ':' :: rest => a.isDigit && sixties (':' :: rest)
  | ':' :: a :: b :: rest => '0' ≤ a && a ≤ '5' && b.isDigit && sixties rest
  | _ => false

/-- Whether a number begins with a digit, and digits and underscores follow. -/
def isCount : List Char → Bool
  | [] => false
  | c :: rest => c.isDigit && rest.all isDigitOrBar

/-- Whether a number with groups of sixty is written: a count and at least one group. -/
def isSixties (s : List Char) : Bool :=
  let groups := s.dropWhile (· ≠ ':')
  isCount (s.takeWhile (· ≠ ':')) && !groups.isEmpty && sixties groups

def isInteger (s : List Char) : Bool :=
  match unsigned s with
  | '0' :: 'b' :: rest => allOf (fun c => c = '0' || c = '1' || c = '_') rest
  | '0' :: 'x' :: rest => allOf (fun c => isHexDigit c || c = '_') rest
  | '0' :: rest => rest.all fun c => ('0' ≤ c && c ≤ '7') || c = '_'
  | rest => isCount rest || isSixties rest

/-- Whether nothing or an exponent with a sign follows. -/
def isExponent : List Char → Bool
  | [] => true
  | e :: sign :: digits =>
    (e = 'e' || e = 'E') && (sign = '-' || sign = '+') && allOf Char.isDigit digits
  | _ => false

def isFloat (s : List Char) : Bool :=
  let word := String.ofList s
  let body := unsigned s
  let whole := body.takeWhile (· ≠ '.')
  match body.dropWhile (· ≠ '.') with
  | [] => false
  | _ :: fraction =>
    let exponent := fraction.dropWhile isDigitOrBar
    if whole.isEmpty then
      String.ofList fraction ∈ ["inf", "Inf", "INF"] || word ∈ [".nan", ".NaN", ".NAN"] ||
        (s = body && isCount (fraction.takeWhile isDigitOrBar) && isExponent exponent)
    else (isCount whole && isExponent exponent) || (isSixties whole && exponent.isEmpty)

/-- The tag of a plain scalar. -/
def ofPlain (s : String) : Tag :=
  if s ∈ truthWords then truth
  else if s ∈ nullWords then null
  else if isFloat s.toList then float
  else if isInteger s.toList then integer
  else if s = "<<" then merge
  else if (Moment.ofText? s.toList).any (·.isEvident) then time
  else if s = "=" then standIn
  else text

end Tag

end ExcludeRules.Yaml
