/-
Values of configuration and of log contexts.

A mapping keeps its entries in the order in which their keys came in.  Keys are
compared by value: a truth value is the number 0 or 1, and a whole floating
number is that integer.  Main statement:
  * `find?_put_self` : what is put under a key is found there.
-/
import ExcludeRules.Decimal.Format
import ExcludeRules.Text.Quoted

namespace ExcludeRules

inductive Value
  | null
  | bool (b : Bool)
  | int (n : Int)
  | float (x : Float)
  | text (s : String)
  | bytes (bs : List UInt8)
  | list (items : List Value)
  /-- The members stand in the order in which they are gone through. -/
  | set (members : List Value)
  | map (entries : List (Value × Value))
  /-- A value of another kind, such as a date; its text tells it from others of its kind. -/
  | other (kind text : String)
  deriving Inhabited

namespace Value

/-! ### Equality of keys -/

/-- The integer that a number or a truth value is, if it is one. -/
def integer? : Value → Option Int
  | bool b => some (if b then 1 else 0)
  | int n => some n
  | float x => Decimal.integer? x
  | _ => none

/-- Whether two keys are one.  Lists, sets and mappings cannot be keys, and are never equal. -/
def sameKey : Value → Value → Bool
  | null, null => true
  | text a, text b => a == b
  | bytes a, bytes b => a == b
  | other k a, other l b => k == l && a == b
  | a, b =>
    match a.integer?, b.integer? with
    | some m, some n => m == n
    | none, none =>
      match a, b with
      | float x, float y => x.toBits == y.toBits
      | _, _ => false
    | _, _ => false

/-- Whether a value can be a key. -/
def isKey : Value → Bool
  | list _ => false
  | set _ => false
  | map _ => false
  | _ => true

/-- The entries with a value put under a key: in its place, or at the end. -/
def put {α : Type} (key : Value) (value : α) : List (Value × α) → List (Value × α)
  | [] => [(key, value)]
  | (k, v) :: rest => if k.sameKey key then (k, value) :: rest else (k, v) :: put key value rest

/-- What the entries hold under a key. -/
def find? {α : Type} (key : Value) (entries : List (Value × α)) : Option α :=
  (entries.find? (·.1.sameKey key)).map (·.2)

theorem find?_put_self {α : Type} {key : Value} {value : α} {entries : List (Value × α)}
    (h : key.sameKey key = true) : find? key (put key value entries) = some value := by
  induction entries with
  | nil => simp [put, find?, h]
  | cons e rest ih =>
    obtain ⟨k, v⟩ := e
    by_cases hk : k.sameKey key = true
    · simp [put, find?, hk]
    · simpa [put, find?, hk] using ih

/-- Whether a value counts as given: empty and zero values do not. -/
def isTruthy : Value → Bool
  | null => false
  | bool b => b
  | int n => n != 0
  | float x => !(x == 0.0)
  | text s => s != ""
  | bytes bs => !bs.isEmpty
  | list items => !items.isEmpty
  | set members => !members.isEmpty
  | map entries => !entries.isEmpty
  | other _ _ => true

/-! ### Texts -/

mutual

/-- The text of a value inside a list or a mapping: strings are quoted. -/
def literal : Value → String
  | null => "None"
  | bool b => if b then "True" else "False"
  | int n => toString n
  | float x => Decimal.text x
  | text s => Text.quote s
  | bytes bs => Text.quoteBytes bs
  | list items => "[" ++ ", ".intercalate (literals items) ++ "]"
  | set [] => "set()"
  | set members => "\x7b" ++ ", ".intercalate (literals members) ++ "\x7d"
  | map entries => "\x7b" ++ ", ".intercalate (entryLiterals entries) ++ "\x7d"
  | other _ s => s

def literals : List Value → List String
  | [] => []
  | v :: vs => v.literal :: literals vs

def entryLiterals : List (Value × Value) → List String
  | [] => []
  | (k, v) :: es => (k.literal ++ ": " ++ v.literal) :: entryLiterals es

end

/-- The text of a value on its own: a string is itself. -/
def toString : Value → String
  | text s => s
  | v => v.literal

end Value

end ExcludeRules
