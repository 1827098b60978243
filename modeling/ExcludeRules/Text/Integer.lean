/-
Integers as people write them.

Digits of any script count, single underscores may stand between digits, and blank
characters around the number do not matter.
-/
import ExcludeRules.Text.Blank
import ExcludeRules.Text.Digit

namespace ExcludeRules.Text

/-- Whether a blank character may stand around an integer. -/
def isPadding (c : Char) : Bool :=
  if c.toNat < 0x80 then c = ' ' || (0x9 ≤ c.toNat && c.toNat ≤ 0xD) else isBlank c

/-- The value of decimal digits with single underscores between them. -/
def digitsValue? : (value : Nat) → (afterDigit : Bool) → List Char → Option Nat
  | value, afterDigit, [] => if afterDigit then some value else none
  | value, afterDigit, c :: rest =>
    if c = '_' then if afterDigit then digitsValue? value false rest else none
    else match digitValue? c with
      | some d => digitsValue? (10 * value + d) true rest
      | none => none

/-- The greatest number of digits of an integer. -/
def maxIntegerDigits : Nat := 4300

/-- Reads an integer. -/
def integer? (s : List Char) : Option Int :=
  let s := ((s.dropWhile isPadding).reverse.dropWhile isPadding).reverse
  let (negative, digits) := match s with
    | '-' :: rest => (true, rest)
    | '+' :: rest => (false, rest)
    | rest => (false, rest)
  if maxIntegerDigits < (digits.filter (· ≠ '_')).length then none
  else (digitsValue? 0 false digits).map fun (n : Nat) => if negative then -(n : Int) else n

end ExcludeRules.Text
