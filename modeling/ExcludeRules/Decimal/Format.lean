/-
Writing and reading binary64 numbers in decimal.

A number is written with the fewest digits that read back, positionally while
the point stands at most sixteen places right of the first digit and at most three
places left of it, and with an exponent otherwise.
-/
import ExcludeRules.Decimal.Shortest

namespace ExcludeRules.Decimal

/-- The decisions that fix how numbers are written. -/
structure Format where
  /-- The greatest place of the point, counted from the first digit, without an exponent. -/
  greatestPoint : Int
  /-- The least place of the point without an exponent. -/
  leastPoint : Int
  exponentMark : Char
  leastExponentDigits : Nat
  infinity : String
  notANumber : String

/-- The format of all numbers that are shown. -/
def standard : Format := ⟨16, -3, 'e', 2, "inf", "nan"⟩

/-- The bit that says that a number is below zero. -/
def signBit : Nat := 0x8000000000000000

namespace Format

/-- Writes digits by place value. -/
def positional (d : Digits) : List Char :=
  if d.point ≤ 0 then '0' :: '.' :: List.replicate (-d.point).toNat '0' ++ d.digits
  else
    let whole := d.point.toNat
    if d.digits.length ≤ whole then
      d.digits ++ List.replicate (whole - d.digits.length) '0' ++ ['.', '0']
    else d.digits.take whole ++ '.' :: d.digits.drop whole

/-- Writes digits with an exponent. -/
def exponential (n : Format) (d : Digits) : List Char :=
  let e := d.point - 1
  let digits := (toString e.natAbs).toList
  let fraction := d.digits.drop 1
  d.digits.take 1 ++ (if fraction.isEmpty then [] else '.' :: fraction) ++
    [n.exponentMark, if e < 0 then '-' else '+'] ++
    List.replicate (n.leastExponentDigits - digits.length) '0' ++ digits

def digits (n : Format) (d : Digits) : List Char :=
  if n.leastPoint ≤ d.point ∧ d.point ≤ n.greatestPoint then positional d else n.exponential d

/-- Writes a number from its bits. -/
def ofBits (n : Format) (bits : UInt64) : String :=
  let raw := bits.toNat
  let sign := if signBit ≤ raw then "-" else ""
  let exponent : Nat := raw / leadingBit % 2048
  let fraction : Nat := raw % leadingBit
  if exponent = 2047 then if fraction = 0 then sign ++ n.infinity else n.notANumber
  else if exponent = 0 ∧ fraction = 0 then sign ++ "0.0"
  else
    let m := if exponent = 0 then fraction else leadingBit + fraction
    let q : Int := if exponent = 0 then -1074 else (exponent : Int) - 1075
    sign ++ String.ofList (n.digits (shortest m q))

end Format

/-- The text of a number. -/
def text (x : Float) : String := standard.ofBits x.toBits

/-- The integer that a number is, if it is whole. -/
def integer? (x : Float) : Option Int :=
  let raw := x.toBits.toNat
  let sign : Int := if signBit ≤ raw then -1 else 1
  let exponent : Nat := raw / leadingBit % 2048
  let m : Nat := if exponent = 0 then raw % leadingBit else leadingBit + raw % leadingBit
  if exponent = 2047 then none
  else if 1075 ≤ exponent then some (sign * (m * Nat.pow 2 (exponent - 1075) : Nat))
  else
    let unit := Nat.pow 2 (1075 - max exponent 1)
    if m % unit = 0 then some (sign * (m / unit : Nat)) else none

/-- The number `digits * 10 ^ e`; exponents that leave the range of binary64 are not worked out. -/
def ofDigits (digits : List Char) (e : Int) : Float :=
  let m := digits.foldl (fun n c => 10 * n + (c.toNat - '0'.toNat)) 0
  let size := (toString m).length + e
  if m = 0 then 0.0
  else if 400 < size then 1.0 / 0.0
  else if size < -400 then 0.0
  else Float.ofScientific m (e < 0) e.natAbs

/-- Splits a text at the first of some characters; nothing stands behind if there is none. -/
def cutAt (marks : List Char) (s : List Char) : List Char × Option (List Char) :=
  let before := s.takeWhile fun c => !marks.contains c
  (before, if before.length < s.length then some (s.drop (before.length + 1)) else none)

/-- A whole number in decimal, with a sign or without. -/
def readInt? (s : List Char) : Option Int :=
  let digits := match s with
    | '-' :: rest => rest
    | '+' :: rest => rest
    | rest => rest
  if digits.isEmpty || digits.any (!·.isDigit) then none
  else
    let n := digits.foldl (fun n c => 10 * n + (c.toNat - '0'.toNat)) 0
    some (if s.head? = some '-' then -(n : Int) else n)

/-- A decimal number with an optional sign, fraction and exponent, or one of the words. -/
def read? (s : List Char) : Option Float :=
  let (negative, body) := match s with
    | '-' :: rest => (true, rest)
    | '+' :: rest => (false, rest)
    | rest => (false, rest)
  let signed (x : Float) : Float := if negative then -x else x
  let word := body.map Char.toLower
  if word = "inf".toList || word = "infinity".toList then some (signed (1.0 / 0.0))
  else if word = "nan".toList then some (0.0 / 0.0)
  else
    let (mantissa, exponent) := cutAt ['e', 'E'] body
    let (whole, fraction) := cutAt ['.'] mantissa
    let fraction := fraction.getD []
    let exponent? := match exponent with
      | none => some 0
      | some e => readInt? e
    match exponent? with
    | none => none
    | some e =>
      let digits := whole ++ fraction
      if digits.isEmpty || digits.any (!·.isDigit) then none
      else some (signed (ofDigits digits (e - fraction.length)))

end ExcludeRules.Decimal
