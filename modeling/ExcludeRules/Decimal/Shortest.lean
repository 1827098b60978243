/-
The shortest decimal digits that read back as a given binary number.

A binary64 number is `m * 2 ^ q`.  The real numbers that round to it form an
interval, whose ends belong to it when `m` is even.  For one, two, … seventeen
digits the two decimals around the number are tried, and the first that lies in
the interval is taken, the nearer of the two where both do.

Main statement:
  * `nearest?_inside` : what is taken reads back.
-/

namespace ExcludeRules.Decimal

/-- A positive fraction. -/
structure Ratio where
  num : Nat
  den : Nat
  deriving DecidableEq, Repr

namespace Ratio

def lt (a b : Ratio) : Bool := a.num * b.den < b.num * a.den

def le (a b : Ratio) : Bool := a.num * b.den ≤ b.num * a.den

/-- The fraction `n * base ^ e`. -/
def scaled (n base : Nat) (e : Int) : Ratio :=
  if 0 ≤ e then ⟨n * base.pow e.toNat, 1⟩ else ⟨n, base.pow (-e).toNat⟩

end Ratio

/-- The numbers that round to `m * 2 ^ q`. -/
structure Interval where
  lower : Ratio
  value : Ratio
  upper : Ratio
  closed : Bool
  deriving DecidableEq, Repr

/-- The first bit of the fraction of a binary64 number: `2 ^ 52`. -/
def leadingBit : Nat := 0x10000000000000

namespace Interval

/-- The interval of `m * 2 ^ q`; below a power of two the numbers lie twice as close. -/
def ofBinary (m : Nat) (q : Int) : Interval :=
  let near := m = leadingBit ∧ q ≠ -1074
  ⟨if near then .scaled (4 * m - 1) 2 (q - 2) else .scaled (2 * m - 1) 2 (q - 1),
    .scaled m 2 q, .scaled (2 * m + 1) 2 (q - 1), m % 2 = 0⟩

def contains (i : Interval) (x : Ratio) : Bool :=
  if i.closed then i.lower.le x && x.le i.upper else i.lower.lt x && x.lt i.upper

/-- The multiple of `10 ^ e` in the interval that is nearest to its value, if there is one. -/
def nearest? (i : Interval) (e : Int) : Option Nat :=
  let v := i.value
  let d :=
    if 0 ≤ e then v.num / (v.den * Nat.pow 10 e.toNat) else v.num * Nat.pow 10 (-e).toNat / v.den
  let below := Ratio.scaled d 10 e
  let above := Ratio.scaled (d + 1) 10 e
  match i.contains below && d != 0, i.contains above with
  | true, true =>
    -- `v - below` against `above - v`, both doubled: the mean of the two against `v`
    let mean := Ratio.scaled (2 * d + 1) 10 e
    let twice : Ratio := ⟨2 * v.num, v.den⟩
    if twice.lt mean then some d
    else if mean.lt twice then some (d + 1)
    else some (if d % 2 = 0 then d else d + 1)
  | true, false => some d
  | false, true => some (d + 1)
  | false, false => none

theorem nearest?_inside {i : Interval} {e : Int} {d : Nat} (h : i.nearest? e = some d) :
    i.contains (Ratio.scaled d 10 e) = true := by
  simp only [nearest?] at h
  generalize (if 0 ≤ e then i.value.num / (i.value.den * Nat.pow 10 e.toNat)
    else i.value.num * Nat.pow 10 (-e).toNat / i.value.den) = k at h
  cases hb : (i.contains (Ratio.scaled k 10 e) && k != 0) <;>
    cases ha : i.contains (Ratio.scaled (k + 1) 10 e) <;>
    simp only [hb, ha, reduceCtorEq, Option.some.injEq] at h
  · subst h; exact ha
  · subst h
    exact (Bool.and_eq_true _ _ ▸ hb).1
  · have hb' := (Bool.and_eq_true _ _ ▸ hb).1
    split at h
    · simp only [Option.some.injEq] at h; subst h; exact hb'
    · split at h
      · simp only [Option.some.injEq] at h; subst h; exact ha
      · simp only [Option.some.injEq] at h
        subst h
        split
        · exact hb'
        · exact ha

end Interval

/-- The number of decimal digits of the whole part, or minus that of the zeros behind the point. -/
def magnitude (v : Ratio) : Int :=
  if v.den ≤ v.num then (toString (v.num / v.den)).length
  else
    let n := (toString (v.den / v.num)).length
    -- `10 ^ (n - 1) ≤ den / num < 10 ^ n`
    if v.den = v.num * Nat.pow 10 (n - 1) then 2 - (n : Int) else 1 - (n : Int)

/-- Digits and the place of the point: the number is `0.digits * 10 ^ point`. -/
structure Digits where
  digits : List Char
  point : Int
  deriving DecidableEq, Repr

/-- Removes the zeros at the end. -/
def Digits.trim (d : Digits) : Digits :=
  { d with digits := (d.digits.reverse.dropWhile (· = '0')).reverse }

/-- Tries `count` digits, then one more, `fuel` times at most. -/
def shortestFrom (i : Interval) (point : Int) : (fuel count : Nat) → Digits
  | 0, _ => ⟨['0'], 1⟩
  | fuel + 1, count =>
    match i.nearest? (point - count) with
    | some d =>
      let digits := (toString d).toList
      Digits.trim ⟨digits, point + ((digits.length : Int) - count)⟩
    | none => shortestFrom i point fuel (count + 1)

/-- The shortest digits of `m * 2 ^ q`, for positive `m`. -/
def shortest (m : Nat) (q : Int) : Digits :=
  let i := Interval.ofBinary m q
  shortestFrom i (magnitude i.value) 18 1

end ExcludeRules.Decimal
