/-
Dates and points in time.

A date is a year of four digits, a month and a day; a time of day may follow, with
a fraction of a second and a time zone.
-/

namespace ExcludeRules.Yaml

structure TimeOfDay where
  hour : Nat
  minute : Nat
  second : Nat
  /-- The digits behind the point. -/
  fraction : List Char
  /-- The minutes by which the zone is ahead, if one is given. -/
  zone : Option Int
  deriving DecidableEq, Repr

structure Moment where
  year : Nat
  month : Nat
  day : Nat
  time : Option TimeOfDay
  /-- Whether month and day have two digits each. -/
  padded : Bool
  deriving DecidableEq, Repr

namespace Moment

def number (digits : List Char) : Nat :=
  digits.foldl (fun n c => 10 * n + (c.toNat - '0'.toNat)) 0

/-- Reads one or two digits. -/
def pair? (s : List Char) : Option (List Char × List Char) :=
  let digits := (s.take 2).takeWhile Char.isDigit
  if digits.isEmpty then none else some (digits, s.drop digits.length)

/-- Reads exactly two digits behind a mark. -/
def twoAfter? (mark : Char) : List Char → Option (Nat × List Char)
  | m :: a :: b :: rest =>
    if m = mark && a.isDigit && b.isDigit then some (number [a, b], rest) else none
  | _ => none

/-- Reads a time zone, which ends the text. -/
def zone? : List Char → Option (Option Int)
  | [] => some none
  | s =>
    match s.dropWhile fun c => c = ' ' || c = '\t' with
    | ['Z'] => some (some 0)
    | sign :: rest => do
      if sign ≠ '+' && sign ≠ '-' then none
      let (hours, rest) ← pair? rest
      let minutes ← match rest with
        | [] => some 0
        | rest => do
          let (minutes, rest) ← twoAfter? ':' rest
          if rest.isEmpty then some minutes else none
      let ahead : Int := (60 * number hours + minutes : Nat)
      return some (if sign = '-' then -ahead else ahead)
    | [] => none

/-- Reads what stands behind a date. -/
def time? (s : List Char) : Option TimeOfDay := do
  let s ← match s with
    | 'T' :: rest => some rest
    | 't' :: rest => some rest
    | c :: rest =>
      if c = ' ' || c = '\t' then some (rest.dropWhile fun c => c = ' ' || c = '\t') else none
    | [] => none
  let (hour, s) ← pair? s
  let (minute, s) ← twoAfter? ':' s
  let (second, s) ← twoAfter? ':' s
  let (fraction, s) := match s with
    | '.' :: rest => (rest.takeWhile Char.isDigit, rest.dropWhile Char.isDigit)
    | s => ([], s)
  return ⟨number hour, minute, second, fraction, ← zone? s⟩

/-- Reads a date, or a date and a time. -/
def ofText? (s : List Char) : Option Moment := do
  let year := s.take 4
  if year.length < 4 || year.any (!·.isDigit) then none
  let (month, s) ← match s.drop 4 with
    | '-' :: rest => pair? rest
    | _ => none
  let (day, s) ← match s with
    | '-' :: rest => pair? rest
    | _ => none
  let padded := month.length = 2 && day.length = 2
  let time ← if s.isEmpty then some none else (time? s).map some
  return ⟨number year, number month, number day, time, padded⟩

/-- Whether a text is taken for a moment though nothing says that it is one. -/
def isEvident (m : Moment) : Bool := m.padded || m.time.isSome

def isLeap (year : Nat) : Bool := year % 4 = 0 && (year % 100 ≠ 0 || year % 400 = 0)

def daysOf (year month : Nat) : Nat :=
  if month = 2 then if isLeap year then 29 else 28
  else if month ∈ [4, 6, 9, 11] then 30 else 31

/-- Whether the calendar has the day and the day has the time. -/
def isValid (m : Moment) : Bool :=
  1 ≤ m.year && 1 ≤ m.month && m.month ≤ 12 && 1 ≤ m.day && m.day ≤ daysOf m.year m.month &&
    m.time.all fun t =>
      t.hour < 24 && t.minute < 60 && t.second < 60 &&
        t.zone.all fun z => -1440 < z && z < 1440

/-- A text that tells moments apart. -/
def text (m : Moment) : String :=
  let date := toString m.year ++ "-" ++ toString m.month ++ "-" ++ toString m.day
  match m.time with
  | none => date
  | some t =>
    date ++ " " ++ toString t.hour ++ ":" ++ toString t.minute ++ ":" ++ toString t.second
      ++ "." ++ String.ofList (t.fraction.take 6) ++ " " ++ (t.zone.map toString).getD ""

end Moment

end ExcludeRules.Yaml
