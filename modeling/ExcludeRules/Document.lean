/-
Documents: values in which a mapping may stand in several places.

A mapping that a file names and uses again is one mapping, and what is written into it is
seen in each of its places.  A value is put at the end of a path through mappings; the
mapping that it is put into is the last one on the way that is there, and mappings that are
missing are made below it.
-/
import ExcludeRules.Value

namespace ExcludeRules

/-! ### Paths and places -/

/-- One step into a value. -/
inductive Place.Step
  /-- To what a mapping holds under a key. -/
  | key (k : Value)
  | item (n : Nat)

/-- Where a value stands in another one. -/
abbrev Place := List Place.Step

/-- Whether two steps lead to the same. -/
def Place.Step.same : Place.Step → Place.Step → Bool
  | key k, key l => k.sameKey l
  | item m, item n => m == n
  | _, _ => false

namespace Place

/-- The place that a path through mappings leads to. -/
def ofPath (path : List String) : Place := path.map fun part => .key (.text part)

/-- What follows the first place in the second, if that begins with it. -/
def behind? : Place → Place → Option Place
  | [], q => some q
  | _ :: _, [] => none
  | s :: p, t :: q => if s.same t then behind? p q else none

/-- Whether two places turn off from each other. -/
def isApart : Place → Place → Bool
  | s :: p, t :: q => !s.same t || isApart p q
  | _, _ => false

end Place

namespace Value

/-- The value at the end of a path through mappings. -/
def at? (v : Value) : List String → Option Value
  | [] => some v
  | part :: parts =>
    match v with
    | map entries => (find? (.text part) entries).bind fun child => child.at? parts
    | _ => none

/-- Where a path runs into something that is no mapping: at its last part or before. -/
inductive Obstacle
  | atLastPart
  | onTheWay
  deriving DecidableEq, Repr

/-- Puts a value at the end of a path, making the mappings that are missing. -/
def assign (v : Value) (new : Value) : List String → Except Obstacle Value
  | [] => .ok new
  | [part] =>
    match v with
    | map entries => .ok (map (put (.text part) new entries))
    | _ => .error .atLastPart
  | part :: next :: parts =>
    match v with
    | map entries => do
      let child ← assign ((find? (.text part) entries).getD (map [])) new (next :: parts)
      return map (put (.text part) child entries)
    | _ => .error .onTheWay

/-- The value once another was put at the end of a path, or as it is if that is refused. -/
def assigned (new : Value) (path : List String) (v : Value) : Value :=
  (v.assign new path).toOption.getD v

/-- Changes what stands in a place, if anything does. -/
def modifyAt (f : Value → Value) : Place → Value → Value
  | [], v => f v
  | .key k :: place, map entries =>
    map (entries.map fun e => if e.1.sameKey k then (e.1, modifyAt f place e.2) else e)
  | .item n :: place, list items => list (items.modify n (modifyAt f place))
  | _, v => v

/-- How far a path, its last part apart, leads through mappings that are there. -/
def reach (v : Value) : List String → Nat
  | part :: next :: parts =>
    match v with
    | map entries =>
      match find? (.text part) entries with
      | some (map inner) => (map inner).reach (next :: parts) + 1
      | _ => 0
    | _ => 0
  | _ => 0

end Value

/-! ### Documents -/

/-- A value, with the places of each mapping in it that stands in several. -/
structure Document where
  value : Value
  shared : List (List Place)

namespace Document

/-- A value in which each mapping has its own place. -/
def plain (v : Value) : Document := ⟨v, []⟩

def empty : Document := plain (.map [])

/-- The other places of what stands in a place: what is below a shared mapping is shared. -/
def twins (d : Document) (place : Place) : List Place :=
  d.shared.flatMap fun places =>
    (places.filterMap (·.behind? place)).flatMap fun rest =>
      (places.map (· ++ rest)).filter place.isApart

/-- The way to the mapping that a value is put into which is put at the end of a path. -/
def way (d : Document) (path : List String) : Place := .ofPath (path.take (d.value.reach path))

/-- What is left of the path from there. -/
def rest (d : Document) (path : List String) : List String := path.drop (d.value.reach path)

/-- Once the value at the end of a path is put into one place of its mapping, it is put
into the others.  What it replaces no longer stands there, and what the new value shares
within itself it shares in all these places. -/
def spread (d new : Document) (path : List String) (value : Value) : Document :=
  let ways := d.way path :: d.twins (d.way path)
  let slots := ways.map (· ++ .ofPath ((d.rest path).take 1))
  let ends := ways.map (· ++ .ofPath (d.rest path))
  ⟨(d.twins (d.way path)).foldl
      (fun v place => v.modifyAt (Value.assigned new.value (d.rest path)) place) value,
    d.shared.map (·.filter fun place => slots.all fun slot => (slot.behind? place).isNone) ++
      new.shared.map fun places => ends.flatMap fun place => places.map (place ++ ·)⟩

/-- Puts a value at the end of a path, wherever its mapping stands. -/
def write (d new : Document) (path : List String) : Except Value.Obstacle Document := do
  return d.spread new path (← d.value.assign new.value path)

end Document

end ExcludeRules
