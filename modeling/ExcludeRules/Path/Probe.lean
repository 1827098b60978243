/-
What a look at the disk says about a path.

The look does not follow links, and it may fail.  A path that holds a NUL is none that
the system can be asked about, while a table of what stands on the disk answers for any
text.  Main statement:
  * `find?_ofSystem_eq_none_iff` : the paths that the system cannot be asked about.
-/
import ExcludeRules.Path.Basic

namespace ExcludeRules

/-- What is found at a path. -/
inductive Finding
  | directory
  | file
  | link
  | special
  | missing
  /-- The look failed, for want of permission or otherwise. -/
  | refused
  deriving DecidableEq, Repr

/-- Whether a rule for directories may apply: only to something else it may not. -/
def Finding.maybeDirectory : Finding → Bool
  | .directory => true
  | .missing => true
  | .refused => true
  | _ => false

/-- A way to look at the disk: what is found at a path, given by its text, or nothing if the
question itself is an error.  That can only be where the path holds a NUL. -/
structure Probe where
  find? : String → Option Finding
  isSome_find? : ∀ path, '\x00' ∉ path.toList → (find? path).isSome = true

namespace Probe

/-- Looks paths up in a table. -/
def ofTable (table : String → Finding) : Probe := ⟨fun path => some (table path), fun _ _ => rfl⟩

/-- Asks the system, which takes no path that holds a NUL. -/
def ofSystem (look : String → Finding) : Probe where
  find? path := if path.toList.contains '\x00' then none else some (look path)
  isSome_find? path h := by rw [if_neg (mt List.contains_iff_mem.mp h)]; rfl

/-- Whether a directory, nothing, or no answer of the disk is found at a path. -/
def mayShowDirectory (probe : Probe) (path : String) : Bool :=
  (probe.find? path).any Finding.maybeDirectory

theorem find?_ofSystem_eq_none_iff {look : String → Finding} {path : String} :
    (ofSystem look).find? path = none ↔ '\x00' ∈ path.toList := by
  simp [ofSystem]

theorem mayShowDirectory_iff {probe : Probe} {path : String} :
    probe.mayShowDirectory path = true ↔
      probe.find? path ∈ [some .directory, some .missing, some .refused] := by
  unfold mayShowDirectory
  cases probe.find? path with
  | none => decide
  | some found => cases found <;> decide

end Probe

end ExcludeRules
