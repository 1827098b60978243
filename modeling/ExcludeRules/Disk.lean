/-
The files and directories that the program reads and writes.

Names are resolved step by step from the working directory, as the system does
it: every step but the last must be a directory, and neither a step nor a name may be too
long.  A name that holds a NUL is none, and is refused before the disk is looked at.
Main statements:
  * `find?_put_self` : a file that is stored is found;
  * `showing_of_read` : an error of reading shows the name that was asked for.
-/
import ExcludeRules.Path.Basic
import ExcludeRules.Text.Quoted

namespace ExcludeRules

/-- What a directory holds under a name. -/
inductive Entry
  | file (bytes : List UInt8)
  /-- A file that may be neither read nor written. -/
  | locked
  | directory
  /-- A directory that may be neither read nor entered. -/
  | closed
  deriving DecidableEq, Repr

/-- Why a file cannot be used; each cause of the disk shows the name that was asked for. -/
inductive DiskError
  | missing (shown : String)
  | isDirectory (shown : String)
  | notDirectory (shown : String)
  | denied (shown : String)
  | tooLong (shown : String)
  /-- A number that stands for no open file. -/
  | badDescriptor
  /-- The name holds a NUL.  This is no error of the disk, which is not asked. -/
  | nul
  deriving DecidableEq, Repr

namespace DiskError

def message : DiskError → String
  | missing shown => "[Errno 2] No such file or directory: " ++ shown
  | isDirectory shown => "[Errno 21] Is a directory: " ++ shown
  | notDirectory shown => "[Errno 20] Not a directory: " ++ shown
  | denied shown => "[Errno 13] Permission denied: " ++ shown
  | tooLong shown => "[Errno 36] File name too long: " ++ shown
  | badDescriptor => "[Errno 9] Bad file descriptor"
  | nul => "embedded null byte"

/-- The same error for a name that is shown otherwise. -/
def showing (shown : String) : DiskError → DiskError
  | missing _ => missing shown
  | isDirectory _ => isDirectory shown
  | notDirectory _ => notDirectory shown
  | denied _ => denied shown
  | tooLong _ => tooLong shown
  | badDescriptor => badDescriptor
  | nul => nul

end DiskError

/-- Entries by their paths; a relative path starts at the working directory. -/
structure Disk where
  entries : List (Path × Entry)
  deriving DecidableEq, Repr

namespace Disk

/-- What is stored at a path.  The directories above an entry need not be stored. -/
def find? (disk : Disk) (path : Path) : Option Entry :=
  match disk.entries.find? (·.1 = path) with
  | some (_, e) => some e
  | none =>
    if path.segments = [] ∨ disk.entries.any (fun e => (path.below? e.1).isSome) then
      some .directory
    else none

/-- Stores an entry, in the place of what was there. -/
def put (disk : Disk) (path : Path) (e : Entry) : Disk :=
  ⟨(path, e) :: disk.entries.filter (·.1 ≠ path)⟩

def erase (disk : Disk) (path : Path) : Disk :=
  ⟨disk.entries.filter (·.1 ≠ path)⟩

/-- Moves a file to another path, over what is there; nothing happens if there is no such file. -/
def rename (disk : Disk) (source target : Path) : Disk :=
  match disk.entries.find? (·.1 = source) with
  | some (_, e) => (disk.erase source).put target e
  | none => disk

/-- Takes one step of a name from a directory. -/
def step (here : Path) (piece : List Char) : Path :=
  if Path.isSegment piece then
    if piece = ['.', '.'] then { here with segments := here.segments.dropLast }
    else { here with segments := here.segments ++ [piece] }
  else here

/-- The greatest number of bytes in one step of a name. -/
def maxStep : Nat := 255

/-- The greatest number of bytes in a name. -/
def maxName : Nat := 4095

/-- The number of bytes of a text. -/
def byteCount (text : List Char) : Nat := text.foldl (fun n c => n + c.utf8Size) 0

/-- Follows the steps of a name; each starts from a directory. -/
def follow (disk : Disk) (name : String) (here : Path) : List (List Char) → Except DiskError Path
  | [] => .ok here
  | piece :: rest =>
    match disk.find? here with
    | none => .error (.missing (Text.quote name))
    | some .directory =>
      if maxStep < byteCount piece then .error (.tooLong (Text.quote name))
      else follow disk name (step here piece) rest
    | some .closed => .error (.denied (Text.quote name))
    | some _ => .error (.notDirectory (Text.quote name))

/-- The path that a name leads to. -/
def locate (disk : Disk) (name : String) : Except DiskError Path :=
  let text := name.toList
  if text.contains '\x00' then .error .nul
  else if text.isEmpty then .error (.missing (Text.quote name))
  else if maxName < byteCount text then .error (.tooLong (Text.quote name))
  else disk.follow name ⟨min 1 (Path.frontSlashes text), []⟩ (Text.split '/' text)

/-- Whether a name leads to anything.  It does not where a step is missing or is none, and
any other error leaves it open. -/
def has? (disk : Disk) (name : String) : Except DiskError Bool :=
  match disk.locate name with
  | .ok path => .ok (disk.find? path).isSome
  | .error (.missing _) => .ok false
  | .error (.notDirectory _) => .ok false
  | .error .nul => .ok false
  | .error e => .error e

/-- The contents of a file. -/
def read (disk : Disk) (name : String) : Except DiskError (List UInt8) := do
  match disk.find? (← disk.locate name) with
  | some (.file bytes) => .ok bytes
  | some .locked => .error (.denied (Text.quote name))
  | some .directory => .error (.isDirectory (Text.quote name))
  | some .closed => .error (.denied (Text.quote name))
  | none => .error (.missing (Text.quote name))

/-- Makes sure that a file is there that can be added to, and says where. -/
def create (disk : Disk) (name : String) : Except DiskError (Path × Disk) := do
  let path ← disk.locate name
  match disk.find? path with
  | some (.file _) => .ok (path, disk)
  | some .locked => .error (.denied (Text.quote name))
  | some .directory => .error (.isDirectory (Text.quote name))
  | some .closed => .error (.isDirectory (Text.quote name))
  | none => .ok (path, disk.put path (.file []))

/-- The contents of the file at a path; none if there is no file. -/
def contents (disk : Disk) (path : Path) : List UInt8 :=
  match disk.find? path with
  | some (.file bytes) => bytes
  | _ => []

/-- Adds text at the end of a file. -/
def append (disk : Disk) (path : Path) (text : String) : Disk :=
  disk.put path (.file (disk.contents path ++ text.toUTF8.toList))

theorem find?_put_self (disk : Disk) (path : Path) (e : Entry) :
    (disk.put path e).find? path = some e := by
  simp [find?, put]

theorem showing_of_follow {disk : Disk} {name : String} {here : Path}
    {pieces : List (List Char)} {e : DiskError} (h : disk.follow name here pieces = .error e) :
    e.showing (Text.quote name) = e := by
  induction pieces generalizing here with
  | nil => cases h
  | cons piece pieces ih =>
    rw [follow] at h
    split at h
    · cases h
      rfl
    · split at h
      · cases h
        rfl
      · exact ih h
    · cases h
      rfl
    · cases h
      rfl

/-- An error of reading shows the name that was asked for. -/
theorem showing_of_read {disk : Disk} {name : String} {e : DiskError}
    (h : disk.read name = .error e) : e.showing (Text.quote name) = e := by
  rw [read] at h
  cases hlocate : disk.locate name with
  | error e' =>
    rw [hlocate] at h
    cases h
    unfold locate at hlocate
    dsimp only at hlocate
    split at hlocate
    · cases hlocate
      rfl
    · split at hlocate
      · cases hlocate
        rfl
      · split at hlocate
        · cases hlocate
          rfl
        · exact showing_of_follow hlocate
  | ok path =>
    rw [hlocate] at h
    -- what stands there decides which error it is
    cases hfind : disk.find? path with
    | none =>
      simp only [bind, Except.bind, hfind] at h
      cases h
      rfl
    | some entry =>
      simp only [bind, Except.bind, hfind] at h
      cases entry <;> cases h <;> rfl

end Disk

end ExcludeRules
