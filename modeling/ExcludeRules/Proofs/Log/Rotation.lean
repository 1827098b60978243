/-
What a line that is written leaves in a log file.

The line stands at the end of the file, behind what was in it or, if it was set aside, alone;
what was in it then stands in the first backup.  Main statements:
  * `contents_write` : the file behind a line;
  * `contents_backup_write` : the first backup of a file that was set aside.
-/
import ExcludeRules.Log.State

namespace ExcludeRules

namespace Disk

variable {disk : Disk} {path : Path}

theorem find?_eq_some_file_iff {bytes : List UInt8} :
    disk.find? path = some (.file bytes) ↔
      ∃ other, disk.entries.find? (·.1 = path) = some (other, .file bytes) := by
  unfold find?
  cases hentry : disk.entries.find? (·.1 = path) with
  | some entry =>
    obtain ⟨other, e⟩ := entry
    simp
  | none =>
    dsimp only
    split <;> simp

theorem find?_entries_put_of_ne {other : Path} (h : path ≠ other) (e : Entry) :
    (disk.put other e).entries.find? (·.1 = path) = disk.entries.find? (·.1 = path) := by
  rw [put, List.find?_cons_of_neg (by simpa using h.symm), Log.State.find?_filter_ne h]

theorem find?_entries_rename_of_ne {source target : Path} (hsource : path ≠ source)
    (htarget : path ≠ target) :
    (disk.rename source target).entries.find? (·.1 = path) =
      disk.entries.find? (·.1 = path) := by
  unfold rename
  split
  · rw [find?_entries_put_of_ne htarget, erase, Log.State.find?_filter_ne hsource]
  · rfl

theorem contents_put_self (disk : Disk) (path : Path) (bytes : List UInt8) :
    (disk.put path (.file bytes)).contents path = bytes := by
  rw [contents, find?_put_self]

/-- The end of a file that text is added to. -/
theorem contents_append_self (disk : Disk) (path : Path) (text : String) :
    (disk.append path text).contents path = disk.contents path ++ text.toUTF8.toList :=
  contents_put_self ..

end Disk

namespace Log.LogFile

/-- A backup has a longer name in the same directory. -/
theorem backup_ne_path (file : LogFile) (n : Nat) : file.path ≠ file.backup n := by
  intro h
  have hsegments := congrArg Path.segments h
  rw [backup] at hsegments
  cases hlast : file.path.segments.getLast? with
  | none =>
    rw [List.getLast?_eq_none_iff.mp hlast] at hsegments
    cases hsegments
  | some name =>
    have hname := congrArg List.getLast? hsegments
    rw [hlast, List.getLast?_concat, Option.some.injEq, Option.getD_some] at hname
    -- a name is no name with a dot and a number behind it
    have hlength := congrArg List.length hname
    rw [List.length_append, List.length_cons] at hlength
    omega

/-- While the backups are moved, the file itself stays where it is. -/
theorem find?_entries_shiftBackups (file : LogFile) (disk : Disk) (n : Nat) :
    (file.shiftBackups disk n).entries.find? (·.1 = file.path) =
      disk.entries.find? (·.1 = file.path) := by
  induction n generalizing disk with
  | zero => rfl
  | succ n ih =>
    rw [shiftBackups, ih, Disk.find?_entries_rename_of_ne (file.backup_ne_path _)
      (file.backup_ne_path _)]

/-- What a log file keeps when a line is written: nothing if it is set aside. -/
def kept (file : LogFile) (disk : Disk) (length : Nat) : List UInt8 :=
  if file.isFull disk length && 0 < file.backups then [] else disk.contents file.path

/-- The line stands behind what the file keeps. -/
theorem contents_write (file : LogFile) (disk : Disk) (line : String) :
    (file.write disk line).contents file.path =
      file.kept disk line.length ++ line.toUTF8.toList := by
  rw [write, Disk.contents_append_self, kept]
  cases file.isFull disk line.length with
  | false => rfl
  | true =>
    rw [if_pos rfl, rotate]
    cases file.backups with
    | zero => rfl
    | succ n =>
      dsimp only
      rw [Disk.contents_put_self]
      rfl

/-- Nothing is lost of a file that is set aside: the first backup holds it. -/
theorem contents_backup_write {file : LogFile} {disk : Disk} {line : String}
    {bytes : List UInt8} (hfile : disk.find? file.path = some (.file bytes))
    (hfull : file.isFull disk line.length = true) (hbackups : file.backups ≠ 0) :
    (file.write disk line).find? (file.backup 1) = some (.file bytes) := by
  obtain ⟨n, hn⟩ := Nat.exists_eq_succ_of_ne_zero hbackups
  obtain ⟨other, hentry⟩ := Disk.find?_eq_some_file_iff.mp hfile
  have hmoved : (file.shiftBackups disk n).entries.find? (·.1 = file.path) =
      some (other, .file bytes) :=
    (file.find?_entries_shiftBackups disk n).trans hentry
  have hne : file.backup 1 ≠ file.path := (file.backup_ne_path 1).symm
  rw [Disk.find?_eq_some_file_iff, write, hfull, if_pos rfl, rotate, hn]
  dsimp only
  -- the new file and its line come after the move, and go to another path
  rw [Disk.append, Disk.find?_entries_put_of_ne hne, Disk.find?_entries_put_of_ne hne,
    Disk.rename, hmoved]
  exact Disk.find?_eq_some_file_iff.mp (Disk.find?_put_self ..)

end Log.LogFile

end ExcludeRules
