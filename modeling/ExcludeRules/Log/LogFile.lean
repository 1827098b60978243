/-
Log files that are set aside when they grow too large.

Before a line is written, a file that would reach its greatest size is renamed:
`name` becomes `name.1`, what was `name.1` becomes `name.2`, and so on up to the
number of backups; a file without backups just grows.  The size of the file
counts bytes and that of the line counts characters.
-/
import ExcludeRules.Disk

namespace ExcludeRules.Log

structure LogFile where
  path : Path
  maxBytes : Int
  backups : Nat
  deriving DecidableEq, Repr

namespace LogFile

/-- The path of the backup of a given number. -/
def backup (file : LogFile) (n : Nat) : Path :=
  { file.path with
    segments := file.path.segments.dropLast ++
      [(file.path.segments.getLast?.getD []) ++ '.' :: (toString n).toList] }

/-- Renames backup `n` to `n + 1`, for `n` from `count` down to 1. -/
def shiftBackups (file : LogFile) (disk : Disk) : Nat → Disk
  | 0 => disk
  | n + 1 => shiftBackups file (disk.rename (file.backup (n + 1)) (file.backup (n + 2))) n

/-- Sets the file aside and starts an empty one. -/
def rotate (file : LogFile) (disk : Disk) : Disk :=
  match file.backups with
  | 0 => disk
  | n + 1 =>
    ((shiftBackups file disk n).rename file.path (file.backup 1)).put file.path (.file [])

/-- Whether the file is to be set aside before a line of `length` characters. -/
def isFull (file : LogFile) (disk : Disk) (length : Nat) : Bool :=
  0 < file.maxBytes &&
    file.maxBytes ≤ ((disk.contents file.path).length + length : Nat)

/-- Writes a line, whose end is included. -/
def write (file : LogFile) (disk : Disk) (line : String) : Disk :=
  let disk := if file.isFull disk line.length then file.rotate disk else disk
  disk.append file.path line

end LogFile

end ExcludeRules.Log
