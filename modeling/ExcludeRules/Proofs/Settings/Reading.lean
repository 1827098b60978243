/-
What can be wrong with a configuration file.

Most faults lie in the file and are reported with an error code.  Four are not: a home
directory that is not found, a disk that does not tell whether the file is there, bytes
that are no text, and a scalar that does not fit its tag.  Main statements:
  * `homeOf_eq_error_iff`, `expandHome_eq_error_iff` : home directories that are not found;
  * `readFile_eq_error_iff` : the faults of a file that have no code;
  * `start_eq_error_iff` : the same faults, as they end a start.
-/
import ExcludeRules.Proofs.Outcome
import ExcludeRules.Settings.ConfigFile

namespace ExcludeRules

/-- What can be read is there. -/
theorem Disk.has?_of_read {disk : Disk} {name : String} {bytes : List UInt8}
    (h : disk.read name = .ok bytes) : disk.has? name = .ok true := by
  obtain ⟨path, hpath, h⟩ := Outcome.bind_eq_ok_iff.mp h
  rw [has?, hpath]
  dsimp only
  cases hfound : disk.find? path with
  | none =>
    rw [hfound] at h
    cases h
  | some e => rfl

namespace Settings

variable {reader : Yaml.Reader} {disk : Disk} {homes : Homes} {name : String} {e : FileError}

/-- Why the home directory of a user is not found. -/
inductive HomeFault (homes : Homes) (user : List Char) : FileError → Prop
  | unknown (hnul : '\x00' ∉ user) (h : homes (String.ofList user) = none) :
      HomeFault homes user .unknownHome
  | nul (h : '\x00' ∈ user) : HomeFault homes user (.look .nul)

theorem HomeFault.code?_eq_none {user : List Char} (h : HomeFault homes user e) :
    e.code? = none := by
  cases h <;> rfl

theorem homeOf_eq_error_iff {user : List Char} :
    homeOf homes user = .error e ↔ HomeFault homes user e := by
  unfold homeOf
  constructor
  · intro h
    split at h
    · rename_i hnul
      cases h
      exact .nul (List.contains_iff_mem.mp hnul)
    · rename_i hnul
      split at h
      · cases h
      · rename_i hnone
        cases h
        exact .unknown (mt List.contains_iff_mem.mpr hnul) hnone
  · rintro (⟨hnul, hnone⟩ | hnul)
    · rw [if_neg (mt List.contains_iff_mem.mp hnul), hnone]
    · rw [if_pos (List.contains_iff_mem.mpr hnul)]

/-- Only a path that begins with a tilde asks for a home directory. -/
theorem expandHome_eq_error_iff {p : Path} :
    expandHome homes p = .error e ↔
      p.slashes = 0 ∧ ∃ user rest, p.segments = ('~' :: user) :: rest ∧
        HomeFault homes user e := by
  obtain ⟨slashes, segments⟩ := p
  constructor
  · intro h
    unfold expandHome at h
    split at h
    · rename_i user rest hslashes hsegments
      exact ⟨hslashes, user, rest, hsegments,
        homeOf_eq_error_iff.mp (Outcome.map_eq_error_iff.mp h)⟩
    · cases h
  · rintro ⟨rfl, user, rest, rfl, h⟩
    exact Outcome.map_eq_error_iff.mpr (homeOf_eq_error_iff.mpr h)

/-- A fault of a configuration file that has no code. -/
inductive Uncoded (reader : Yaml.Reader) (disk : Disk) (homes : Homes) (name : String) :
    FileError → Prop
  | home {user : List Char} {rest : List (List Char)} {e : FileError}
      (hslashes : (Path.ofText name.toList).slashes = 0)
      (hsegments : (Path.ofText name.toList).segments = ('~' :: user) :: rest)
      (h : HomeFault homes user e) : Uncoded reader disk homes name e
  | look {path : Path} {e : DiskError}
      (hpath : expandHome homes (.ofText name.toList) = .ok path)
      (hlook : disk.has? path.toString = .error e) : Uncoded reader disk homes name (.look e)
  | encoding {path : Path} {bytes : List UInt8} {fault : Text.Utf8Fault}
      (hpath : expandHome homes (.ofText name.toList) = .ok path)
      (hread : disk.read path.toString = .ok bytes)
      (hdecode : reader bytes = .error (.encoding fault)) :
      Uncoded reader disk homes name (.encoding fault)
  | misfit {path : Path} {bytes : List UInt8} {m : Yaml.Misfit}
      (hpath : expandHome homes (.ofText name.toList) = .ok path)
      (hread : disk.read path.toString = .ok bytes)
      (hmisfit : reader bytes = .error (.misfit m)) : Uncoded reader disk homes name (.misfit m)

theorem Uncoded.code?_eq_none (h : Uncoded reader disk homes name e) : e.code? = none := by
  cases h with
  | home hslashes hsegments h => exact h.code?_eq_none
  | look => rfl
  | encoding => rfl
  | misfit => rfl

theorem code?_ofDocument {d : Document} (h : ofDocument name d = .error e) : e.code? ≠ none := by
  unfold ofDocument at h
  split at h
  · cases h
  · cases h
  · cases h
    exact Option.some_ne_none _

theorem readFile_of_has {path : Path} (hpath : expandHome homes (.ofText name.toList) = .ok path)
    (hhas : disk.has? path.toString = .ok true) :
    readFile reader disk homes name =
      ((disk.read path.toString).mapError (.disk name) >>= fun bytes =>
        (reader bytes).mapError (.ofReadError name) >>= ofDocument name) := by
  rw [readFile, hpath, Outcome.ok_bind, hhas]
  rfl

theorem readFile_of_readError {path : Path} {bytes : List UInt8} {fault : Yaml.ReadError}
    (hpath : expandHome homes (.ofText name.toList) = .ok path)
    (hread : disk.read path.toString = .ok bytes) (hfault : reader bytes = .error fault) :
    readFile reader disk homes name = .error (.ofReadError name fault) := by
  rw [readFile_of_has hpath (Disk.has?_of_read hread), hread]
  show ((reader bytes).mapError _ >>= _) = _
  rw [hfault]
  rfl

theorem uncoded_of_readFile (hcode : e.code? = none)
    (h : readFile reader disk homes name = .error e) : Uncoded reader disk homes name e := by
  -- stage by stage; an error that has a code is ruled out where it arises
  rcases Outcome.bind_eq_error_iff.mp h with hhome | ⟨path, hpath, hfile⟩
  · obtain ⟨hslashes, user, rest, hsegments, hfault⟩ := expandHome_eq_error_iff.mp hhome
    exact .home hslashes hsegments hfault
  rcases Outcome.bind_eq_error_iff.mp hfile with hlook | ⟨there, -, hfile⟩
  · obtain ⟨e', hhas, rfl⟩ := Outcome.mapError_eq_error_iff.mp hlook
    exact .look hpath hhas
  cases there with
  | false =>
    cases hfile
    cases hcode
  | true =>
    rcases Outcome.bind_eq_error_iff.mp hfile with hdisk | ⟨bytes, hread, hfile⟩
    · obtain ⟨e', -, rfl⟩ := Outcome.mapError_eq_error_iff.mp hdisk
      cases hcode
    rw [Outcome.mapError_eq_ok_iff] at hread
    rcases Outcome.bind_eq_error_iff.mp hfile with hdocument | ⟨d, -, hfile⟩
    · obtain ⟨fault, hfault, rfl⟩ := Outcome.mapError_eq_error_iff.mp hdocument
      cases fault with
      | fault f => cases hcode
      | encoding fault => exact .encoding hpath hread hfault
      | misfit m => exact .misfit hpath hread hfault
    · exact absurd hcode (code?_ofDocument hfile)

theorem readFile_eq_error_iff (hcode : e.code? = none) :
    readFile reader disk homes name = .error e ↔ Uncoded reader disk homes name e := by
  refine ⟨uncoded_of_readFile hcode, ?_⟩
  rintro (⟨hslashes, hsegments, hfault⟩ | ⟨hpath, hlook⟩ | ⟨hpath, hread, hdecode⟩ |
    ⟨hpath, hread, hmisfit⟩)
  · rw [readFile, expandHome_eq_error_iff.mpr ⟨hslashes, _, _, hsegments, hfault⟩]
    rfl
  · rw [readFile, hpath, Outcome.ok_bind, hlook]
    rfl
  · exact readFile_of_readError hpath hread hdecode
  · exact readFile_of_readError hpath hread hmisfit

/-- A file that is named is loaded before the environment is looked at. -/
theorem start_of_name (hne : name ≠ "") (env : Option Environment) :
    start reader disk homes (some name) env =
      initial.load reader disk homes name .user >>= fun settings =>
        .ok (match env with | none => settings | some env => settings.loadEnvironment env) := by
  unfold start
  dsimp only
  split
  · rename_i h
    cases h
  · rename_i h
    exact absurd (Option.some.inj h) hne
  · rename_i h
    cases h
    rfl

/-- A start fails without a code if a file is named and has such a fault. -/
theorem start_eq_error_iff {file : Option String} {env : Option Environment}
    (hcode : e.code? = none) :
    start reader disk homes file env = .error e ↔
      ∃ name, file = some name ∧ name ≠ "" ∧ Uncoded reader disk homes name e := by
  constructor
  · intro h
    cases file with
    | none => cases h
    | some name =>
      by_cases hempty : name = ""
      · subst hempty
        cases h
      · rw [start_of_name hempty] at h
        rcases Outcome.bind_eq_error_iff.mp h with hload | ⟨settings, -, h⟩
        · exact ⟨name, rfl, hempty,
            (readFile_eq_error_iff hcode).mp (Outcome.map_eq_error_iff.mp hload)⟩
        · cases h
  · rintro ⟨name, rfl, hne, hfault⟩
    have hload : initial.load reader disk homes name .user = .error e :=
      Outcome.map_eq_error_iff.mpr ((readFile_eq_error_iff hcode).mpr hfault)
    rw [start_of_name hne, hload, Outcome.error_bind]

end Settings

end ExcludeRules
