/-
The log that a run opens.

The level comes first, then the log file, if one is named.  Main statements:
  * `writesNoFile_of_openLog` : without a log file the log leaves the disk as it is;
  * `levelOf_eq_error_iff` : the levels that cannot be used;
  * `openLog_eq_error_iff` : the faults that a log is not opened for.
-/
import ExcludeRules.CommandLine.Run
import ExcludeRules.Proofs.Log.Delivery
import ExcludeRules.Proofs.Outcome

namespace ExcludeRules.CommandLine

/-- The level of a run. -/
def levelOf (settings : Settings) (debug : Bool) : Except Failure Int :=
  if debug then .ok Log.Level.debug.number
  else levelNumber (settings.get "logging.level" (.text "WARNING"))

/-- The log with the file that is named, if one is. -/
def attachNamed (logger : Log.Logger) (file : Value) (s : Log.State) :
    Except Failure Log.State :=
  if file.isTruthy then
    match fileName? file with
    | some name =>
      match logger.attachFile name Log.Logger.defaultMaxBytes Log.Logger.defaultBackups s with
      | .ok (_, s) => .ok s
      | .error e => .error (.logFile e)
    | none => .error .kind
  else .ok s

theorem openLog_eq (settings : Settings) (debug : Bool) (s : Log.State) :
    openLog settings debug s = levelOf settings debug >>= fun level =>
      let (logger, s) := Log.Logger.create Log.defaultName level [.console] s
      attachNamed logger (settings.get "logging.file" .null) s >>= fun s =>
        .ok (logger, logger.install s) := by
  unfold openLog levelOf attachNamed
  generalize settings.get "logging.file" .null = file
  by_cases htruthy : file.isTruthy = true
  · simp only [if_pos htruthy]
    cases fileName? file with
    | some name =>
      cases debug
      all_goals
        refine bind_congr fun level => ?_
        dsimp only
        cases Log.Logger.attachFile _ name _ _ _ <;> rfl
    | none => cases debug <;> rfl
  · simp only [if_neg htruthy]
    cases debug <;> rfl

/-- Without a log file the log writes to the console only. -/
theorem writesNoFile_of_openLog {settings : Settings} {debug : Bool} {s log : Log.State}
    {logger : Log.Logger} (h : openLog settings debug s = .ok (logger, log))
    (hfile : (settings.get "logging.file" .null).isTruthy = false) :
    log.disk = s.disk ∧ log.WritesNoFile logger.channelName := by
  rw [openLog_eq] at h
  obtain ⟨level, -, h⟩ := Outcome.bind_eq_ok_iff.mp h
  obtain ⟨s', hs', h⟩ := Outcome.bind_eq_ok_iff.mp h
  unfold attachNamed at hs'
  rw [hfile, if_neg Bool.false_ne_true] at hs'
  cases hs'
  cases h
  refine ⟨rfl, ?_⟩
  intro sink hsink file hfile'
  rw [List.mem_singleton.mp hsink] at hfile'
  cases hfile'

/-! ### Levels that cannot be used -/

/-- The name of a level as it is looked up. -/
def capitals (name : String) : String := String.ofList (Text.upper name.toList)

/-- A value that stands for no level. -/
inductive LevelFault : Value → Failure → Prop
  | unknown {name : String} (h : ∀ l : Log.Level, l.name ≠ capitals name) :
      LevelFault (.text name) (.unknownLevel (capitals name))
  | kind {v : Value} (htext : ∀ name, v ≠ .text name) (hint : ∀ n, v ≠ .int n)
      (hbool : ∀ b, v ≠ .bool b) : LevelFault v .kind

theorem ofName?_eq_none_iff {name : String} :
    Log.Level.ofName? name = none ↔ ∀ l : Log.Level, l.name ≠ name := by
  rw [Log.Level.ofName?, List.find?_eq_none]
  constructor
  · intro h l
    have hmem : l ∈ Log.Level.all := by cases l <;> decide
    simpa using h l hmem
  · intro h l _
    simpa using h l

theorem levelNumber_text (name : String) :
    levelNumber (.text name) =
      match Log.Level.ofName? (capitals name) with
      | some l => .ok l.number
      | none => .error (.unknownLevel (capitals name)) := by
  rw [levelNumber, Log.LevelSpec.number?]
  dsimp only [capitals]
  cases Log.Level.ofName? (String.ofList (Text.upper name.toList)) <;> rfl

theorem levelNumber_eq_error_iff {v : Value} {f : Failure} :
    levelNumber v = .error f ↔ LevelFault v f := by
  constructor
  · intro h
    cases v with
    | text name =>
      rw [levelNumber_text] at h
      cases hname : Log.Level.ofName? (capitals name) with
      | none =>
        rw [hname] at h
        cases h
        exact .unknown (ofName?_eq_none_iff.mp hname)
      | some l =>
        rw [hname] at h
        cases h
    | int n => cases h
    | bool b => cases h
    | _ =>
      cases h
      exact .kind nofun nofun nofun
  · rintro (hname | ⟨htext, hint, hbool⟩)
    · rw [levelNumber_text, ofName?_eq_none_iff.mpr hname]
    · cases v with
      | text name => exact absurd rfl (htext name)
      | int n => exact absurd rfl (hint n)
      | bool b => exact absurd rfl (hbool b)
      | _ => rfl

variable {settings : Settings} {debug : Bool} {f : Failure}

theorem levelOf_eq_error_iff :
    levelOf settings debug = .error f ↔
      debug = false ∧ LevelFault (settings.get "logging.level" (.text "WARNING")) f := by
  rw [← levelNumber_eq_error_iff, levelOf]
  cases debug with
  | true =>
    constructor
    · intro h
      cases h
    · rintro ⟨h, -⟩
      cases h
  | false =>
    rw [if_neg Bool.false_ne_true]
    exact ⟨fun h => ⟨rfl, h⟩, And.right⟩

/-! ### Log files that cannot be used -/

/-- Why the file of a name cannot be opened for the log. -/
inductive CannotOpen (disk : Disk) (name : String) : DiskError → Prop
  | isDirectory (h : (Path.ofText name.toList).normalize.segments = []) :
      CannotOpen disk name (.isDirectory
        (Text.quote (if (Path.ofText name.toList).normalize.isAbsolute then
          (Path.ofText name.toList).normalize.toString else "")))
  | disk {e : DiskError} (h : (Path.ofText name.toList).normalize.segments ≠ [])
      (he : disk.create (Path.ofText name.toList).normalize.toString = .error e) :
      CannotOpen disk name e

theorem attachFile_eq_error_iff {logger : Log.Logger} {name : String} {maxBytes : Int}
    {backups : Nat} {s : Log.State} {e : DiskError} :
    logger.attachFile name maxBytes backups s = .error e ↔ CannotOpen s.disk name e := by
  unfold Log.Logger.attachFile
  dsimp only
  by_cases hsegments : (Path.ofText name.toList).normalize.segments = []
  · rw [if_pos hsegments]
    constructor
    · intro h
      cases h
      exact .isDirectory hsegments
    · rintro (- | ⟨h, -⟩)
      · rfl
      · exact absurd hsegments h
  · rw [if_neg hsegments]
    constructor
    · intro h
      rcases Outcome.bind_eq_error_iff.mp h with he | ⟨_, -, h⟩
      · exact .disk hsegments he
      · cases h
    · rintro (h | ⟨-, he⟩)
      · exact absurd h hsegments
      · rw [he]
        rfl

/-- A value that names no file for the log, although it is given. -/
inductive LogFileFault (disk : Disk) : Value → Failure → Prop
  | file {v : Value} {name : String} {e : DiskError} (htruthy : v.isTruthy = true)
      (hname : fileName? v = some name) (h : CannotOpen disk name e) :
      LogFileFault disk v (.logFile e)
  | kind {v : Value} (htruthy : v.isTruthy = true) (htext : ∀ name, v ≠ .text name)
      (hbytes : ∀ bs, v ≠ .bytes bs) : LogFileFault disk v .kind

theorem fileName?_eq_none_iff {v : Value} :
    fileName? v = none ↔ (∀ name, v ≠ .text name) ∧ ∀ bs, v ≠ .bytes bs := by
  cases v <;> simp [fileName?]

theorem attachNamed_eq_error_iff {logger : Log.Logger} {file : Value} {s : Log.State} :
    attachNamed logger file s = .error f ↔ LogFileFault s.disk file f := by
  unfold attachNamed
  constructor
  · intro h
    split at h
    · rename_i htruthy
      split at h
      · rename_i name hname
        split at h
        · cases h
        · rename_i e he
          cases h
          exact .file htruthy hname (attachFile_eq_error_iff.mp he)
      · rename_i hname
        cases h
        obtain ⟨htext, hbytes⟩ := fileName?_eq_none_iff.mp hname
        exact .kind htruthy htext hbytes
    · cases h
  · rintro (⟨htruthy, hname, hopen⟩ | ⟨htruthy, htext, hbytes⟩)
    · rw [if_pos htruthy, hname]
      dsimp only
      rw [attachFile_eq_error_iff.mpr hopen]
    · rw [if_pos htruthy, fileName?_eq_none_iff.mpr ⟨htext, hbytes⟩]

/-- A log is not opened if its level, or else its file, cannot be used. -/
theorem openLog_eq_error_iff {s : Log.State} :
    openLog settings debug s = .error f ↔
      (debug = false ∧ LevelFault (settings.get "logging.level" (.text "WARNING")) f) ∨
      (∃ level, levelOf settings debug = .ok level) ∧
        LogFileFault s.disk (settings.get "logging.file" .null) f := by
  have hfile (level : Int) :
      let made := Log.Logger.create Log.defaultName level [.console] s
      attachNamed made.1 (settings.get "logging.file" .null) made.2 = .error f ↔
        LogFileFault s.disk (settings.get "logging.file" .null) f :=
    attachNamed_eq_error_iff
  rw [openLog_eq, Outcome.bind_eq_error_iff, levelOf_eq_error_iff]
  refine or_congr_right ?_
  constructor
  · rintro ⟨level, hlevel, h⟩
    rcases Outcome.bind_eq_error_iff.mp h with h | ⟨_, -, h⟩
    · exact ⟨⟨level, hlevel⟩, (hfile level).mp h⟩
    · cases h
  · rintro ⟨⟨level, hlevel⟩, h⟩
    refine ⟨level, hlevel, ?_⟩
    dsimp only
    rw [(hfile level).mpr h]
    rfl

end ExcludeRules.CommandLine
