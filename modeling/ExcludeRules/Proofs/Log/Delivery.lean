/-
What a logged message leaves behind.

A value that is set in a context is found there, and so are the others that it held
before.  A record is given once to every sink of its channel: a collector keeps it, and a
console and a log file have one line more.  Main statements:
  * `lookup_set_self`, `lookup_set_of_ne` : what a context holds once a value is set;
  * `records_emit`, `console_emit`, `disk_emit` : what each kind of sink is given;
  * `log_of_isEnabled` : what is let through becomes a record;
  * `disk_log` : a channel without log files leaves the disk as it is.
-/
import ExcludeRules.Log.Logger
import ExcludeRules.Proofs.Outcome

namespace ExcludeRules.Log

namespace Context

theorem lookup_cons_eq (k key : String) (v : Value) (context : Context) :
    List.lookup key ((k, v) :: context) = if key = k then some v else context.lookup key := by
  by_cases h : key = k
  · simp [h]
  · simp [List.lookup_cons, h, beq_false_of_ne h]

theorem lookup_set_self (key : String) (value : Value) (context : Context) :
    (context.set key value).lookup key = some value := by
  induction context with
  | nil => rw [set, lookup_cons_eq, if_pos rfl]
  | cons e rest ih =>
    obtain ⟨k, v⟩ := e
    by_cases hk : k = key
    · rw [set, if_pos hk, lookup_cons_eq, if_pos hk.symm]
    · rw [set, if_neg hk, lookup_cons_eq, if_neg (Ne.symm hk), ih]

theorem lookup_set_of_ne {key key' : String} (h : key' ≠ key) (value : Value)
    (context : Context) : (context.set key value).lookup key' = context.lookup key' := by
  induction context with
  | nil => rw [set, lookup_cons_eq, if_neg h]
  | cons e rest ih =>
    obtain ⟨k, v⟩ := e
    by_cases hk : k = key
    · have hne : key' ≠ k := fun heq => h (heq.trans hk)
      rw [set, if_pos hk, lookup_cons_eq, lookup_cons_eq, if_neg hne, if_neg hne]
    · rw [set, if_neg hk, lookup_cons_eq, lookup_cons_eq, ih]

end Context

/-- The log file that records go to. -/
def Target.file? : Target → Option LogFile
  | file f => some f
  | _ => none

namespace State

/-- The number of collectors among the sinks of a channel. -/
def collectors (s : State) (name : String) : Nat :=
  (s.channel name).sinks.countP (·.target = .collector)

/-- The number of consoles among the sinks of a channel. -/
def consoles (s : State) (name : String) : Nat :=
  (s.channel name).sinks.countP (·.target = .console)

/-- The log files among the sinks of a channel. -/
def logFiles (s : State) (name : String) : List LogFile :=
  (s.channel name).sinks.filterMap (·.target.file?)

/-- What a console or a log file is given. -/
def lineOf (s : State) (r : Record) : String := r.line s.stamp ++ "\n"

theorem records_deliver (r : Record) (s : State) (t : Target) :
    (s.deliver r t).records = s.records ++ if t = .collector then [r] else [] := by
  cases t <;> simp [deliver]

theorem records_foldl_deliver (r : Record) (sinks : List Sink) (s : State) :
    (sinks.foldl (fun s sink => s.deliver r sink.target) s).records =
      s.records ++ List.replicate (sinks.countP (·.target = .collector)) r := by
  induction sinks generalizing s with
  | nil => simp
  | cons sink sinks ih =>
    rw [List.foldl_cons, ih, records_deliver, List.append_assoc]
    by_cases h : sink.target = .collector
    · rw [if_pos h, List.countP_cons_of_pos (by simpa using h), List.replicate_succ]
      rfl
    · rw [if_neg h, List.countP_cons_of_neg (by simpa using h), List.nil_append]

theorem console_foldl_deliver (r : Record) (sinks : List Sink) (s : State) :
    (sinks.foldl (fun s sink => s.deliver r sink.target) s).console =
      s.console ++ String.join (List.replicate (sinks.countP (·.target = .console))
        (s.lineOf r)) := by
  induction sinks generalizing s with
  | nil => simp
  | cons sink sinks ih =>
    -- a sink does not change the stamp, so every sink is given the same line
    have hline : (s.deliver r sink.target).lineOf r = s.lineOf r := by
      cases sink.target <;> rfl
    rw [List.foldl_cons, ih, hline]
    cases htarget : sink.target with
    | console =>
      rw [List.countP_cons_of_pos (by simp [htarget]), List.replicate_succ, String.join_cons,
        ← String.append_assoc, deliver, lineOf, ← String.append_assoc]
    | collector => rw [List.countP_cons_of_neg (by simp [htarget])]; rfl
    | file file => rw [List.countP_cons_of_neg (by simp [htarget])]; rfl

theorem disk_foldl_deliver (r : Record) (sinks : List Sink) (s : State) :
    (sinks.foldl (fun s sink => s.deliver r sink.target) s).disk =
      (sinks.filterMap (·.target.file?)).foldl (fun disk file => file.write disk (s.lineOf r))
        s.disk := by
  induction sinks generalizing s with
  | nil => rfl
  | cons sink sinks ih =>
    have hline : (s.deliver r sink.target).lineOf r = s.lineOf r := by
      cases sink.target <;> rfl
    rw [List.foldl_cons, ih, hline, List.filterMap_cons]
    cases sink.target <;> rfl

/-- Every collector of the channel is given the record once. -/
theorem records_emit (s : State) (r : Record) :
    (s.emit r).records = s.records ++ List.replicate (s.collectors r.channel) r := by
  unfold emit collectors
  split
  · rename_i hnone
    rw [hnone]
    split <;> simp
  · exact records_foldl_deliver r _ s

/-- Every console of the channel is given the line of the record once. -/
theorem console_emit {s : State} {r : Record} (h : (s.channel r.channel).sinks ≠ []) :
    (s.emit r).console =
      s.console ++ String.join (List.replicate (s.consoles r.channel) (s.lineOf r)) := by
  unfold emit consoles
  split
  · rename_i hnone
    exact absurd hnone h
  · exact console_foldl_deliver r _ s

/-- Every log file of the channel is given the line of the record once. -/
theorem disk_emit (s : State) (r : Record) :
    (s.emit r).disk =
      (s.logFiles r.channel).foldl (fun disk file => file.write disk (s.lineOf r)) s.disk := by
  unfold emit logFiles
  split
  · rename_i hnone
    rw [hnone]
    split <;> rfl
  · exact disk_foldl_deliver r _ s

/-- No sink of the channel is a log file. -/
def WritesNoFile (s : State) (name : String) : Prop :=
  ∀ sink ∈ (s.channel name).sinks, ∀ file, sink.target ≠ .file file

theorem channels_deliver (r : Record) (s : State) (t : Target) :
    (s.deliver r t).channels = s.channels := by
  cases t <;> rfl

theorem channels_foldl_deliver (r : Record) (sinks : List Sink) (s : State) :
    (sinks.foldl (fun s sink => s.deliver r sink.target) s).channels = s.channels := by
  induction sinks generalizing s with
  | nil => rfl
  | cons sink sinks ih => rw [List.foldl_cons, ih, channels_deliver]

theorem channels_emit (s : State) (r : Record) : (s.emit r).channels = s.channels := by
  unfold emit
  split
  · split <;> rfl
  · exact channels_foldl_deliver r _ s

/-- A record changes nothing but what records are kept and written in. -/
theorem exists_emit_eq (s : State) (r : Record) :
    ∃ disk records console,
      s.emit r = { s with disk := disk, records := records, console := console } := by
  have hdeliver : ∀ (sinks : List Sink) (s : State), ∃ disk records console,
      sinks.foldl (fun s sink => s.deliver r sink.target) s =
        { s with disk := disk, records := records, console := console } := by
    intro sinks
    induction sinks with
    | nil => exact fun s => ⟨_, _, _, rfl⟩
    | cons sink sinks ih =>
      intro s
      obtain ⟨disk, records, console, heq⟩ := ih (s.deliver r sink.target)
      rw [List.foldl_cons, heq]
      cases sink.target <;> exact ⟨disk, records, console, rfl⟩
  unfold emit
  split
  · split
    · exact ⟨_, _, _, rfl⟩
    · exact ⟨_, _, _, rfl⟩
  · exact hdeliver _ s

theorem logFiles_eq_nil {s : State} {name : String} (h : s.WritesNoFile name) :
    s.logFiles name = [] := by
  refine List.filterMap_eq_nil_iff.mpr fun sink hsink => ?_
  cases htarget : sink.target with
  | collector => rfl
  | console => rfl
  | file file => exact absurd htarget (h sink hsink file)

end State

namespace Logger

/-- A message that is let through becomes a record, which carries the context of the thread. -/
theorem log_of_isEnabled {logger : Logger} {level : Level} {s : State}
    (h : s.isEnabled logger.channelName level.number = true) (thread : Nat) (message : String)
    (values : Context) (trouble : Option Report) :
    logger.log thread level message values trouble s =
      (s.touch thread).emit ⟨level, logger.channelName,
        render message ((s.context thread).merge values), (s.context thread).merge values,
        trouble.map Report.line⟩ := by
  rw [log, if_pos h]

/-- A message changes nothing but what records are kept and written in, and its thread has made
use of scopes. -/
theorem exists_log_eq (logger : Logger) (thread : Nat) (level : Level) (message : String)
    (values : Context) (trouble : Option Report) (s : State) :
    logger.log thread level message values trouble s = s ∨
      ∃ disk records console, logger.log thread level message values trouble s =
        { s.touch thread with disk := disk, records := records, console := console } := by
  rw [log]
  split
  · exact .inr (State.exists_emit_eq _ _)
  · exact .inl rfl

variable {logger : Logger} {s : State}

theorem channels_log (thread : Nat) (level : Level) (message : String) (values : Context)
    (trouble : Option Report) :
    (logger.log thread level message values trouble s).channels = s.channels := by
  unfold log
  split
  · rw [State.channels_emit]
    rfl
  · rfl

theorem disk_log (h : s.WritesNoFile logger.channelName) (thread : Nat) (level : Level)
    (message : String) (values : Context) (trouble : Option Report) :
    (logger.log thread level message values trouble s).disk = s.disk := by
  unfold log
  split
  · have hnone : (s.touch thread).logFiles logger.channelName = [] := State.logFiles_eq_nil h
    rw [State.disk_emit, hnone]
    rfl
  · rfl

/-- A log file that could be opened is attached, behind a change of the disk. -/
theorem exists_of_attachFile_eq_ok {logger : Logger} {name : String} {maxBytes : Int}
    {backups : Nat} {s : State} {attached : Sink × State}
    (h : logger.attachFile name maxBytes backups s = .ok attached) :
    ∃ file disk, attached = logger.attach (.file file) { s with disk := disk } := by
  rw [attachFile] at h
  dsimp only at h
  split at h
  · cases h
  · obtain ⟨⟨path, disk⟩, -, hattach⟩ := Outcome.bind_eq_ok_iff.mp h
    cases hattach
    exact ⟨_, _, rfl⟩

end Logger

end ExcludeRules.Log
