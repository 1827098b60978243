/-
What a call gives: its message with the scopes that are open in its thread.

A call that is let through gives one record to each sink of its channel: collectors keep it, and
consoles and log files have its line.  The context of the record is what the open scopes of the
thread hold, the call's own values, and those that tell of an error, merged in that order.
Main statements:
  * `Call.gives`, `Call.givesNothing` : what a call that is let through gives, and any other;
  * `Step.context_apply_of_ne` : a step of another thread leaves a context as it is;
  * `calls_carry_open_scopes` : all of this along a run.
-/
import ExcludeRules.Proofs.Log.Rotation
import ExcludeRules.Proofs.Log.Scopes

namespace ExcludeRules.Log

/-! ### One call -/

/-- The values that tell of an error. -/
def Subject.entries : Subject → Context
  | plain _ => []
  | failure error =>
    [("exception_type", .text error.kind), ("exception_message", .text error.text)]

namespace State

theorem nodup_keys_context (s : State) (thread : Nat) : (s.context thread).keys.Nodup :=
  @Context.nodup_keys_foldl_merge [] List.nodup_nil _

theorem touch_touch (s : State) (thread : Nat) :
    (s.touch thread).touch thread = s.touch thread := by
  rw [touch, scopesOf_touch]
  simp [touch, setScopes]

theorem emit_of_ne_nil {s : State} {r : Record} (h : (s.channel r.channel).sinks ≠ []) :
    s.emit r =
      (s.channel r.channel).sinks.foldl (fun s sink => s.deliver r sink.target) s := by
  unfold emit
  split
  · rename_i hnone
    exact absurd hnone h
  · rfl

end State

namespace Call

/-- The call gives the record to each sink of its channel once.  A channel without sinks shows
it in a way of its own. -/
structure Gives (call : Call) (r : Record) (s : State) : Prop where
  apply_eq : call.apply s = (s.touch call.thread).emit r
  apply_of_ne_nil : (s.channel call.channelName).sinks ≠ [] →
    call.apply s = (s.channel call.channelName).sinks.foldl
      (fun s sink => s.deliver r sink.target) (s.touch call.thread)
  /-- Each collector keeps the record. -/
  records_eq : (call.apply s).records =
    s.records ++ List.replicate (s.collectors call.channelName) r
  /-- Each console shows its line. -/
  console_eq : (s.channel call.channelName).sinks ≠ [] → (call.apply s).console =
    s.console ++ String.join (List.replicate (s.consoles call.channelName) (s.lineOf r))
  /-- Each log file in its turn is given its line. -/
  disk_eq : (call.apply s).disk =
    (s.logFiles call.channelName).foldl (fun disk file => file.write disk (s.lineOf r)) s.disk
  /-- In the only log file the line stands behind what the file keeps. -/
  contents_eq : ∀ file, s.logFiles call.channelName = [file] →
    (call.apply s).disk.contents file.path =
      file.kept s.disk (s.lineOf r).length ++ (s.lineOf r).toUTF8.toList

/-- The call leaves the records, the console and the disk as they are. -/
structure GivesNothing (call : Call) (s : State) : Prop where
  records_eq : (call.apply s).records = s.records
  console_eq : (call.apply s).console = s.console
  disk_eq : (call.apply s).disk = s.disk

/-- What the call merges on top of the context of its thread. -/
def own (call : Call) : Context := call.values ++ call.subject.entries

/-- The record that the call makes. -/
def record (call : Call) (s : State) : Record :=
  ⟨call.subject.level, call.channelName,
    render call.message ((s.context call.thread).merge call.own),
    (s.context call.thread).merge call.own, call.subject.error?.map Report.line⟩

variable {call : Call} {s : State}

theorem apply_of_isEnabled (h : call.isEnabled s = true) :
    call.apply s = (s.touch call.thread).emit (call.record s) := by
  obtain ⟨logger, thread, subject, message, values⟩ := call
  cases subject with
  | plain level =>
    rw [record, own, Subject.entries, List.append_nil]
    exact Logger.log_of_isEnabled h thread message values none
  | failure error =>
    -- the context is merged before the error is told and once more when it is logged
    have hmerged : (((s.context thread).merge values).set "exception_type" (.text error.kind)).set
        "exception_message" (.text error.text) =
          (s.context thread).merge (values ++ (Subject.failure error).entries) := by
      rw [Context.merge, Context.merge, List.foldl_append]
      rfl
    have hlog := @Logger.log_of_isEnabled logger .error (s.touch thread) h thread message
      ((s.context thread).merge (values ++ (Subject.failure error).entries)) (some error)
    rw [State.context_touch, State.touch_touch,
      Context.merge_merge_self (s.nodup_keys_context thread)] at hlog
    show logger.report thread message error values s = _
    rw [Logger.report, hmerged]
    exact hlog

/-- A call that is let through gives its record. -/
theorem gives (h : call.isEnabled s = true) : call.Gives (call.record s) s := by
  have happly := apply_of_isEnabled h
  have hdisk : (call.apply s).disk = (s.logFiles call.channelName).foldl
      (fun disk file => file.write disk (s.lineOf (call.record s))) s.disk := by
    rw [happly]
    exact State.disk_emit (s.touch call.thread) (call.record s)
  refine ⟨happly, fun hsinks => ?_, ?_, fun hsinks => ?_, hdisk, fun file hfile => ?_⟩
  · rw [happly]
    exact @State.emit_of_ne_nil (s.touch call.thread) (call.record s) hsinks
  · rw [happly]
    exact State.records_emit (s.touch call.thread) (call.record s)
  · rw [happly]
    exact @State.console_emit (s.touch call.thread) (call.record s) hsinks
  · rw [hdisk, hfile]
    exact file.contents_write s.disk _

/-- A call that is not let through gives nothing. -/
theorem givesNothing (h : call.isEnabled s = false) : call.GivesNothing s := by
  -- where an error is told, the scopes of the thread are looked at in any case
  have happly : call.apply s = s ∨ call.apply s = s.touch call.thread := by
    obtain ⟨logger, thread, subject, message, values⟩ := call
    cases subject with
    | plain level => exact .inl (Logger.log_of_not_isEnabled h thread message values none)
    | failure error =>
      exact .inr (@Logger.log_of_not_isEnabled logger .error (s.touch thread) h thread message _
        (some error))
  rcases happly with happly | happly
  · exact ⟨by rw [happly], by rw [happly], by rw [happly]⟩
  · exact ⟨by rw [happly]; rfl, by rw [happly]; rfl, by rw [happly]; rfl⟩

end Call

/-! ### Other threads -/

theorem State.scopesOf_closeScope?_of_ne {s t : State} {a b : Nat} (h : a ≠ b)
    (hclose : s.closeScope? b = .ok t) : t.scopesOf a = s.scopesOf a := by
  unfold closeScope? at hclose
  split at hclose
  · cases hclose
  · cases hclose
  · cases hclose
    exact s.scopesOf_setScopes_of_ne h _

/-- A step of one thread leaves the contexts of the others as they are. -/
theorem Step.context_apply_of_ne {step : Step} {thread : Nat} (h : step.thread? ≠ some thread)
    (s : State) : (step.apply s).context thread = s.context thread := by
  cases hleaves : step.leavesScopes with
  | true => rw [State.context, State.context, scopesOf_apply_of_leavesScopes hleaves]
  | false =>
    cases step with
    | opens scope t values =>
      have ht : thread ≠ t := fun heq => h (congrArg some heq.symm)
      exact s.context_openScope_of_ne ht values
    | closes scope t =>
      have ht : thread ≠ t := fun heq => h (congrArg some heq.symm)
      rw [Step.apply]
      split
      · rename_i hclose
        rw [State.context, State.context, State.scopesOf_closeScope?_of_ne ht hclose]
      · rfl
    | _ => cases hleaves

/-! ### A run -/

/-- The record of a call behind some steps: its context is what the scopes that are open in the
thread hold and what the call has of its own, and its message shows each key of that once. -/
structure Call.IsToldBy (call : Call) (steps : List Step) (r : Record) : Prop where
  level_eq : r.level = call.subject.level
  channel_eq : r.channel = call.channelName
  merged : r.context.IsMerged ((openIn call.thread steps).flatMap (·.2) ++ call.own)
  message_eq : r.message = if r.context = [] then call.message else
    call.message ++ " | " ++ " ".intercalate (r.context.map fun e => e.1 ++ "=" ++ e.2.toString)
  trouble_eq : r.trouble = call.subject.error?.map Report.line

theorem Call.isToldBy_record (disk : Disk) (stamp : String) {steps : List Step}
    (h : Nested steps) (call : Call) :
    call.IsToldBy steps (call.record (Step.after disk stamp steps)) := by
  have hmerged := (isMerged_context_after disk stamp h call.thread).merge call.own
  refine ⟨rfl, rfl, hmerged, ?_, rfl⟩
  rw [record]
  dsimp only
  rw [render, Context.pairs]
  cases Context.merge _ _ <;> rfl

/-- **The context of what is logged is that of the open scopes.**  Whatever was done before,
with any loggers and in any threads, the context of a thread is what the scopes that are open in
it hold.  A call that is let through gives each sink of its channel one record, with that context
and the call's own values in it: collectors keep it, and consoles and log files have its line once
more.  Any other call gives nothing.  Once a scope is closed its thread has the context that it
had before, and what one thread does leaves the others theirs. -/
theorem calls_carry_open_scopes (disk : Disk) (stamp : String) {steps : List Step}
    (h : Nested steps) :
    (∀ thread, ((Step.after disk stamp steps).context thread).IsMerged
      ((openIn thread steps).flatMap (·.2))) ∧
    (∀ call : Call, call.isEnabled (Step.after disk stamp steps) = true →
      ∃ r, call.IsToldBy steps r ∧ call.Gives r (Step.after disk stamp steps)) ∧
    (∀ call : Call, call.isEnabled (Step.after disk stamp steps) = false →
      call.GivesNothing (Step.after disk stamp steps)) ∧
    (∀ before inner scope thread values,
      steps = before ++ .opens scope thread values :: inner ++ [.closes scope thread] →
      (Step.after disk stamp steps).context thread =
        (Step.after disk stamp before).context thread) ∧
    ∀ step thread, Step.thread? step ≠ some thread →
      (step.apply (Step.after disk stamp steps)).context thread =
        (Step.after disk stamp steps).context thread := by
  refine ⟨isMerged_context_after disk stamp h, ?_, fun call => call.givesNothing, ?_, ?_⟩
  · intro call hcall
    exact ⟨_, call.isToldBy_record disk stamp h, call.gives hcall⟩
  · rintro before inner scope thread values rfl
    rw [State.context, State.context, scopesOf_after disk stamp h, openIn_closed h]
    rw [List.append_assoc] at h
    rw [scopesOf_after disk stamp h.of_append]
  · intro step thread hthread
    exact Step.context_apply_of_ne hthread _

/-- A key that two scopes and the call set again, beside a scope of another thread. -/
theorem calls_carry_open_scopes_shadowed :
    let steps : List Step :=
      [.create "app" (.name "info") [.collector], .opens 0 0 [("k", .int 1), ("a", .int 2)],
        .opens 1 1 [("k", .int 9)], .opens 2 0 [("k", .int 3)], .opens 3 0 [("b", .int 7)],
        .closes 3 0]
    let call : Call := ⟨⟨0, "app"⟩, 0, .failure ⟨"KeyError", "KeyError", "x"⟩, "50%",
      [("a", .int 5)]⟩
    Nested steps ∧ call.isEnabled (Step.after ⟨[]⟩ "" steps) = true ∧
      (∃ r, call.IsToldBy steps r ∧ call.Gives r (Step.after ⟨[]⟩ "" steps)) ∧
      (call.apply (Step.after ⟨[]⟩ "" steps)).records.map (·.message) =
        ["50% | k=3 a=5 exception_type=KeyError exception_message=x"] := by
  intro steps call
  have hnested : Nested steps := by decide
  have henabled : call.isEnabled (Step.after ⟨[]⟩ "" steps) = true := by decide +kernel
  exact ⟨hnested, henabled, (calls_carry_open_scopes ⟨[]⟩ "" hnested).2.1 call henabled,
    by decide +kernel⟩

end ExcludeRules.Log
