/-
The logger that is used where none is given.

A logger that was installed is the one that a look-up without a name gives, and a list without
a logger uses, as long as it has the default name.  Otherwise the first such look-up makes a
logger of that name and installs it, and the channel of the name starts anew.  Main statements:
  * `Step.installed_apply` : a step that installs nothing keeps a logger of the default name;
  * `obtain_of_name_ne` : what is made where the installed logger has another name;
  * `default_logger_iff` : which loggers stay the default along a run.
-/
import ExcludeRules.FilterList.Basic
import ExcludeRules.Proofs.Log.Delivery
import ExcludeRules.Log.Step

namespace ExcludeRules

namespace Log

variable {s : State} {logger : Logger}

/-! ### One look-up -/

theorem State.channel_setChannel_self (s : State) (name : String) (c : Channel) :
    (s.setChannel name c).channel name = c := by
  simp [channel, setChannel]

theorem State.channel_setChannel_of_ne (s : State) {name other : String} (h : other ≠ name)
    (c : Channel) : (s.setChannel name c).channel other = s.channel other := by
  rw [channel, setChannel, List.find?_cons_of_neg (by simpa using h.symm), find?_filter_ne h,
    channel]

theorem Logger.name_obtain (name : String) (s : State) : (obtain name s).1.name = name := by
  rw [obtain]
  split
  · split
    · assumption
    · rfl
  · rfl

/-- A logger of the default name is made and installed, and the channel of the name starts anew:
with its own level and sinks, whatever they were.  The other channels are left alone. -/
structure MakesDefault (made : Logger) (s t : State) : Prop where
  name_eq : made.name = defaultName
  id_eq : made.id = s.issued
  installed_eq : t.installed = some made
  channel_eq : t.channel defaultName = ⟨Level.warning.number, [⟨s.issued + 1, .console⟩]⟩
  channel_of_ne : ∀ name ≠ defaultName, t.channel name = s.channel name

/-- If the installed logger has another name, or there is none, one is made. -/
theorem Logger.makesDefault_obtain (h : ∀ logger ∈ s.installed, logger.name ≠ defaultName) :
    MakesDefault (obtain defaultName s).1 s (obtain defaultName s).2 := by
  have heq : obtain defaultName s =
      ((createDefault defaultName s).1,
        (createDefault defaultName s).1.install (createDefault defaultName s).2) := by
    rw [obtain]
    split
    · rename_i hinstalled
      rw [if_neg (h _ hinstalled)]
    · rfl
  have hstate : (createDefault defaultName s).2 =
      { s with issued := s.issued + 1 + 1 }.setChannel defaultName
        ⟨Level.warning.number, [⟨s.issued + 1, .console⟩]⟩ := by
    have hsinks : numberSinks (s.issued + 1) [.console] = [⟨s.issued + 1, .console⟩] := rfl
    rw [createDefault, create, hsinks]
    rfl
  rw [heq]
  refine ⟨rfl, rfl, rfl, ?_, fun name hname => ?_⟩
  · show (createDefault defaultName s).2.channel defaultName = _
    rw [hstate, State.channel_setChannel_self]
  · show (createDefault defaultName s).2.channel name = _
    rw [hstate, State.channel_setChannel_of_ne _ hname]
    rfl

/-! ### A run -/

theorem Logger.installed_log (logger : Logger) (thread : Nat) (level : Level) (message : String)
    (values : Context) (trouble : Option Report) (s : State) :
    (logger.log thread level message values trouble s).installed = s.installed := by
  rcases logger.exists_log_eq thread level message values trouble s with heq | ⟨_, _, _, heq⟩
  · rw [heq]
  · rw [heq]
    rfl

namespace Step

/-- Whether a step looks for the logger that is used where none is given. -/
def isLookup : Step → Bool
  | obtain _ => true
  | _ => false

/-- The step installs no logger, and looks for none but that of the default name. -/
def KeepsDefault : Step → Prop
  | install _ => False
  | obtain name => name = defaultName
  | _ => True

theorem installed_apply_of_not_isLookup {step : Step} (h : step.KeepsDefault)
    (hlookup : step.isLookup = false) (s : State) : (step.apply s).installed = s.installed := by
  cases step with
  | install logger => cases h
  | obtain name => cases hlookup
  | create name level targets =>
    rw [apply]
    split <;> rfl
  | setLevel logger level =>
    rw [apply]
    split <;> rfl
  | attach logger target => rfl
  | attachFile logger name maxBytes backups =>
    rw [apply]
    split
    · rename_i hattach
      obtain ⟨file, disk, hattached⟩ := Logger.exists_of_attachFile_eq_ok hattach
      cases hattached
      rfl
    · rfl
  | detach logger sink => rfl
  | opens scope thread values => rfl
  | closes scope thread =>
    rw [apply, State.closeScope?]
    split
    · rename_i hclose
      split at hclose <;> cases hclose
      rfl
    · rfl
  | look thread => rfl
  | call c =>
    rw [apply, Call.apply]
    split
    · exact Logger.installed_log ..
    · exact Logger.installed_log ..

/-- A logger of the default name stays installed. -/
theorem installed_apply {step : Step} (h : step.KeepsDefault) (hname : logger.name = defaultName)
    (hs : s.installed = some logger) : (step.apply s).installed = some logger := by
  cases hlookup : step.isLookup with
  | false => rw [installed_apply_of_not_isLookup h hlookup, hs]
  | true =>
    cases step with
    | obtain name =>
      obtain rfl : name = logger.name := h.trans hname.symm
      rw [apply, Logger.installed_obtain_of_name hs, hs]
    | _ => cases hlookup

theorem installed_run {steps : List Step} (h : ∀ step ∈ steps, step.KeepsDefault)
    (hname : logger.name = defaultName) (hs : s.installed = some logger) :
    (run steps s).installed = some logger := by
  induction steps generalizing s with
  | nil => exact hs
  | cons step steps ih =>
    obtain ⟨hstep, hsteps⟩ := List.forall_mem_cons.mp h
    exact ih hsteps (installed_apply hstep hname hs)

theorem installed_run_of_not_isLookup {steps : List Step} (h : ∀ step ∈ steps, step.KeepsDefault)
    (hlookup : ∀ step ∈ steps, step.isLookup = false) (s : State) :
    (run steps s).installed = s.installed := by
  induction steps generalizing s with
  | nil => rfl
  | cons step steps ih =>
    obtain ⟨hstep, hsteps⟩ := List.forall_mem_cons.mp h
    obtain ⟨hlook, hlooks⟩ := List.forall_mem_cons.mp hlookup
    exact (ih hsteps hlooks (step.apply s)).trans (installed_apply_of_not_isLookup hstep hlook s)

end Step

/-- Along a run a logger of the default name is what each look-up gives, and no look-up changes
the state. -/
theorem obtain_run {steps : List Step} (h : ∀ step ∈ steps, step.KeepsDefault)
    (hname : logger.name = defaultName) (hs : s.installed = some logger) :
    Logger.obtain defaultName (Step.run steps s) = (logger, Step.run steps s) := by
  rw [← hname]
  exact Logger.installed_obtain_of_name (Step.installed_run h hname hs)

end Log

namespace FilterList

open Log (Logger State Step defaultName)

/-- **Which installed loggers stay the default.**  As long as no other logger is installed or
asked for by name, a look-up without a name gives the logger that was installed if and only if
that has the default name.  Then it changes nothing, and lists without a logger use this one.
Otherwise the first look-up makes a logger of the default name, whose channel loses the level and
the sinks that it had, and from then on that one is given. -/
theorem default_logger_iff (logger : Logger) (s : State) {steps : List Step}
    (h : ∀ step ∈ steps, step.KeepsDefault) :
    ((Logger.obtain defaultName (Step.run steps (logger.install s))).1 = logger ↔
      logger.name = defaultName) ∧
    (logger.name = defaultName →
      Logger.obtain defaultName (Step.run steps (logger.install s)) =
        (logger, Step.run steps (logger.install s)) ∧
      ∀ patterns, ofPatterns patterns none (Step.run steps (logger.install s)) =
        (⟨patterns, logger⟩, Step.run steps (logger.install s))) ∧
    (logger.name ≠ defaultName → (∀ step ∈ steps, step.isLookup = false) →
      ∃ made t, Logger.obtain defaultName (Step.run steps (logger.install s)) = (made, t) ∧
        Log.MakesDefault made (Step.run steps (logger.install s)) t ∧
        (∀ patterns, ofPatterns patterns none (Step.run steps (logger.install s)) =
          (⟨patterns, made⟩, t)) ∧
        ∀ later : List Step, (∀ step ∈ later, step.KeepsDefault) →
          Logger.obtain defaultName (Step.run later t) = (made, Step.run later t)) := by
  have hlist : ∀ patterns s, ofPatterns patterns none s =
      (⟨patterns, (Logger.obtain defaultName s).1⟩, (Logger.obtain defaultName s).2) :=
    fun patterns s => rfl
  have hsame : logger.name = defaultName →
      Logger.obtain defaultName (Step.run steps (logger.install s)) =
        (logger, Step.run steps (logger.install s)) :=
    fun hname => Log.obtain_run h hname rfl
  refine ⟨⟨fun heq => ?_, fun hname => by rw [hsame hname]⟩, fun hname => ?_, fun hname hlook => ?_⟩
  · rw [← heq]
    exact Logger.name_obtain defaultName _
  · refine ⟨hsame hname, fun patterns => ?_⟩
    rw [hlist, hsame hname]
  · have hinstalled := Step.installed_run_of_not_isLookup h hlook (logger.install s)
    -- until a look-up comes, the logger of the other name is still the one that is installed
    have hmade := @Logger.makesDefault_obtain (Step.run steps (logger.install s)) (by
      rw [hinstalled]
      rintro other hother
      obtain rfl : logger = other := Option.some.inj hother
      exact hname)
    exact ⟨_, _, rfl, hmade, fun patterns => rfl,
      fun later hlater => Log.obtain_run hlater hmade.name_eq hmade.installed_eq⟩

/-- A logger of the default name beside one of another. -/
theorem default_logger_iff_custom :
    let s := Step.after ⟨[]⟩ "" [.create defaultName (.name "debug") [.collector],
      .create "custom" (.name "debug") [.collector]]
    let steps : List Step := [.setLevel ⟨2, "custom"⟩ (.name "info"), .look 0]
    (∀ step ∈ steps, step.KeepsDefault) ∧
      Logger.obtain defaultName (Step.run steps (Logger.install ⟨0, defaultName⟩ s)) =
        (⟨0, defaultName⟩, Step.run steps (Logger.install ⟨0, defaultName⟩ s)) ∧
      (∀ step ∈ steps, step.isLookup = false) ∧
      ∃ made t, Logger.obtain defaultName (Step.run steps (Logger.install ⟨2, "custom"⟩ s)) =
        (made, t) ∧ Log.MakesDefault made (Step.run steps (Logger.install ⟨2, "custom"⟩ s)) t := by
  intro s steps
  have hkeeps : ∀ step ∈ steps, step.KeepsDefault := by simp [steps, Step.KeepsDefault]
  have hlook : ∀ step ∈ steps, step.isLookup = false := by decide
  obtain ⟨made, t, hobtain, hmade, -⟩ :=
    (default_logger_iff ⟨2, "custom"⟩ s hkeeps).2.2 (by decide) hlook
  exact ⟨hkeeps, ((default_logger_iff ⟨0, defaultName⟩ s hkeeps).2.1 rfl).1, hlook,
    made, t, hobtain, hmade⟩

/-- A logger of another name is lost at the first look-up, and the logger that has the default
name loses its level and its sink. -/
theorem exists_installed_lost :
    ∃ (steps : List Step) (logger : Logger),
      steps.getLast? = some (.install logger) ∧
      (Logger.obtain defaultName (Step.after ⟨[]⟩ "" steps)).1 ≠ logger ∧
      (Step.after ⟨[]⟩ "" steps).channel defaultName = ⟨10, [⟨1, .collector⟩]⟩ ∧
      (Logger.obtain defaultName (Step.after ⟨[]⟩ "" steps)).2.channel defaultName =
        ⟨30, [⟨5, .console⟩]⟩ :=
  ⟨[.create defaultName (.name "debug") [.collector], .create "custom" (.name "debug") [.collector],
      .install ⟨2, "custom"⟩], ⟨2, "custom"⟩, rfl, by decide +kernel, by decide +kernel,
    by decide +kernel⟩

end FilterList

end ExcludeRules
