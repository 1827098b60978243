/-
The failures that escape the program.

A run ends with an exit code, or with a failure that nothing reports.  Which failures
these are is said stage by stage: a configuration file with a fault that has no code, a
log that cannot be opened, and a check that meets what it cannot use.  Every other run
ends with 0, 1 or 2, and with an error line unless it is 0.  Main statements:
  * `exitOf_eq_error_iff` : a command fails where it is stopped by a failure;
  * `check_eq_failure_iff` : what a check is stopped by;
  * `exit_eq_error_iff_escapes` : the failures that escape.
-/
import ExcludeRules.Proofs.CommandLine.Checking
import ExcludeRules.Proofs.Settings.Reading

namespace ExcludeRules.CommandLine

open RuleSource

/-! ### Endings -/

theorem exitOf_eq_error_iff {done : Except Stop Unit} {f : Failure} :
    exitOf done = .error f ↔ done = .error (.failure f) := by
  constructor
  · intro h
    cases done with
    | ok => cases h
    | error stop =>
      cases stop <;> cases h
      rfl
  · rintro rfl
    rfl

/-- The run ends with 0, or with 1 or 2 and an error line. -/
def Reports (r : Result) : Prop :=
  ∀ code, r.exit = .ok code → code = 0 ∨ (code = 1 ∨ code = 2) ∧
    ∃ before message, r.progress.log.console = before ++ errorLine message ++ "\n"

theorem reports_complain {code : Nat} (hcode : code = 1 ∨ code = 2) (p : Progress)
    (message : String) : Reports ⟨.ok code, p.complain (errorLine message)⟩ := by
  intro code' h
  cases h
  exact .inr ⟨hcode, p.log.console, message, rfl⟩

theorem reports_finish (logger : Log.Logger) (done : Except Stop Unit) (p : Progress) :
    Reports (finish logger (done, p)) := by
  cases done with
  | ok =>
    intro code h
    cases h
    exact .inl rfl
  | error stop =>
    cases stop with
    | rule e => exact reports_complain (.inl rfl) _ _
    | path e => exact reports_complain (.inr rfl) _ _
    | noRoot => exact reports_complain (.inr rfl) _ _
    | unreadable name e => exact reports_complain (.inr rfl) _ _
    | failure f =>
      intro code h
      cases h

/-! ### Commands -/

/-- Rules that are shown can only be refused as rules. -/
theorem translate_ne_failure (rules : List String) (p : Progress) (f : Failure) :
    (translate rules p).1 ≠ .error (.failure f) := by
  intro h
  induction rules generalizing p with
  | nil => cases h
  | cons text rest ih =>
    rw [translate] at h
    cases hp : Pattern.compile (some text) with
    | error e =>
      rw [hp] at h
      cases h
    | ok pattern =>
      rw [hp] at h
      exact ih _ h

/-- Below a root that is a text, only a path that the disk cannot be asked about is in the way. -/
theorem verdicts_eq_failure_iff {l : FilterList} {probe : Probe} {root : String}
    {paths : List String} {p : Progress} {f : Failure} :
    (verdicts l probe root paths p).1 = .error (.failure f) ↔
      f = .nul ∧ ∃ before path after, paths = before ++ path :: after ∧
        (∀ q ∈ before, isInside root q = true ∧
          ¬ FilterList.CannotTell probe root (some q) l.patterns) ∧
        FilterList.CannotTell probe root (some path) l.patterns := by
  obtain ⟨done, q, hverdicts, -, hexit⟩ := verdicts_eq l probe root paths p
  rw [hverdicts, ← exitOf_eq_error_iff, hexit, verdictsExit_eq_error_iff]
  refine and_congr_right fun _ => exists_congr fun before => exists_congr fun path =>
    exists_congr fun after => and_congr_right fun _ => ?_
  constructor
  · rintro ⟨hbefore, hnot, hinside⟩
    -- a list without patterns judges every path
    have hne : l.patterns ≠ [] := by
      intro hnil
      rw [hnil] at hnot
      cases hnot
    refine ⟨fun q hq => ?_, Classical.byContradiction fun htold => ?_⟩
    · rw [isInside_iff_resolve, ← FilterList.isJudged_iff hne]
      exact hbefore q hq
    · refine Bool.false_ne_true (hnot.symm.trans ((FilterList.isJudged_iff hne).mpr ⟨?_, htold⟩))
      exact isInside_iff_resolve.mp hinside
  · rintro ⟨hbefore, hpath⟩
    have hne := FilterList.ne_nil_of_cannotTell hpath
    refine ⟨fun q hq => ?_, ?_, ?_⟩
    · rw [FilterList.isJudged_iff hne, ← isInside_iff_resolve]
      exact hbefore q hq
    · rw [← Bool.not_eq_true, FilterList.isJudged_iff hne]
      exact fun h => h.2 hpath
    · obtain ⟨c, hc, -⟩ := hpath
      exact isInside_iff_resolve.mpr ⟨c, hc⟩

/-- Rules and paths need a root that is a text. -/
theorem verdictsBelow_eq_failure_iff {l : FilterList} {probe : Probe} {root : Value}
    {paths : List String} {p : Progress} {f : Failure} :
    (verdictsBelow l probe root paths p).1 = .error (.failure f) ↔
      (l.patterns ≠ [] ∧ paths ≠ [] ∧ (∀ text, root ≠ .text text) ∧ f = .kind) ∨
      ∃ text, root = .text text ∧
        (verdicts l probe text paths p).1 = .error (.failure f) := by
  unfold verdictsBelow
  split
  · rename_i text
    constructor
    · intro h
      exact .inr ⟨text, rfl, h⟩
    · rintro (⟨-, -, htext, -⟩ | ⟨text', heq, h⟩)
      · exact absurd rfl (htext text)
      · cases heq
        exact h
  · rename_i htext
    by_cases hempty : (l.patterns.isEmpty || paths.isEmpty) = true
    · rw [if_pos hempty]
      rw [Bool.or_eq_true, List.isEmpty_iff, List.isEmpty_iff] at hempty
      constructor
      · intro h
        -- without patterns, or without paths, there is nothing to be told of
        obtain ⟨-, before, path, after, heq, -, hpath⟩ := verdicts_eq_failure_iff.mp h
        rcases hempty with hnil | hnil
        · exact absurd hnil (FilterList.ne_nil_of_cannotTell hpath)
        · rw [hnil] at heq
          exact absurd heq.symm (List.append_ne_nil_of_right_ne_nil _ (List.cons_ne_nil _ _))
      · rintro (⟨hpatterns, hpaths, -, -⟩ | ⟨text, heq, -⟩)
        · exact absurd hempty (not_or.mpr ⟨hpatterns, hpaths⟩)
        · exact absurd heq (htext text)
    · rw [if_neg hempty]
      rw [Bool.or_eq_true, List.isEmpty_iff, List.isEmpty_iff, not_or] at hempty
      constructor
      · intro h
        cases h
        exact .inl ⟨hempty.1, hempty.2, htext, rfl⟩
      · rintro (⟨-, -, -, rfl⟩ | ⟨text, heq, -⟩)
        · rfl
        · exact absurd heq (htext text)

/-- What stops a check that has a root, without being reported. -/
inductive CheckFault (settings : Settings) (probe : Probe) (options : CheckOptions)
    (paths : List String) (logger : Log.Logger) (p : Progress) : Failure → Prop
  /-- The setting that names the rule files is of another kind. -/
  | names {v : Value} (hv : settings.get "rules.files" (.list []) = v)
      (htext : ∀ name, v ≠ .text name) (hbytes : ∀ bs, v ≠ .bytes bs)
      (hlist : ∀ names, v ≠ .list names) (hset : ∀ names, v ≠ .set names)
      (hmap : ∀ entries, v ≠ .map entries) :
      CheckFault settings probe options paths logger p .kind
  /-- The first source that stops the program is nothing that it expects. -/
  | source {names : List Value} {f : Failure}
      (hnames : fileNames (settings.get "rules.files" (.list [])) = .ok names)
      (h : (ofCheck options names logger p).findSome? ending? = some (.error f)) :
      CheckFault settings probe options paths logger p f
  /-- All rules are loaded, and the root is no text. -/
  | root {names : List Value}
      (hnames : fileNames (settings.get "rules.files" (.list [])) = .ok names)
      (h : (ofCheck options names logger p).findSome? ending? = none)
      (hsources : ofCheck options names logger p ≠ []) (hpaths : paths ≠ [])
      (hroot : ∀ root, rootOf settings options ≠ .text root) :
      CheckFault settings probe options paths logger p .kind
  /-- All rules are loaded, and the first path without a verdict lies inside the root. -/
  | path {names : List Value} {root path : String} {before after : List String}
      (hnames : fileNames (settings.get "rules.files" (.list [])) = .ok names)
      (h : (ofCheck options names logger p).findSome? ending? = none)
      (hroot : rootOf settings options = .text root) (hpaths : paths = before ++ path :: after)
      (hbefore : ∀ q ∈ before, isInside root q = true ∧ ¬ FilterList.CannotTell probe root
        (some q) ((ofCheck options names logger p).filterMap pattern?))
      (hpath : FilterList.CannotTell probe root (some path)
        ((ofCheck options names logger p).filterMap pattern?)) :
      CheckFault settings probe options paths logger p .nul

theorem fileNames_eq_error_iff {v : Value} {f : Failure} :
    fileNames v = .error f ↔ (∀ name, v ≠ .text name) ∧ (∀ bs, v ≠ .bytes bs) ∧
      (∀ names, v ≠ .list names) ∧ (∀ names, v ≠ .set names) ∧
      (∀ entries, v ≠ .map entries) ∧ f = .kind := by
  cases v <;> simp [fileNames, eq_comm]

section CheckFaults

variable {settings : Settings} {probe : Probe} {options : CheckOptions} {paths : List String}
  {logger : Log.Logger} {p : Progress} {f : Failure}

theorem checkFault_of_check (hroot : (rootOf settings options).isTruthy = true)
    (h : (check settings probe options paths logger p).1 = .error (.failure f)) :
    CheckFault settings probe options paths logger p f := by
  cases hnames : fileNames (settings.get "rules.files" (.list [])) with
  | error e =>
    obtain ⟨htext, hbytes, hlist, hset, hmap, rfl⟩ := fileNames_eq_error_iff.mp hnames
    rw [check, hroot, if_neg (by decide), loadRules, hnames] at h
    cases h
    exact .names rfl htext hbytes hlist hset hmap
  | ok names =>
    cases hsources : (ofCheck options names logger p).findSome? ending? with
    | some exit =>
      obtain ⟨stop, q, hstop, -, rfl⟩ := check_of_some probe paths hroot hnames hsources
      rw [hstop] at h
      cases h
      exact .source hnames hsources
    | none =>
      -- all rules are loaded, and only the root or a path can stand in the way
      obtain ⟨q, -, hcheck⟩ := check_of_none probe paths hroot hnames hsources
      rw [hcheck] at h
      rcases verdictsBelow_eq_failure_iff.mp h with
        ⟨hpatterns, hpaths, htext, rfl⟩ | ⟨root, htext, hverdicts⟩
      · refine .root hnames hsources ?_ hpaths htext
        intro hnil
        exact hpatterns (congrArg (List.filterMap pattern?) hnil)
      · obtain ⟨rfl, before, path, after, heq, hbefore, hpath⟩ :=
          verdicts_eq_failure_iff.mp hverdicts
        exact .path hnames hsources htext heq hbefore hpath

theorem check_of_checkFault (hroot : (rootOf settings options).isTruthy = true)
    (h : CheckFault settings probe options paths logger p f) :
    (check settings probe options paths logger p).1 = .error (.failure f) := by
  cases h with
  | names hv htext hbytes hlist hset hmap =>
    have hnames : fileNames (settings.get "rules.files" (.list [])) = .error .kind :=
      fileNames_eq_error_iff.mpr
        ⟨hv ▸ htext, hv ▸ hbytes, hv ▸ hlist, hv ▸ hset, hv ▸ hmap, rfl⟩
    rw [check, hroot, if_neg (by decide), loadRules, hnames]
  | source hnames hsources =>
    obtain ⟨stop, q, hstop, -, hexit⟩ := check_of_some probe paths hroot hnames hsources
    have hdone : exitOf (.error stop) = .error f := hexit
    rw [hstop]
    exact exitOf_eq_error_iff.mp hdone
  | root hnames hsources hne hpaths htext =>
    obtain ⟨q, -, hcheck⟩ := check_of_none probe paths hroot hnames hsources
    rw [hcheck]
    exact verdictsBelow_eq_failure_iff.mpr
      (.inl ⟨patterns_ne_nil hsources hne, hpaths, htext, rfl⟩)
  | path hnames hsources htext heq hbefore hpath =>
    obtain ⟨q, -, hcheck⟩ := check_of_none probe paths hroot hnames hsources
    rw [hcheck]
    exact verdictsBelow_eq_failure_iff.mpr
      (.inr ⟨_, htext, verdicts_eq_failure_iff.mpr ⟨rfl, _, _, _, heq, hbefore, hpath⟩⟩)

/-- Without a root a check is reported as such, and meets no faults. -/
theorem check_eq_failure_iff :
    (check settings probe options paths logger p).1 = .error (.failure f) ↔
      (rootOf settings options).isTruthy = true ∧
        CheckFault settings probe options paths logger p f := by
  cases hroot : (rootOf settings options).isTruthy with
  | false =>
    rw [check, hroot]
    constructor
    · intro h
      cases h
    · rintro ⟨h, -⟩
      cases h
  | true =>
    constructor
    · intro h
      exact ⟨rfl, checkFault_of_check hroot h⟩
    · rintro ⟨-, h⟩
      exact check_of_checkFault hroot h

/-! ### What the program writes to -/

theorem unusable_ofBytes {bytes : List UInt8} (h : unusable f ∈ ofBytes bytes) :
    ∃ e, f = .encoding e := by
  rcases List.mem_append.mp h with hline | hfault
  · obtain ⟨text, -, htext⟩ := List.mem_map.mp hline
    cases htext
  · obtain ⟨e, -, he⟩ := Option.map_eq_some_iff.mp (Option.mem_toList.mp hfault)
    cases he
    exact ⟨e, rfl⟩

theorem descriptor?_of_output {name : Value} (h : unusable .output ∈ ofFile p name) :
    ∃ n, descriptor? name = some n ∧ (n, Stream.output) ∈ p.streams := by
  have hbytes {bytes : List UInt8} : unusable .output ∉ ofBytes bytes := fun hmem =>
    Failure.noConfusion (unusable_ofBytes hmem).choose_spec
  unfold ofFile at h
  split at h
  · rename_i n hname
    unfold ofNumber at h
    split at h
    · simp at h
    · split at h
      · simp at h
      · split at h
        · exact absurd h hbytes
        · rename_i m hfind
          have hm : m = n := by simpa using List.find?_some hfind
          exact ⟨n, hname, hm ▸ List.mem_of_find?_eq_some hfind⟩
        · simp at h
  · unfold ofName at h
    split at h
    · exact absurd h hbytes
    · simp at h
    · simp at h
  · simp at h

theorem mem_streams_of_loaded {name : Value} {stream : Int × Stream}
    (h : stream ∈ (loaded logger p name).streams) : stream ∈ p.streams := by
  unfold loaded closeFile at h
  cases hname : descriptor? name with
  | none =>
    rw [hname] at h
    exact h
  | some n =>
    rw [hname] at h
    exact (List.mem_filter.mp h).1

/-- Only a number under which the program writes can name what it is still to write to. -/
theorem exists_descriptor_of_output {names : List Value}
    (h : unusable .output ∈ ofFiles logger names p) :
    ∃ name ∈ names, ∃ n, descriptor? name = some n ∧ (n, Stream.output) ∈ p.streams := by
  induction names generalizing p with
  | nil => cases h
  | cons name names ih =>
    rcases List.mem_append.mp h with hhere | hrest
    · exact ⟨name, List.mem_cons_self, descriptor?_of_output hhere⟩
    · obtain ⟨other, hother, n, hn, hmem⟩ := ih hrest
      exact ⟨other, List.mem_cons_of_mem _ hother, n, hn, mem_streams_of_loaded hmem⟩

/-- A check that meets such a thing was told to read it. -/
theorem exists_name_of_output (h : CheckFault settings probe options paths logger p .output) :
    ∃ names, fileNames (settings.get "rules.files" (.list [])) = .ok names ∧
      ∃ name ∈ names, ∃ n, descriptor? name = some n ∧ (n, Stream.output) ∈ p.streams := by
  cases h with
  | @source names _ hnames hsources =>
    -- the source that stops the check stands in a file, for options are lines
    obtain ⟨source, hmem, hends⟩ := List.exists_of_findSome?_eq_some hsources
    have hsource : source = unusable .output := by
      cases source with
      | line text =>
        rw [ending?] at hends
        split at hends <;> cases hends
      | unreadable => cases hends
      | unusable f =>
        cases hends
        rfl
    rw [hsource] at hmem
    rcases List.mem_append.mp hmem with hfile | hoption
    · obtain ⟨name, hname, n, hn, hstream⟩ := exists_descriptor_of_output hfile
      rcases List.mem_append.mp hname with hsetting | htext
      · exact ⟨names, hnames, name, hsetting, n, hn, hstream⟩
      · -- the command line names files by texts alone
        obtain ⟨text, -, rfl⟩ := List.mem_map.mp htext
        cases hn
    · obtain ⟨text, -, htext⟩ := List.mem_map.mp hoption
      cases htext

end CheckFaults

/-! ### Runs -/

/-- What ends a run without being reported. -/
inductive Escapes (w : World) (a : Arguments) : Failure → Prop
  /-- The configuration file has a fault that has no code. -/
  | settings {name : String} {e : Settings.FileError} (hname : a.config = some name)
      (hne : name ≠ "") (h : Settings.Uncoded w.reader w.disk w.homes name e) :
      Escapes w a (.settings e)
  /-- The log has a level that cannot be used. -/
  | level {settings : Settings} {f : Failure}
      (hstart : Settings.start w.reader w.disk w.homes a.config (some w.environment) = .ok settings)
      (hdebug : a.debug = false)
      (h : LevelFault (settings.get "logging.level" (.text "WARNING")) f) : Escapes w a f
  /-- The log has a level, and a file that cannot be used. -/
  | logFile {settings : Settings} {level : Int} {f : Failure}
      (hstart : Settings.start w.reader w.disk w.homes a.config (some w.environment) = .ok settings)
      (hlevel : levelOf settings a.debug = .ok level)
      (h : LogFileFault w.disk (settings.get "logging.file" .null) f) : Escapes w a f
  /-- The command is a check, and it has a root. -/
  | check {settings : Settings} {logger : Log.Logger} {log : Log.State}
      {options : CheckOptions} {paths : List String} {f : Failure}
      (hready : Ready w a settings logger log) (hcommand : a.command = .check options paths)
      (hroot : (rootOf settings options).isTruthy = true)
      (h : CheckFault settings w.probe options paths logger (.start w log) f) : Escapes w a f

variable {w : World} {texts : List String} {a : Arguments}

/-- Once settings and log are set up, only a check fails. -/
theorem exit_eq_error_iff_of_ready {settings : Settings} {logger : Log.Logger} {log : Log.State}
    (hrequest : Request.ofTexts texts = .run a) (hready : Ready w a settings logger log)
    {f : Failure} :
    (run w texts).exit = .error f ↔ ∃ options paths, a.command = .check options paths ∧
      (rootOf settings options).isTruthy = true ∧
        CheckFault settings w.probe options paths logger (.start w log) f := by
  rw [run_of_ready hrequest hready, exit_finish, exitOf_eq_error_iff]
  cases a.command with
  | translate rules =>
    rw [carryOut]
    constructor
    · intro h
      exact absurd h (translate_ne_failure rules _ f)
    · rintro ⟨options, paths, h, -⟩
      cases h
  | check options paths =>
    rw [carryOut, check_eq_failure_iff]
    constructor
    · intro h
      exact ⟨options, paths, rfl, h⟩
    · rintro ⟨_, _, h, hfault⟩
      cases h
      exact hfault

theorem perform_of_start_error {e : Settings.FileError}
    (h : Settings.start w.reader w.disk w.homes a.config (some w.environment) = .error e) :
    perform w a =
      let p : Progress := .start w (.start w.disk w.stamp)
      if e.code?.isSome then ⟨.ok 2, p.complain (errorLine e.message)⟩
      else ⟨.error (.settings e), p⟩ := by
  rw [perform, h]

theorem perform_of_openLog_error {settings : Settings} {f : Failure}
    (hstart : Settings.start w.reader w.disk w.homes a.config (some w.environment) = .ok settings)
    (hlog : openLog settings a.debug (.start w.disk w.stamp) = .error f) :
    perform w a = ⟨.error f, .start w (.start w.disk w.stamp)⟩ := by
  rw [perform, hstart]
  dsimp only
  rw [hlog]

theorem escapes_of_exit_eq_error (hrequest : Request.ofTexts texts = .run a) {f : Failure}
    (h : (run w texts).exit = .error f) : Escapes w a f := by
  -- the stages in their order, for none is reached behind one that failed
  cases hstart : Settings.start w.reader w.disk w.homes a.config (some w.environment) with
  | error e =>
    rw [run_eq_perform hrequest, perform_of_start_error hstart] at h
    cases hcode : e.code? with
    | some code =>
      rw [hcode] at h
      cases h
    | none =>
      rw [hcode] at h
      cases h
      obtain ⟨name, hname, hne, hfault⟩ := (Settings.start_eq_error_iff hcode).mp hstart
      exact .settings hname hne hfault
  | ok settings =>
    cases hlog : openLog settings a.debug (.start w.disk w.stamp) with
    | error f' =>
      rw [run_eq_perform hrequest, perform_of_openLog_error hstart hlog] at h
      cases h
      rcases openLog_eq_error_iff.mp hlog with ⟨hdebug, hlevel⟩ | ⟨⟨level, hlevel⟩, hfile⟩
      · exact .level hstart hdebug hlevel
      · exact .logFile hstart hlevel hfile
    | ok opened =>
      have hready : Ready w a settings opened.1 opened.2 := ⟨hstart, hlog⟩
      obtain ⟨options, paths, hcommand, hroot, hfault⟩ :=
        (exit_eq_error_iff_of_ready hrequest hready).mp h
      exact .check hready hcommand hroot hfault

theorem exit_eq_error_of_escapes (hrequest : Request.ofTexts texts = .run a) {f : Failure}
    (h : Escapes w a f) : (run w texts).exit = .error f := by
  cases h with
  | settings hname hne hfault =>
    have hcode := hfault.code?_eq_none
    have hstart : Settings.start w.reader w.disk w.homes a.config (some w.environment) = .error _ :=
      (Settings.start_eq_error_iff hcode).mpr ⟨_, hname, hne, hfault⟩
    rw [run_eq_perform hrequest, perform_of_start_error hstart, hcode]
    rfl
  | level hstart hdebug hlevel =>
    have hlog := (openLog_eq_error_iff (s := .start w.disk w.stamp)).mpr
      (.inl ⟨hdebug, hlevel⟩)
    rw [run_eq_perform hrequest, perform_of_openLog_error hstart hlog]
  | logFile hstart hlevel hfile =>
    have hlog := (openLog_eq_error_iff (s := .start w.disk w.stamp)).mpr
      (.inr ⟨⟨_, hlevel⟩, hfile⟩)
    rw [run_eq_perform hrequest, perform_of_openLog_error hstart hlog]
  | check hready hcommand hroot hfault =>
    exact (exit_eq_error_iff_of_ready hrequest hready).mpr ⟨_, _, hcommand, hroot, hfault⟩

theorem reports_run (hrequest : Request.ofTexts texts = .run a) (w : World) :
    Reports (run w texts) := by
  rw [run_eq_perform hrequest]
  cases hstart : Settings.start w.reader w.disk w.homes a.config (some w.environment) with
  | error e =>
    rw [perform_of_start_error hstart]
    dsimp only
    split
    · exact reports_complain (.inr rfl) _ _
    · intro code h
      cases h
  | ok settings =>
    cases hlog : openLog settings a.debug (.start w.disk w.stamp) with
    | error f =>
      rw [perform_of_openLog_error hstart hlog]
      intro code h
      cases h
    | ok opened =>
      rw [← run_eq_perform hrequest, run_of_ready hrequest ⟨hstart, hlog⟩]
      exact reports_finish _ _ _

/-- The check is told to read nothing that the program itself is still to write to. -/
def KeepsOutputs (w : World) (a : Arguments) : Prop :=
  ∀ settings names, Settings.start w.reader w.disk w.homes a.config (some w.environment) =
      .ok settings → fileNames (settings.get "rules.files" (.list [])) = .ok names →
    ∀ name ∈ names, ∀ n, descriptor? name = some n → (n, Stream.output) ∉ w.streams

/-- **What escapes.**  A run of a command line that asks for a command ends with a failure
exactly if its configuration file has a fault without a code, its log has a level or a
file that cannot be used, or it is a check that meets rule files, a source, a root or a path
that it cannot use.  Every other run ends with 0, 1 or 2, and with an error line unless it
is 0.  What becomes of a check that is told to read what the program itself writes to is not
said: a failure of its own stands for that, and no other run ends with it. -/
theorem exit_eq_error_iff_escapes (hrequest : Request.ofTexts texts = .run a) (w : World) :
    (∀ f, (run w texts).exit = .error f ↔ Escapes w a f) ∧ Reports (run w texts) ∧
      (KeepsOutputs w a → (run w texts).exit ≠ .error .output) := by
  refine ⟨fun f => ⟨?_, ?_⟩, reports_run hrequest w, ?_⟩
  · exact escapes_of_exit_eq_error hrequest
  · exact exit_eq_error_of_escapes hrequest
  · intro hkeeps h
    -- settings have failures of their own, and a level or a log file never fails like this
    cases escapes_of_exit_eq_error hrequest h with
    | level hstart hdebug hlevel =>
      generalize Settings.get _ _ _ = v at hlevel
      cases hlevel
    | logFile hstart hlevel hfile =>
      generalize Settings.get _ _ _ = v at hfile
      cases hfile
    | check hready hcommand hroot hfault =>
      obtain ⟨names, hnames, name, hname, n, hn, hstream⟩ := exists_name_of_output hfault
      exact hkeeps _ names hready.settings_eq hnames name hname n hn hstream

/-- A configuration file that is not UTF-8. -/
theorem exit_eq_error_iff_escapes_config :
    let w : World := ⟨Yaml.read, ⟨[(⟨0, ["i.yaml".toList]⟩, .file [0xff])]⟩, fun _ => none, [],
      .ofTable fun _ => .missing, "", []⟩
    (run w ["-c", "i.yaml", "translate", "x"]).exit =
      .error (.settings (.encoding ⟨0, [0xff], .invalidStart⟩)) := by
  intro w
  have hrequest : Request.ofTexts ["-c", "i.yaml", "translate", "x"] =
      .run ⟨some "i.yaml", false, .translate ["x"]⟩ := by
    decide +kernel
  have hpath : Settings.expandHome w.homes (.ofText "i.yaml".toList) =
      .ok ⟨0, ["i.yaml".toList]⟩ := rfl
  have hread : w.disk.read "i.yaml" = .ok [0xff] := rfl
  have hdecode : w.reader [0xff] = .error (.encoding ⟨0, [0xff], .invalidStart⟩) := rfl
  obtain ⟨hescapes, -⟩ := exit_eq_error_iff_escapes hrequest w
  exact (hescapes _).mpr (.settings rfl (by decide) (.encoding hpath hread hdecode))

/-- A rule file that is not UTF-8 ends a check without an exit code. -/
theorem exit_ne_ok_of_undecodable_rules :
    let w : World := ⟨Yaml.read, ⟨[(⟨0, ["rules.txt".toList]⟩, .file [0xff])]⟩, fun _ => none, [],
      .ofTable fun _ => .missing, "", []⟩
    let texts := ["check", "-r", "/r", "-f", "rules.txt", "a"]
    (∃ a, Request.ofTexts texts = .run a) ∧ ∀ code, (run w texts).exit ≠ .ok code := by
  intro w texts
  have hexit : (run w texts).exit = .error (.encoding ⟨0, [0xff], .invalidStart⟩) := rfl
  refine ⟨⟨_, rfl⟩, fun code hcode => ?_⟩
  rw [hexit] at hcode
  cases hcode

end ExcludeRules.CommandLine
