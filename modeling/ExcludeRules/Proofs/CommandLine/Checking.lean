/-
What a check prints, and how it ends.

Nothing is printed before all rules are loaded.  Then each path in its turn has a line
with its verdict, until one lies outside the root, or cannot be judged because the disk
cannot be asked about it; a path is excluded exactly if some line, compiled alone, matches
it.  Main statements:
  * `isInside_iff` : the paths that lie inside a root;
  * `verdicts_eq` : the lines that are printed below a root;
  * `run_of_ready` : a run whose settings and log are set up;
  * `check_prints_verdicts` : output and exit code of a check.
-/
import ExcludeRules.Proofs.CommandLine.Opening
import ExcludeRules.Proofs.CommandLine.Sources
import ExcludeRules.Proofs.FilterList.Refusal
import ExcludeRules.Yaml.Value

namespace ExcludeRules.CommandLine

open RuleSource

/-! ### Verdicts -/

/-- Whether a path lies inside a root. -/
def isInside (root path : String) : Bool := (Candidate.resolve root (some path)).toOption.isSome

theorem isInside_iff {root path : String} :
    isInside root path = true ↔
      ∃ r, Path.root? root = .ok r ∧ Path.AtOrAbove r (Path.target r path) := by
  rw [isInside]
  constructor
  · intro h
    cases hc : Candidate.resolve root (some path) with
    | error e =>
      rw [hc] at h
      cases h
    | ok c =>
      obtain ⟨r, hr, hplace⟩ := Candidate.resolve_eq_ok_iff.mp hc
      obtain ⟨below, hbelow, -⟩ := Candidate.place_eq_ok_iff.mp hplace
      obtain ⟨hslashes, hsegments⟩ := Path.below?_eq_some_iff.mp hbelow
      exact ⟨r, hr, hslashes.symm, below, hsegments⟩
  · rintro ⟨r, hr, hslashes, below, hsegments⟩
    have hplace : Candidate.place r (.ofText path.toList) = .ok ⟨r, r.target path, below⟩ :=
      Candidate.place_eq_ok_iff.mpr
        ⟨below, Path.below?_eq_some_iff.mpr ⟨hslashes.symm, hsegments⟩, rfl⟩
    rw [Candidate.resolve_eq_ok_iff.mpr ⟨r, hr, hplace⟩]
    rfl

theorem isInside_iff_resolve {root path : String} :
    isInside root path = true ↔ ∃ c, Candidate.resolve root (some path) = .ok c := by
  rw [isInside]
  cases Candidate.resolve root (some path) with
  | error e => exact iff_of_false Bool.false_ne_true fun ⟨_, h⟩ => nomatch h
  | ok c => exact iff_of_true rfl ⟨c, rfl⟩

/-- The line that is printed for a path. -/
def verdictLine (excluded : Bool) (path : String) : String :=
  verdictWord excluded ++ "\t" ++ path ++ "\n"

/-- What is printed for paths, as long as there is a verdict. -/
def verdictLines (judged excluded : String → Bool) (paths : List String) : String :=
  String.join ((paths.takeWhile judged).map fun path => verdictLine (excluded path) path)

/-- How the verdicts end: the first path without one lies outside the root, which is an error
of use, or it holds a NUL. -/
def verdictsExit (root : String) (judged : String → Bool) (paths : List String) :
    Except Failure Nat :=
  match paths.find? fun path => !judged path with
  | none => .ok 0
  | some path => if isInside root path then .error .nul else .ok 2

theorem verdictsExit_of_find? {root path : String} {judged : String → Bool} {paths : List String}
    (h : paths.find? (fun path => !judged path) = some path) :
    verdictsExit root judged paths = if isInside root path then .error .nul else .ok 2 := by
  rw [verdictsExit, h]

/-- Verdicts fail at a path inside the root, if there is one on each path before it. -/
theorem verdictsExit_eq_error_iff {root : String} {judged : String → Bool} {paths : List String}
    {f : Failure} :
    verdictsExit root judged paths = .error f ↔
      f = .nul ∧ ∃ before path after, paths = before ++ path :: after ∧
        (∀ q ∈ before, judged q = true) ∧ judged path = false ∧ isInside root path = true := by
  constructor
  · intro h
    cases hfind : paths.find? fun path => !judged path with
    | none =>
      rw [verdictsExit, hfind] at h
      cases h
    | some path =>
      obtain ⟨hnot, before, after, heq, hbefore⟩ := List.find?_eq_some_iff_append.mp hfind
      rw [verdictsExit_of_find? hfind] at h
      cases hinside : isInside root path with
      | false =>
        rw [hinside] at h
        cases h
      | true =>
        rw [hinside] at h
        cases h
        exact ⟨rfl, before, path, after, heq, by simpa using hbefore, by simpa using hnot, hinside⟩
  · rintro ⟨rfl, before, path, after, rfl, hbefore, hnot, hinside⟩
    have hfind : (before ++ path :: after).find? (fun path => !judged path) = some path :=
      List.find?_eq_some_iff_append.mpr
        ⟨by rw [hnot]; rfl, before, after, rfl, by simpa using hbefore⟩
    rw [verdictsExit_of_find? hfind, hinside, if_pos rfl]

/-- How a command ends. -/
def exitOf : Except Stop Unit → Except Failure Nat
  | .ok () => .ok 0
  | .error stop => stop.exit

theorem output_print (p : Progress) (excluded : Bool) (path : String) :
    (p.print (verdictWord excluded ++ "\t" ++ path)).output =
      p.output ++ verdictLine excluded path := by
  show p.output ++ (verdictWord excluded ++ "\t" ++ path) ++ "\n" = _
  rw [verdictLine, String.append_assoc]

/-- A path that a list fails on lies outside the root, or the disk cannot be asked about it. -/
theorem exit_ofMatch {probe : Probe} {root path : String} {ps : List Pattern} {e : MatchError}
    (h : FilterList.firstMatch? probe root (some path) ps = .error e) :
    (Stop.ofMatch e).exit = if isInside root path then .error .nul else .ok 2 := by
  cases e with
  | path e =>
    obtain ⟨-, hrefused⟩ := FilterList.firstMatch?_eq_path_error_iff.mp h
    rw [isInside, Candidate.resolve_eq_error_iff.mpr hrefused]
    rfl
  | nul =>
    obtain ⟨c, hc, -⟩ := FilterList.firstMatch?_eq_nul_iff.mp h
    rw [isInside, hc]
    rfl

/-- A list judges paths in their turn, and stops at the first that it fails on. -/
theorem verdicts_eq (l : FilterList) (probe : Probe) (root : String) (paths : List String)
    (p : Progress) :
    let judged := FilterList.isJudged probe root l.patterns
    ∃ done q, verdicts l probe root paths p = (done, q) ∧
      q.output = p.output ++
        verdictLines judged (FilterList.anyMatches probe root l.patterns) paths ∧
      exitOf done = verdictsExit root judged paths := by
  intro judged
  -- each verdict may be logged, so the state differs from path to path, and the output grows
  induction paths generalizing p with
  | nil =>
    refine ⟨.ok (), p, rfl, ?_, rfl⟩
    rw [verdictLines, List.takeWhile_nil, List.map_nil, String.join_nil, String.append_empty]
  | cons path paths ih =>
    rw [verdicts, FilterList.isExcluded_eq_map, verdictLines, verdictsExit, List.find?_cons]
    cases hfirst : FilterList.firstMatch? probe root (some path) l.patterns with
    | error e =>
      -- nothing is printed from here on
      have hnot : judged path = false := by
        show FilterList.isJudged probe root l.patterns path = false
        rw [FilterList.isJudged, hfirst]
        rfl
      refine ⟨.error (.ofMatch e), p, rfl, ?_, ?_⟩
      · rw [List.takeWhile_cons_of_neg (Bool.eq_false_iff.mp hnot), List.map_nil,
          String.join_nil, String.append_empty]
      · rw [hnot]
        exact exit_ofMatch hfirst
    | ok found =>
      have hjudged : judged path = true := by
        show FilterList.isJudged probe root l.patterns path = true
        rw [FilterList.isJudged, hfirst]
        rfl
      have hfst : (l.judge root (some path) 0 p.log found).1 = found.isSome := by
        cases found <;> rfl
      obtain ⟨done, q, hdone, houtput, hexit⟩ :=
        ih ({ p with log := (l.judge root (some path) 0 p.log found).2 }.print
          (verdictWord found.isSome ++ "\t" ++ path))
      refine ⟨done, q, ?_, ?_, ?_⟩
      · rw [← hfst] at hdone
        exact hdone
      · rw [houtput, output_print, FilterList.isSome_of_firstMatch? hfirst,
          List.takeWhile_cons_of_pos hjudged, List.map_cons, String.join_cons,
          String.append_assoc]
        rfl
      · rw [hexit, hjudged]
        rfl

/-! ### Runs -/

/-- The settings and the log of a run are set up. -/
structure Ready (w : World) (a : Arguments) (settings : Settings) (logger : Log.Logger)
    (log : Log.State) : Prop where
  settings_eq : Settings.start w.reader w.disk w.homes a.config (some w.environment) = .ok settings
  log_eq : openLog settings a.debug (.start w.disk w.stamp) = .ok (logger, log)

variable {w : World} {texts : List String} {a : Arguments} {settings : Settings}
  {logger : Log.Logger} {log : Log.State}

theorem run_eq_perform (hrequest : Request.ofTexts texts = .run a) :
    run w texts = perform w a := by
  rw [run, hrequest]

/-- What a command does once settings and log are set up. -/
def carryOut (w : World) (settings : Settings) (logger : Log.Logger) (log : Log.State) :
    Command → Except Stop Unit × Progress
  | .translate rules => translate rules (.start w log)
  | .check options paths => check settings w.probe options paths logger (.start w log)

theorem run_of_ready (hrequest : Request.ofTexts texts = .run a)
    (h : Ready w a settings logger log) :
    run w texts = finish logger (carryOut w settings logger log a.command) := by
  rw [run_eq_perform hrequest, perform, h.settings_eq]
  dsimp only
  rw [h.log_eq]
  rfl

theorem exit_finish (logger : Log.Logger) (done : Except Stop Unit) (p : Progress) :
    (finish logger (done, p)).exit = exitOf done := by
  cases done with
  | ok => rfl
  | error stop => cases stop <;> rfl

/-- What a command printed before it ended stands. -/
theorem output_finish (logger : Log.Logger) (done : Except Stop Unit) (p : Progress) :
    (finish logger (done, p)).progress.output = p.output := by
  cases done with
  | ok => rfl
  | error stop => cases stop <;> rfl

/-! ### Checks -/

section Checks

variable {options : CheckOptions} {names : List Value} {p : Progress}

theorem check_of_some {exit : Except Failure Nat} (probe : Probe) (paths : List String)
    (hroot : (rootOf settings options).isTruthy = true)
    (hnames : fileNames (settings.get "rules.files" (.list [])) = .ok names)
    (h : (ofCheck options names logger p).findSome? ending? = some exit) :
    ∃ stop q, check settings probe options paths logger p = (.error stop, q) ∧
      q.output = p.output ∧ stop.exit = exit := by
  obtain ⟨stop, q, hstop, houtput, hexit⟩ := loadRules_of_some hnames h
  refine ⟨stop, q, ?_, houtput, hexit⟩
  rw [check, hroot, if_neg (by decide), hstop]

/-- Once all rules are loaded, a check is what its verdicts are. -/
theorem check_of_none (probe : Probe) (paths : List String)
    (hroot : (rootOf settings options).isTruthy = true)
    (hnames : fileNames (settings.get "rules.files" (.list [])) = .ok names)
    (h : (ofCheck options names logger p).findSome? ending? = none) :
    ∃ q, q.output = p.output ∧ check settings probe options paths logger p =
      let (done, q) := verdictsBelow
        ⟨(ofCheck options names logger p).filterMap pattern?, logger⟩ probe
        (rootOf settings options) paths q
      (done, { q with log := q.log.closeScope 0 }) := by
  obtain ⟨q, hq, houtput⟩ := loadRules_of_none hnames h
  refine ⟨{ q with log := q.log.openScope 0 [("root", rootOf settings options)] }, houtput, ?_⟩
  rw [check, hroot, if_neg (by decide), hq]

end Checks

/-- The value names these files: a text names one, and a list of texts names each. -/
def NamesFiles (v : Value) (files : List String) : Prop :=
  (∃ name, v = .text name ∧ files = [name]) ∨ v = .list (files.map .text)

theorem fileNames_of_namesFiles {v : Value} {files : List String} (h : NamesFiles v files) :
    fileNames v = .ok (files.map .text) := by
  rcases h with ⟨name, rfl, rfl⟩ | rfl
  · rfl
  · rfl

/-- The patterns of sources are those of their lines. -/
theorem exists_mem_pattern_iff {sources : List RuleSource} {good : Pattern → Prop} :
    (∃ p ∈ sources.filterMap pattern?, good p) ↔
      ∃ text p, line text ∈ sources ∧ Pattern.compile (some text) = .ok p ∧ good p := by
  constructor
  · rintro ⟨p, hmem, hgood⟩
    obtain ⟨source, hsource, hp⟩ := List.mem_filterMap.mp hmem
    cases source with
    | line text =>
      refine ⟨text, p, hsource, ?_, hgood⟩
      cases hc : Pattern.compile (some text) with
      | error e =>
        rw [pattern?, hc] at hp
        cases hp
      | ok q =>
        rw [pattern?, hc] at hp
        cases hp
        rfl
    | unreadable => cases hp
    | unusable f => cases hp
  · rintro ⟨text, p, hmem, hp, hgood⟩
    refine ⟨p, List.mem_filterMap.mpr ⟨_, hmem, ?_⟩, hgood⟩
    rw [pattern?, hp]
    rfl

/-- Where nothing stops the program, the first source is a line and has a pattern. -/
theorem patterns_ne_nil {sources : List RuleSource} (h : sources.findSome? ending? = none)
    (hne : sources ≠ []) : sources.filterMap pattern? ≠ [] := by
  obtain ⟨source, rest, rfl⟩ := List.exists_cons_of_ne_nil hne
  cases source with
  | line text =>
    obtain ⟨p, hp, -⟩ := findSome?_line_cons_eq_none_iff.mp h
    rw [filterMap_line_cons hp]
    exact List.cons_ne_nil _ _
  | unreadable => cases h
  | unusable f => cases h

/-- Once all rules are loaded, a check prints a verdict on each path that it can judge. -/
theorem check_eq_verdictLines {options : CheckOptions} {names : List Value} {p : Progress}
    {root : String} (hroot : rootOf settings options = .text root)
    (htruthy : (rootOf settings options).isTruthy = true)
    (hnames : fileNames (settings.get "rules.files" (.list [])) = .ok names)
    (h : (ofCheck options names logger p).findSome? ending? = none) (probe : Probe)
    (paths : List String) :
    let patterns := (ofCheck options names logger p).filterMap pattern?
    let judged := FilterList.isJudged probe root patterns
    ∃ done q, check settings probe options paths logger p = (done, q) ∧
      q.output = p.output ++
        verdictLines judged (FilterList.anyMatches probe root patterns) paths ∧
      exitOf done = verdictsExit root judged paths := by
  intro patterns judged
  obtain ⟨q, hq, hcheck⟩ := check_of_none probe paths htruthy hnames h
  obtain ⟨done, q', hverdicts, houtput, hexit⟩ :=
    verdicts_eq ⟨patterns, logger⟩ probe root paths q
  refine ⟨done, { q' with log := q'.log.closeScope 0 }, ?_, ?_, hexit⟩
  · rw [hcheck, hroot, verdictsBelow, hverdicts]
  · rw [← hq]
    exact houtput

/-- **What a check prints.**  The sources are the lines of the rule files in their order and
the rules of the command line behind them.  The first file that cannot be opened or read, or
line that does not compile, ends the run in its own way and nothing is printed.  If there is
none, and any source at all, each path in its turn has a line that says whether some line,
compiled alone, matches it, until one lies outside the root, or has to be asked of the disk
and cannot be.  A path outside the root makes the exit code 2, and where the disk cannot be
asked the run fails without one.  Without a log file, all rule files are read as they were. -/
theorem check_prints_verdicts (hrequest : Request.ofTexts texts = .run a)
    {options : CheckOptions} {paths : List String} (hcommand : a.command = .check options paths)
    (hready : Ready w a settings logger log) {root : String}
    (hroot : rootOf settings options = .text root) (hne : root ≠ "") {files : List String}
    (hfiles : NamesFiles (settings.get "rules.files" (.list [])) files) :
    let sources := ofCheck options (files.map .text) logger (.start w log)
    let result := run w texts
    (∀ exit, sources.findSome? ending? = some exit →
      result.progress.output = "" ∧ result.exit = exit) ∧
    (sources.findSome? ending? = none → sources ≠ [] →
      ∃ judged excluded : String → Bool,
        (∀ path, judged path = true ↔ isInside root path = true ∧
          ¬ FilterList.CannotTell w.probe root (some path) (sources.filterMap pattern?)) ∧
        (∀ path, excluded path = true ↔ ∃ text p, line text ∈ sources ∧
          Pattern.compile (some text) = .ok p ∧
          p.matches? w.probe root (some path) = .ok true) ∧
        result.progress.output = verdictLines judged excluded paths ∧
        result.exit = verdictsExit root judged paths) ∧
    ((settings.get "logging.file" .null).isTruthy = false →
      sources = (files ++ options.files).flatMap (ofName w.disk) ++
        options.excludes.map ofOption) := by
  intro sources result
  have hnames := fileNames_of_namesFiles hfiles
  have htruthy : (rootOf settings options).isTruthy = true := by
    rw [hroot, Value.isTruthy, bne_iff_ne]
    exact hne
  have hrun : result =
      finish logger (check settings w.probe options paths logger (.start w log)) := by
    show run w texts = _
    rw [run_of_ready hrequest hready, hcommand, carryOut]
  refine ⟨?_, ?_, ?_⟩
  · intro exit h
    obtain ⟨stop, q, hstop, houtput, hexit⟩ := check_of_some w.probe paths htruthy hnames h
    rw [hrun, hstop, output_finish, exit_finish]
    exact ⟨houtput, hexit⟩
  · intro h hsources
    obtain ⟨done, q, hcheck, houtput, hexit⟩ :=
      check_eq_verdictLines hroot htruthy hnames h w.probe paths
    rw [hrun, hcheck, output_finish, exit_finish]
    refine ⟨_, _, fun path => ?_, fun path => ?_, houtput.trans String.empty_append, hexit⟩
    · rw [FilterList.isJudged_iff (patterns_ne_nil h hsources), isInside_iff_resolve]
    · rw [FilterList.anyMatches_iff, exists_mem_pattern_iff]
  · intro hfile
    obtain ⟨hdisk : log.disk = w.disk, hwrites⟩ := writesNoFile_of_openLog hready.log_eq hfile
    show ofFiles _ _ _ ++ _ = _
    rw [← List.map_append, ofFiles_of_writesNoFile hwrites]
    show List.flatMap (ofName log.disk) _ ++ _ = _
    rw [hdisk]

/-- A rule file that the environment names, and a path that lies outside the root. -/
theorem check_prints_verdicts_object :
    let w : World := ⟨Yaml.read, ⟨[(⟨0, ["base".toList]⟩, .file "*.o\r\n".toUTF8.toList)]⟩,
      fun _ => none, [("RSYNCFILTER_RULES_FILES", "base")], .ofTable fun _ => .missing, "", []⟩
    let result := run w ["check", "-r", "/srv", "a.o", "a.c", "../b", "b.o"]
    result.progress.output = "excluded\ta.o\nincluded\ta.c\n" ∧ result.exit = .ok 2 := by
  intro w result
  have hrequest : Request.ofTexts ["check", "-r", "/srv", "a.o", "a.c", "../b", "b.o"] =
      .run ⟨none, false, .check ⟨some "/srv", [], []⟩ ["a.o", "a.c", "../b", "b.o"]⟩ := by
    decide +kernel
  let settings := Settings.initial.loadEnvironment w.environment
  obtain ⟨⟨logger, log⟩, hlog⟩ :
      ∃ ready, openLog settings false (.start w.disk w.stamp) = .ok ready := ⟨_, rfl⟩
  have hfiles : NamesFiles (settings.get "rules.files" (.list [])) ["base"] :=
    .inl ⟨"base", rfl, rfl⟩
  obtain ⟨-, hverdicts, hsources⟩ :=
    check_prints_verdicts hrequest rfl (w := w) ⟨rfl, hlog⟩ rfl (by decide) hfiles
  have hlines : ofCheck ⟨some "/srv", [], []⟩ [.text "base"] logger (.start w log) =
      [line "*.o"] := (hsources rfl).trans (by decide +kernel)
  rw [show List.map Value.text ["base"] = [.text "base"] from rfl, hlines] at hverdicts
  let object : Candidate :=
    ⟨⟨1, ["srv".toList]⟩, ⟨1, ["srv".toList, "a.o".toList]⟩, ["a.o".toList]⟩
  let code : Candidate :=
    ⟨⟨1, ["srv".toList]⟩, ⟨1, ["srv".toList, "a.c".toList]⟩, ["a.c".toList]⟩
  have hobject : Candidate.resolve "/srv" (some "a.o") = .ok object := rfl
  have hcode : Candidate.resolve "/srv" (some "a.c") = .ok code := rfl
  obtain ⟨rule, hrule, hmatches⟩ := Pattern.exists_compiled "*.o"
    (p := fun rule => rule.matchesCandidate w.probe object && !rule.matchesCandidate w.probe code)
    ⟨'*', _, rfl, rfl⟩ (by decide +kernel)
  obtain ⟨hyes, hno⟩ := Bool.and_eq_true_iff.mp hmatches
  rw [Bool.not_eq_true'] at hno
  obtain ⟨judged, excluded, hjudged, hiff, houtput, hexit⟩ := hverdicts
    (findSome?_line_cons_eq_none_iff.mpr ⟨_, hrule, rfl⟩) (List.cons_ne_nil _ _)
  -- a table answers for every path, so only the root decides which are judged
  have hinside : judged = isInside "/srv" := by
    funext path
    rw [Bool.eq_iff_iff, hjudged, and_iff_left_iff_imp]
    exact fun _ =>
      FilterList.not_cannotTell_of_answers (Probe.answers_ofTable _ "/srv" (some path)) _
  have hexcluded : excluded "a.o" = true := by
    refine (hiff "a.o").mpr ⟨_, _, List.mem_singleton_self _, hrule, ?_⟩
    rw [Pattern.matches?_of_resolve hobject]
    exact Pattern.judge?_eq_ok_true_iff.mpr hyes
  have hincluded : excluded "a.c" = false := by
    rw [← Bool.not_eq_true, hiff "a.c"]
    rintro ⟨text, p, hmem, hp, hmatch⟩
    cases List.mem_singleton.mp hmem
    rw [hrule] at hp
    cases hp
    rw [Pattern.matches?_of_resolve hcode, Pattern.judge?_eq_ok_true_iff] at hmatch
    exact Bool.false_ne_true (hno.symm.trans hmatch)
  have htake : ["a.o", "a.c", "../b", "b.o"].takeWhile judged = ["a.o", "a.c"] := by
    rw [hinside]
    decide +kernel
  refine ⟨houtput.trans ?_, hexit.trans ?_⟩
  · rw [verdictLines, htake, List.map_cons, List.map_singleton, hexcluded, hincluded]
    rfl
  · have hfind : ["a.o", "a.c", "../b", "b.o"].find? (fun path => !judged path) =
        some "../b" := by
      rw [hinside]
      decide +kernel
    have houtside : isInside "/srv" "../b" = false := by decide +kernel
    rw [verdictsExit_of_find? hfind, houtside]
    rfl

/-- A rule file whose name is none, because it holds a NUL: it cannot be opened, and the run
ends without an exit code. -/
theorem exit_ne_ok_of_nul_name :
    let w : World := ⟨Yaml.read, ⟨[(⟨0, ["c.yaml".toList]⟩,
      .file "rules:\n  files: [\"a\\0b\"]\n".toUTF8.toList)]⟩, fun _ => none, [],
      .ofTable fun _ => .missing, "", []⟩
    let texts := ["-c", "c.yaml", "check", "-r", "/r", "x"]
    let a : Arguments := ⟨some "c.yaml", false, .check ⟨some "/r", [], []⟩ ["x"]⟩
    Request.ofTexts texts = .run a ∧
    (∃ settings logger log, Ready w a settings logger log ∧
      (settings.get "rules.files" (.list [])).literal = "['a\\x00b']") ∧
    ∀ code, (run w texts).exit ≠ .ok code := by
  intro w texts a
  obtain ⟨settings, hstart, h⟩ := Outcome.exists_of_any
    (x := Settings.start w.reader w.disk w.homes a.config (some w.environment))
    (p := fun settings => (openLog settings a.debug (.start w.disk w.stamp)).toOption.isSome &&
      (settings.get "rules.files" (.list [])).literal == "['a\\x00b']") (by decide +kernel)
  rw [Bool.and_eq_true, beq_iff_eq] at h
  obtain ⟨hlog, hfiles⟩ := h
  obtain ⟨⟨logger, log⟩, hopen, -⟩ := Outcome.exists_of_any (p := fun _ => true) hlog
  have hexit : (run w texts).exit.toOption = none := by decide +kernel
  refine ⟨by decide +kernel, ⟨settings, logger, log, ⟨hstart, hopen⟩, hfiles⟩, fun code hcode => ?_⟩
  rw [hcode] at hexit
  cases hexit

end ExcludeRules.CommandLine
