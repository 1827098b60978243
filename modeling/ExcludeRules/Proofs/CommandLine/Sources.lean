/-
Where the rules of a check come from.

They are the lines of the rule files, in the order in which the files are named, and
behind them the rules of the command line.  A file is read when its turn comes, for the
log may have been written to it by then, and one that was open before is closed.  What
first stands in the way, a file or a line, decides how the run ends.  Main statements:
  * `patternsOf_of_none`, `patternsOf_of_some` : the contents of one file;
  * `loadFiles_of_none`, `loadFiles_of_some` : files, one after the other;
  * `loadRules_of_none`, `loadRules_of_some` : all rules of a check.
-/
import ExcludeRules.CommandLine.Run
import ExcludeRules.Proofs.FilterList.Loading
import ExcludeRules.Proofs.Log.Delivery
import ExcludeRules.Proofs.Outcome

namespace ExcludeRules.CommandLine

/-- How a run ends that is stopped. -/
def Stop.exit (stop : Stop) : Except Failure Nat := Prod.snd <$> stop.report

/-! ### Sources of rules -/

/-- A line that may hold a rule, or what is met in place of the lines of a file. -/
inductive RuleSource
  | line (text : String)
  /-- The file cannot be opened or read. -/
  | unreadable
  /-- Nothing that the program expects in place of a file or of what is left of it. -/
  | unusable (f : Failure)
  deriving DecidableEq, Repr

namespace RuleSource

/-- The pattern of a line that compiles. -/
def pattern? : RuleSource → Option Pattern
  | line text => (Pattern.compile (some text)).toOption
  | _ => none

/-- How a run ends that meets the source; nothing if the run goes on. -/
def ending? : RuleSource → Option (Except Failure Nat)
  | line text =>
    match Pattern.compile (some text) with
    | .ok _ => none
    | .error _ => some (.ok 1)
  | unreadable => some (.ok 2)
  | unusable f => some (.error f)

/-- What is met in the contents of a file: its lines, up to what makes it unreadable. -/
def ofBytes (bytes : List UInt8) : List RuleSource :=
  let (lines, fault?) := FilterList.linesOf bytes
  lines.map (fun text => line (String.ofList text)) ++
    (fault?.map fun e => unusable (.encoding e)).toList

/-- What is met in the file of a name. -/
def ofName (disk : Disk) (name : String) : List RuleSource :=
  match disk.read name with
  | .ok bytes => ofBytes bytes
  | .error .nul => [unusable .nul]
  | .error _ => [unreadable]

/-- What is met behind a number in place of a name. -/
def ofNumber (streams : List (Int × Stream)) (n : Int) : List RuleSource :=
  if n < -maxDescriptor - 1 ∨ maxDescriptor < n then [unusable .kind]
  else if n < 0 then [unusable .negative]
  else
    match streams.find? (·.1 = n) with
    | some (_, .input bytes) => ofBytes bytes
    | some (_, .output) => [unusable .output]
    | _ => [unreadable]

/-- What is met in a rule file. -/
def ofFile (p : Progress) (name : Value) : List RuleSource :=
  match descriptor? name, fileName? name with
  | some n, _ => ofNumber p.streams n
  | none, some file => ofName p.log.disk file
  | none, none => [unusable .kind]

/-- A rule that is given on the command line. -/
def ofOption (text : String) : RuleSource := line (String.ofList (Text.trimLineEnd text.toList))

/-- What has been done once a file was loaded and the log was told of it. -/
def loaded (logger : Log.Logger) (p : Progress) (name : Value) : Progress :=
  let rules := ((ofFile p name).filterMap pattern?).countP (·.isCompiled)
  let values := [("source", .text name.toString), ("rules", .int rules)]
  { closeFile name p with log := logger.log 0 .info "Loaded filter rules" values none p.log }

/-- What is met in files, of which each is read once the log was told of those before. -/
def ofFiles (logger : Log.Logger) : List Value → Progress → List RuleSource
  | [], _ => []
  | name :: names, p => ofFile p name ++ ofFiles logger names (loaded logger p name)

/-- A log without files leaves all files as they are. -/
theorem ofFiles_of_writesNoFile {logger : Log.Logger} {p : Progress}
    (h : p.log.WritesNoFile logger.channelName) (names : List String) :
    ofFiles logger (names.map .text) p = names.flatMap (ofName p.log.disk) := by
  induction names generalizing p with
  | nil => rfl
  | cons name names ih =>
    -- the message about the file reaches no file, so the next one is read from the same disk
    have hdisk : (loaded logger p (.text name)).log.disk = p.log.disk :=
      Log.Logger.disk_log h ..
    have hchannels : (loaded logger p (.text name)).log.channels = p.log.channels :=
      Log.Logger.channels_log ..
    have hnext : (loaded logger p (.text name)).log.WritesNoFile logger.channelName := by
      unfold Log.State.WritesNoFile Log.State.channel
      rw [hchannels]
      exact h
    rw [List.map_cons, ofFiles, ih hnext, hdisk, List.flatMap_cons]
    rfl

theorem findSome?_line_cons (text : String) (rest : List RuleSource) :
    (line text :: rest).findSome? ending? =
      match Pattern.compile (some text) with
      | .ok _ => rest.findSome? ending?
      | .error _ => some (.ok 1) := by
  rw [List.findSome?_cons, ending?]
  cases Pattern.compile (some text) <;> rfl

/-- The run goes on behind a line that compiles. -/
theorem findSome?_line_cons_eq_none_iff {text : String} {rest : List RuleSource} :
    (line text :: rest).findSome? ending? = none ↔
      ∃ p, Pattern.compile (some text) = .ok p ∧ rest.findSome? ending? = none := by
  rw [findSome?_line_cons]
  cases Pattern.compile (some text) with
  | error e => simp
  | ok p => simp

/-- The first line that does not compile decides how the run ends. -/
theorem findSome?_line_cons_eq_some_iff {text : String} {rest : List RuleSource}
    {exit : Except Failure Nat} :
    (line text :: rest).findSome? ending? = some exit ↔
      (∃ e, Pattern.compile (some text) = .error e ∧ exit = .ok 1) ∨
      ∃ p, Pattern.compile (some text) = .ok p ∧ rest.findSome? ending? = some exit := by
  rw [findSome?_line_cons]
  cases Pattern.compile (some text) with
  | error e => simp [eq_comm]
  | ok p => simp

theorem filterMap_line_cons {text : String} {p : Pattern}
    (h : Pattern.compile (some text) = .ok p) (rest : List RuleSource) :
    (line text :: rest).filterMap pattern? = p :: rest.filterMap pattern? := by
  rw [List.filterMap_cons, pattern?, h]
  rfl

end RuleSource

open RuleSource

/-! ### Lines -/

section Lines

variable {name : String} {n : Nat} {texts : List (List Char)}

theorem compileLines_of_none
    (h : (texts.map fun text => line (String.ofList text)).findSome? ending? = none) :
    FilterList.compileLines name n texts =
      .ok ((texts.map fun text => line (String.ofList text)).filterMap pattern?) := by
  induction texts generalizing n with
  | nil => rfl
  | cons text texts ih =>
    obtain ⟨p, hp, hrest⟩ := findSome?_line_cons_eq_none_iff.mp h
    rw [FilterList.compileLines, hp, List.map_cons, filterMap_line_cons hp, ih hrest]
    rfl

/-- Lines can only be refused as rules. -/
theorem compileLines_of_some {exit : Except Failure Nat}
    (h : (texts.map fun text => line (String.ofList text)).findSome? ending? = some exit)
    (name : String) (n : Nat) :
    exit = .ok 1 ∧ ∃ e, FilterList.compileLines name n texts = .error e := by
  induction texts generalizing n with
  | nil => cases h
  | cons text texts ih =>
    rcases findSome?_line_cons_eq_some_iff.mp h with ⟨e, he, hexit⟩ | ⟨p, hp, hrest⟩
    · refine ⟨hexit, e.inFile name n, ?_⟩
      rw [FilterList.compileLines, he]
      rfl
    · obtain ⟨hexit, e, he⟩ := ih hrest (n + 1)
      refine ⟨hexit, e, ?_⟩
      rw [FilterList.compileLines, hp, he]
      rfl

end Lines

/-! ### Files -/

section Files

variable {logger : Log.Logger} {p : Progress} {name : Value} {bytes : List UInt8}
  {exit : Except Failure Nat}

theorem patternsOf_of_none (h : (ofBytes bytes).findSome? ending? = none) (shown : String) :
    FilterList.patternsOf shown bytes = .ok ((ofBytes bytes).filterMap pattern?) := by
  unfold ofBytes at h ⊢
  unfold FilterList.patternsOf
  generalize FilterList.linesOf bytes = read at h ⊢
  obtain ⟨lines, fault?⟩ := read
  rw [List.findSome?_append, Option.or_eq_none_iff] at h
  cases fault? with
  | some e => cases h.2
  | none =>
    dsimp only
    rw [compileLines_of_none h.1, Option.map_none, Option.toList_none, List.append_nil]
    rfl

/-- What stops the program in the contents of a file: a line, or what is no text behind the
lines that have ended. -/
theorem patternsOf_of_some (h : (ofBytes bytes).findSome? ending? = some exit) (shown : String) :
    ∃ e, FilterList.patternsOf shown bytes = .error e ∧ (Stop.ofRuleFile shown e).exit = exit := by
  unfold ofBytes at h
  unfold FilterList.patternsOf
  generalize FilterList.linesOf bytes = read at h ⊢
  obtain ⟨lines, fault?⟩ := read
  rw [List.findSome?_append] at h
  cases hlines : (lines.map fun text => line (String.ofList text)).findSome? ending? with
  | some exit' =>
    rw [hlines, Option.some_or, Option.some.injEq] at h
    obtain ⟨rfl, e, he⟩ := compileLines_of_some hlines shown 1
    refine ⟨.rule e, ?_, h⟩
    dsimp only
    rw [he]
    rfl
  | none =>
    rw [hlines, Option.none_or] at h
    cases fault? with
    | none => cases h
    | some e =>
      refine ⟨.encoding e, ?_, Option.some.inj h⟩
      dsimp only
      rw [compileLines_of_none hlines]
      rfl

/-- A file is read, or something stands in its place that stops the program. -/
theorem openFile_cases (name : Value) (p : Progress) :
    (∃ bytes, openFile name p = .ok bytes ∧ ofFile p name = ofBytes bytes) ∨
      ∃ stop source, openFile name p = .error stop ∧ ofFile p name = [source] ∧
        source.ending? = some stop.exit := by
  unfold openFile ofFile
  cases descriptor? name with
  | some n =>
    dsimp only
    unfold readOpen ofNumber
    split
    · exact .inr ⟨_, _, rfl, rfl, rfl⟩
    · split
      · exact .inr ⟨_, _, rfl, rfl, rfl⟩
      · cases p.streams.find? (·.1 = n) with
        | none => exact .inr ⟨_, _, rfl, rfl, rfl⟩
        | some stream =>
          obtain ⟨m, stream⟩ := stream
          cases stream with
          | input bytes => exact .inl ⟨bytes, rfl, rfl⟩
          | directory => exact .inr ⟨_, _, rfl, rfl, rfl⟩
          | output => exact .inr ⟨_, _, rfl, rfl, rfl⟩
  | none =>
    cases fileName? name with
    | none => exact .inr ⟨_, _, rfl, rfl, rfl⟩
    | some file =>
      dsimp only
      unfold ofName
      cases p.log.disk.read file with
      | ok bytes => exact .inl ⟨bytes, rfl, rfl⟩
      | error e => cases e <;> exact .inr ⟨_, _, rfl, rfl, rfl⟩

theorem loadFile_of_none (h : (ofFile p name).findSome? ending? = none) (logger : Log.Logger) :
    loadFile logger name p = (.ok ((ofFile p name).filterMap pattern?), loaded logger p name) := by
  rcases openFile_cases name p with ⟨bytes, hopen, hfile⟩ | ⟨stop, source, -, hfile, hends⟩
  · rw [hfile] at h
    rw [loadFile, hopen, loaded, hfile]
    dsimp only
    rw [patternsOf_of_none h]
    rfl
  · rw [hfile, List.findSome?_singleton, hends] at h
    cases h

theorem loadFile_of_some (h : (ofFile p name).findSome? ending? = some exit)
    (logger : Log.Logger) :
    ∃ stop, loadFile logger name p = (.error stop, p) ∧ stop.exit = exit := by
  rcases openFile_cases name p with ⟨bytes, hopen, hfile⟩ | ⟨stop, source, hopen, hfile, hends⟩
  · rw [hfile] at h
    obtain ⟨e, he, hexit⟩ := patternsOf_of_some h name.toString
    refine ⟨.ofRuleFile name.toString e, ?_, hexit⟩
    rw [loadFile, hopen]
    dsimp only
    rw [he]
  · rw [hfile, List.findSome?_singleton, hends] at h
    refine ⟨stop, ?_, Option.some.inj h⟩
    rw [loadFile, hopen]

/-- Nothing is printed while a file is loaded. -/
theorem output_loaded (logger : Log.Logger) (p : Progress) (name : Value) :
    (loaded logger p name).output = p.output := by
  unfold loaded closeFile
  dsimp only
  cases descriptor? name <;> rfl

theorem loadFiles_of_none {names : List Value}
    (h : (ofFiles logger names p).findSome? ending? = none) :
    ∃ q, loadFiles logger names p = (.ok ((ofFiles logger names p).filterMap pattern?), q) ∧
      q.output = p.output := by
  induction names generalizing p with
  | nil => exact ⟨p, rfl, rfl⟩
  | cons name names ih =>
    rw [ofFiles, List.findSome?_append, Option.or_eq_none_iff] at h
    obtain ⟨hhere, hrest⟩ := h
    have hfile := loadFile_of_none hhere logger
    obtain ⟨q, hq, houtput⟩ := ih hrest
    refine ⟨q, ?_, houtput.trans (output_loaded logger p name)⟩
    rw [loadFiles, hfile]
    dsimp only
    rw [hq, ofFiles, List.filterMap_append]

theorem loadFiles_of_some {names : List Value}
    (h : (ofFiles logger names p).findSome? ending? = some exit) :
    ∃ stop q, loadFiles logger names p = (.error stop, q) ∧ q.output = p.output ∧
      stop.exit = exit := by
  induction names generalizing p with
  | nil => cases h
  | cons name names ih =>
    rw [ofFiles, List.findSome?_append] at h
    cases hhere : (ofFile p name).findSome? ending? with
    | some exit' =>
      -- the file itself stops the program, and the others are not looked at
      rw [hhere, Option.some_or, Option.some.injEq] at h
      obtain ⟨stop, hstop, hexit⟩ := loadFile_of_some hhere logger
      refine ⟨stop, p, ?_, rfl, hexit.trans h⟩
      rw [loadFiles, hstop]
    | none =>
      rw [hhere, Option.none_or] at h
      have hfile := loadFile_of_none hhere logger
      obtain ⟨stop, q, hstop, houtput, hexit⟩ := ih h
      refine ⟨stop, q, ?_, houtput.trans (output_loaded logger p name), hexit⟩
      rw [loadFiles, hfile]
      dsimp only
      rw [hstop]

end Files

/-! ### All rules of a check -/

section Rules

variable {exit : Except Failure Nat}

theorem extend_of_none {l : FilterList} {texts : List String}
    (h : (texts.map ofOption).findSome? ending? = none) :
    l.extend texts =
      (none, { l with patterns := l.patterns ++ (texts.map ofOption).filterMap pattern? }) := by
  induction texts generalizing l with
  | nil =>
    rw [FilterList.extend, List.map_nil, List.filterMap_nil, List.append_nil]
  | cons text texts ih =>
    obtain ⟨p, hp, hrest⟩ := findSome?_line_cons_eq_none_iff.mp h
    rw [FilterList.extend, FilterList.add, hp, List.map_cons, ofOption, filterMap_line_cons hp]
    show FilterList.extend { l with patterns := l.patterns ++ [p] } texts = _
    rw [ih hrest, List.append_assoc, List.singleton_append]

theorem extend_of_some {l : FilterList} {texts : List String}
    (h : (texts.map ofOption).findSome? ending? = some exit) :
    exit = .ok 1 ∧ ∃ e l', l.extend texts = (some e, l') := by
  induction texts generalizing l with
  | nil => cases h
  | cons text texts ih =>
    rcases findSome?_line_cons_eq_some_iff.mp h with ⟨e, he, hexit⟩ | ⟨p, hp, hrest⟩
    · refine ⟨hexit, e, l, ?_⟩
      rw [FilterList.extend, FilterList.add, he]
      rfl
    · obtain ⟨hexit, e, l', hl'⟩ := ih (l := { l with patterns := l.patterns ++ [p] }) hrest
      refine ⟨hexit, e, l', ?_⟩
      rw [FilterList.extend, FilterList.add, hp]
      exact hl'

/-- All that a check meets on its way to its rules. -/
def RuleSource.ofCheck (options : CheckOptions) (names : List Value) (logger : Log.Logger)
    (p : Progress) : List RuleSource :=
  ofFiles logger (names ++ options.files.map .text) p ++ options.excludes.map ofOption

variable {settings : Settings} {options : CheckOptions} {names : List Value}
  {logger : Log.Logger} {p : Progress}

theorem loadRules_of_none
    (hnames : fileNames (settings.get "rules.files" (.list [])) = .ok names)
    (h : (ofCheck options names logger p).findSome? ending? = none) :
    ∃ q, loadRules settings options logger p =
      (.ok ⟨(ofCheck options names logger p).filterMap pattern?, logger⟩, q) ∧
        q.output = p.output := by
  rw [ofCheck, List.findSome?_append, Option.or_eq_none_iff] at h
  obtain ⟨hfiles, hgiven⟩ := h
  obtain ⟨q, hq, houtput⟩ := loadFiles_of_none hfiles
  refine ⟨q, ?_, houtput⟩
  rw [loadRules, hnames]
  dsimp only
  rw [hq]
  dsimp only
  rw [extend_of_none hgiven, ofCheck, List.filterMap_append]

theorem loadRules_of_some
    (hnames : fileNames (settings.get "rules.files" (.list [])) = .ok names)
    (h : (ofCheck options names logger p).findSome? ending? = some exit) :
    ∃ stop q, loadRules settings options logger p = (.error stop, q) ∧ q.output = p.output ∧
      stop.exit = exit := by
  rw [ofCheck, List.findSome?_append] at h
  rw [loadRules, hnames]
  dsimp only
  cases hfiles : (ofFiles logger (names ++ options.files.map .text) p).findSome? ending? with
  | some exit' =>
    rw [hfiles, Option.some_or, Option.some.injEq] at h
    obtain ⟨stop, q, hstop, houtput, hexit⟩ := loadFiles_of_some hfiles
    refine ⟨stop, q, ?_, houtput, hexit.trans h⟩
    rw [hstop]
  | none =>
    rw [hfiles, Option.none_or] at h
    obtain ⟨q, hq, houtput⟩ := loadFiles_of_none hfiles
    obtain ⟨hexit, e, l', hl'⟩ := extend_of_some (l :=
      ⟨(ofFiles logger (names ++ options.files.map .text) p).filterMap pattern?, logger⟩) h
    refine ⟨.rule e, q, ?_, houtput, hexit.symm⟩
    rw [hq]
    dsimp only
    rw [hl']

end Rules

end ExcludeRules.CommandLine
