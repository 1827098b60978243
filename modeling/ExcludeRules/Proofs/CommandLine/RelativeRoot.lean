/-
Checks below a root that is not absolute.

Only a pattern looks at the root, so a list refuses one that is not absolute exactly if it
has a pattern, and so does a check exactly if it has a source of rules: without any, each
path is printed as included and the run succeeds.  Main statements:
  * `verdicts_of_rootNotAbsolute`, `verdicts_of_nil` : the two ways in which verdicts end;
  * `refusal_needs_patterns` : what lists refuse, and how checks end;
  * `exists_relative_root_accepted` : a check that succeeds below such a root.
-/
import ExcludeRules.Proofs.CommandLine.Checking
import ExcludeRules.Proofs.CommandLine.Operands
import ExcludeRules.Proofs.FilterList.Refusal

namespace ExcludeRules.CommandLine

open RuleSource

/-! ### Verdicts -/

section

variable {l : FilterList} {root : String}

/-- The first path is refused by the first pattern. -/
theorem verdicts_of_rootNotAbsolute (hne : l.patterns ≠ [])
    (habs : ¬ (Path.ofText root.toList).isAbsolute = true) (probe : Probe) {paths : List String}
    (hpaths : paths ≠ []) (p : Progress) :
    verdicts l probe root paths p = (.error (.path (.rootNotAbsolute root)), p) := by
  obtain ⟨path, rest, rfl⟩ := List.exists_cons_of_ne_nil hpaths
  rw [verdicts, FilterList.isExcluded_eq_path_error_iff.mpr ⟨hne, .rootNotAbsolute habs⟩]
  rfl

/-- Without patterns every path is included, whatever the root. -/
theorem verdicts_of_nil (hnil : l.patterns = []) (probe : Probe) (root : String)
    (paths : List String) (p : Progress) :
    ∃ q, verdicts l probe root paths p = (.ok (), q) ∧
      q.output = p.output ++ String.join (paths.map (verdictLine false)) := by
  induction paths generalizing p with
  | nil =>
    refine ⟨p, verdicts_nil l probe root p, ?_⟩
    rw [List.map_nil, String.join_nil, String.append_empty]
  | cons path rest ih =>
    obtain ⟨q, hq, houtput⟩ := ih (p.print (verdictWord false ++ "\t" ++ path))
    refine ⟨q, ?_, ?_⟩
    · rw [verdicts, FilterList.isExcluded_of_nil hnil]
      exact hq
    · rw [houtput, output_print, List.map_cons, String.join_cons, String.append_assoc]

end

/-! ### Runs -/

/-- A run of a check below a root that is a text, with the sources of its rules, each of
which can be read and compiled. -/
inductive ChecksBelow (w : World) (texts : List String) (root : String) (paths : List String)
    (sources : List RuleSource) : Prop
  | intro {a : Arguments} {options : CheckOptions} {settings : Settings} {logger : Log.Logger}
      {log : Log.State} {names : List Value} (request : Request.ofTexts texts = .run a)
      (command : a.command = .check options paths) (ready : Ready w a settings logger log)
      (root_eq : rootOf settings options = .text root)
      (names_eq : fileNames (settings.get "rules.files" (.list [])) = .ok names)
      (sources_eq : ofCheck options names logger (.start w log) = sources)
      (loaded : sources.findSome? ending? = none)

namespace ChecksBelow

variable {w : World} {texts : List String} {root : String} {paths : List String}
  {sources : List RuleSource}

theorem paths_ne_nil (h : ChecksBelow w texts root paths sources) : paths ≠ [] := by
  obtain ⟨request, command, -, -, -, -, -⟩ := h
  exact CommandLine.paths_ne_nil request command

theorem patterns_ne_nil (h : ChecksBelow w texts root paths sources) (hsources : sources ≠ []) :
    sources.filterMap pattern? ≠ [] := by
  obtain ⟨-, -, -, -, -, -, loaded⟩ := h
  exact CommandLine.patterns_ne_nil loaded hsources

/-- The run ends as the verdicts on the patterns of its sources do. -/
theorem run_eq (h : ChecksBelow w texts root paths sources) (hne : root ≠ "") :
    ∃ logger p, p.output = "" ∧ ∀ done q,
      verdicts ⟨sources.filterMap pattern?, logger⟩ w.probe root paths p = (done, q) →
        run w texts = finish logger (done, { q with log := q.log.closeScope 0 }) := by
  obtain ⟨request, command, ready, root_eq, names_eq, rfl, loaded⟩ := h
  rename_i a options settings logger log names
  have htruthy : (rootOf settings options).isTruthy = true := by
    rw [root_eq, Value.isTruthy, bne_iff_ne]
    exact hne
  obtain ⟨p, houtput, hcheck⟩ :=
    check_of_none (p := .start w log) w.probe paths htruthy names_eq loaded
  refine ⟨logger, p, houtput, fun done q hverdicts => ?_⟩
  rw [root_eq, verdictsBelow, hverdicts] at hcheck
  rw [run_of_ready request ready, command, carryOut, hcheck]

/-- An empty root is none. -/
theorem run_of_empty (h : ChecksBelow w texts "" paths sources) :
    (run w texts).exit = .ok 2 ∧ (run w texts).progress.output = "" := by
  obtain ⟨request, command, ready, root_eq, -, -, -⟩ := h
  rw [run_of_ready request ready, command, carryOut, check, root_eq]
  exact ⟨rfl, rfl⟩

/-- A source has a pattern, which refuses a root that is not absolute. -/
theorem run_of_sources (h : ChecksBelow w texts root paths sources) (hne : root ≠ "")
    (habs : ¬ (Path.ofText root.toList).isAbsolute = true) (hsources : sources ≠ []) :
    (run w texts).exit = .ok 2 ∧ (run w texts).progress.output = "" ∧
      ∃ shown, (run w texts).progress.log.console =
        shown ++ errorLine ("Root path must be absolute: " ++ root) ++ "\n" := by
  obtain ⟨logger, p, houtput, hrun⟩ := h.run_eq hne
  have hpatterns : sources.filterMap pattern? ≠ [] := h.patterns_ne_nil hsources
  have hverdicts := verdicts_of_rootNotAbsolute (l := ⟨sources.filterMap pattern?, logger⟩)
    hpatterns habs w.probe h.paths_ne_nil p
  rw [hrun _ _ hverdicts]
  exact ⟨rfl, houtput, _, rfl⟩

/-- Without sources there is no pattern to refuse a root. -/
theorem run_of_nil (h : ChecksBelow w texts root paths []) (hne : root ≠ "") :
    (run w texts).exit = .ok 0 ∧
      (run w texts).progress.output = String.join (paths.map (verdictLine false)) := by
  obtain ⟨logger, p, houtput, hrun⟩ := h.run_eq hne
  obtain ⟨q, hverdicts, hprinted⟩ :=
    verdicts_of_nil (l := ⟨[], logger⟩) rfl w.probe root paths p
  rw [hrun _ _ hverdicts]
  refine ⟨rfl, hprinted.trans ?_⟩
  rw [houtput, String.empty_append]

end ChecksBelow

/-- **What refuses a root or a path.**  Both questions to a list refuse what lies outside the
root, and a root that is not absolute, exactly if the list has a pattern of any kind; without
one nothing is excluded and no rule named, whatever the root.  So below a root that is not
absolute a check whose rules can all be loaded prints no verdict, says what is wrong and ends
with the exit code of an error of use, if it has any source of rules; if it has none, it prints
each path as included and succeeds. -/
theorem refusal_needs_patterns (l : FilterList) (probe : Probe) (root : String)
    (path : Option String) (thread : Nat) (s : Log.State) :
    (∀ e, l.isExcluded probe root path thread s = .error (.path e) ↔
      l.patterns ≠ [] ∧ Candidate.Refused root path e) ∧
    (∀ e, l.matchingRules probe root path = .error (.path e) ↔
      l.patterns ≠ [] ∧ Candidate.Refused root path e) ∧
    (l.patterns = [] → l.isExcluded probe root path thread s = .ok (false, s) ∧
      l.matchingRules probe root path = .ok []) ∧
    ∀ w texts paths sources, ChecksBelow w texts root paths sources →
      ¬ (Path.ofText root.toList).isAbsolute = true →
      let result := run w texts
      (sources ≠ [] ∨ root = "" → result.exit = .ok 2 ∧ result.progress.output = "") ∧
      (sources ≠ [] → root ≠ "" → ∃ shown, result.progress.log.console =
        shown ++ errorLine ("Root path must be absolute: " ++ root) ++ "\n") ∧
      (sources = [] → root ≠ "" → result.exit = .ok 0 ∧
        result.progress.output = String.join (paths.map (verdictLine false))) := by
  refine ⟨fun e => FilterList.isExcluded_eq_path_error_iff,
    fun e => FilterList.matchingRules_eq_path_error_iff, fun hnil => ⟨?_, ?_⟩,
    fun w texts paths sources h habs => ⟨?_, ?_, ?_⟩⟩
  · exact FilterList.isExcluded_of_nil hnil probe root path thread s
  · exact FilterList.matchingRules_of_nil hnil probe root path
  · intro hsome
    -- an empty root is refused as missing, before any source is read
    by_cases hempty : root = ""
    · subst hempty
      exact h.run_of_empty
    · obtain ⟨hexit, houtput, -⟩ :=
        h.run_of_sources hempty habs (hsome.resolve_right hempty)
      exact ⟨hexit, houtput⟩
  · intro hsources hne
    obtain ⟨-, -, hconsole⟩ := h.run_of_sources hne habs hsources
    exact hconsole
  · rintro rfl hne
    exact h.run_of_nil hne

/-- A rule file that holds only a comment, and a command line without rules. -/
theorem refusal_needs_patterns_comment :
    let l : FilterList := ⟨[.comment "# generated"], ⟨0, "main"⟩⟩
    let w : World := ⟨Yaml.read, ⟨[(⟨0, ["base".toList]⟩, .file "# generated\n".toUTF8.toList)]⟩,
      fun _ => none, [], .ofTable fun _ => .missing, "", []⟩
    l.matchingRules w.probe "srv" (some "a.o") = .error (.path (.rootNotAbsolute "srv")) ∧
    ((run w ["check", "-r", "srv", "-f", "base", "a.o"]).exit = .ok 2 ∧
      (run w ["check", "-r", "srv", "-f", "base", "a.o"]).progress.output = "") ∧
    (run w ["check", "-r", "srv", "a.o", "b"]).exit = .ok 0 ∧
      (run w ["check", "-r", "srv", "a.o", "b"]).progress.output =
        "included\ta.o\nincluded\tb\n" := by
  intro l w
  have hfile : ChecksBelow w ["check", "-r", "srv", "-f", "base", "a.o"] "srv" ["a.o"]
      [line "# generated"] := by
    refine .intro (a := ⟨none, false, .check ⟨some "srv", [], ["base"]⟩ ["a.o"]⟩) ?_ rfl
      ⟨rfl, rfl⟩ rfl rfl ?_ rfl
    · decide +kernel
    · decide +kernel
  have hnone : ChecksBelow w ["check", "-r", "srv", "a.o", "b"] "srv" ["a.o", "b"] [] := by
    refine .intro (a := ⟨none, false, .check ⟨some "srv", [], []⟩ ["a.o", "b"]⟩) ?_ rfl
      ⟨rfl, rfl⟩ rfl rfl rfl rfl
    decide +kernel
  have habs : ¬ (Path.ofText "srv".toList).isAbsolute = true := by decide
  obtain ⟨-, hlist, -, hchecks⟩ :=
    refusal_needs_patterns l w.probe "srv" (some "a.o") 0 (.start w.disk w.stamp)
  obtain ⟨hrefused, -, -⟩ := hchecks _ _ _ _ hfile habs
  obtain ⟨-, -, haccepted⟩ := hchecks _ _ _ _ hnone habs
  exact ⟨(hlist _).mpr ⟨List.cons_ne_nil _ _, .rootNotAbsolute habs⟩,
    hrefused (.inl (List.cons_ne_nil _ _)), haccepted rfl (by decide)⟩

/-- Below a root that is not absolute, an empty list excludes nothing and a check succeeds. -/
theorem exists_relative_root_accepted :
    ∃ w, ChecksBelow w ["check", "-r", "srv", "a.o"] "srv" ["a.o"] [] ∧
      ¬ (Path.ofText "srv".toList).isAbsolute = true ∧
      (∀ probe s, FilterList.isExcluded ⟨[], ⟨0, "main"⟩⟩ probe "srv" (some "a.o") 0 s =
        .ok (false, s)) ∧
      (run w ["check", "-r", "srv", "a.o"]).exit = .ok 0 ∧
      (run w ["check", "-r", "srv", "a.o"]).progress.output = "included\ta.o\n" := by
  let w : World := ⟨Yaml.read, ⟨[]⟩, fun _ => none, [], .ofTable fun _ => .missing, "", []⟩
  have hnone : ChecksBelow w ["check", "-r", "srv", "a.o"] "srv" ["a.o"] [] := by
    refine .intro (a := ⟨none, false, .check ⟨some "srv", [], []⟩ ["a.o"]⟩) ?_ rfl
      ⟨rfl, rfl⟩ rfl rfl rfl rfl
    decide +kernel
  exact ⟨w, hnone, by decide, fun _ _ => rfl, hnone.run_of_nil (by decide)⟩

end ExcludeRules.CommandLine
