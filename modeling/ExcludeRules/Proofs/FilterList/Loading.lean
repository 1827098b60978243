/-
Loading rules from files and from lists of lines.

However its lines end and however long it is, a rule file gives the patterns that its
lines compile to, one for each; the first line that does not compile stops it, and the
error names the file and the line.  Main statements:
  * `extend_append_of_compiles`, `extend_cons_of_compile_error` : what is added to a list;
  * `compileLines_append_of_compiles` : the lines of a file;
  * `readPatterns_of_writes` : a file that is written line by line;
  * `lines_loaded_alike` : a file, a list of lines, and lines added one by one.
-/
import ExcludeRules.FilterList.RuleFile
import ExcludeRules.Proofs.Outcome
import ExcludeRules.Proofs.Text.Lines
import ExcludeRules.Proofs.Text.Utf8

namespace ExcludeRules

/-- An error of a file stands for the error `e` of one of its lines. -/
structure Rule.Error.Reports (reported e : Rule.Error) (path : String) (line : Nat) : Prop where
  description : reported.cause.description =
    path ++ ":" ++ toString line ++ ": " ++ e.cause.description
  cause : reported.cause = .inFile path line e.cause
  pattern : reported.pattern = e.pattern
  index : reported.index = e.index

theorem Rule.Error.reports_inFile (e : Rule.Error) (path : String) (line : Nat) :
    (e.inFile path line).Reports e path line := ⟨rfl, rfl, rfl, rfl⟩

namespace FilterList

/-! ### Lines that compile -/

/-- Each line alone compiles to the pattern in its place. -/
inductive Compiles : List String → List Pattern → Prop
  | nil : Compiles [] []
  | cons {line : String} {p : Pattern} {lines : List String} {patterns : List Pattern}
      (h : Pattern.compile (some line) = .ok p) (hs : Compiles lines patterns) :
      Compiles (line :: lines) (p :: patterns)

section Lines

variable {line name : String} {lines : List String} {p : Pattern} {patterns : List Pattern}
  {e : Rule.Error}

theorem exists_compiles (h : ∀ line ∈ lines, ∃ p, Pattern.compile (some line) = .ok p) :
    ∃ patterns, Compiles lines patterns := by
  induction lines with
  | nil => exact ⟨[], .nil⟩
  | cons line lines ih =>
    obtain ⟨⟨p, hp⟩, hlines⟩ := List.forall_mem_cons.1 h
    obtain ⟨patterns, hs⟩ := ih hlines
    exact ⟨p :: patterns, .cons hp hs⟩

/-- The first line that does not compile, and the lines in front of it. -/
theorem exists_first_refused (h : ¬ ∀ line ∈ lines, ∃ p, Pattern.compile (some line) = .ok p) :
    ∃ front line back patterns e, lines = front ++ line :: back ∧ Compiles front patterns ∧
      Pattern.compile (some line) = .error e := by
  induction lines with
  | nil => exact absurd nofun h
  | cons line lines ih =>
    cases hline : Pattern.compile (some line) with
    | error e => exact ⟨[], line, lines, [], e, rfl, .nil, hline⟩
    | ok p =>
      have hlines : ¬ ∀ line ∈ lines, ∃ p, Pattern.compile (some line) = .ok p :=
        fun hlines => h (List.forall_mem_cons.2 ⟨⟨p, hline⟩, hlines⟩)
      obtain ⟨front, line', back, patterns, e, rfl, hfront, he⟩ := ih hlines
      exact ⟨line :: front, line', back, p :: patterns, e, rfl, .cons hline hfront, he⟩

/-! ### Adding lines to a list -/

/-- Adds lines one by one. -/
def addEach (l : FilterList) : List String → Except Rule.Error FilterList
  | [] => .ok l
  | line :: lines => do
    let (_, l) ← l.add (some line)
    l.addEach lines

theorem add_of_compile (h : Pattern.compile (some line) = .ok p) (l : FilterList) :
    l.add (some line) = .ok (p, { l with patterns := l.patterns ++ [p] }) := by
  rw [add, h]
  rfl

theorem add_of_compile_error (h : Pattern.compile (some line) = .error e) (l : FilterList) :
    l.add (some line) = .error e := by
  rw [add, h]
  rfl

/-- Lines that compile are added in front of what is done with the lines behind them. -/
theorem extend_append_of_compiles (h : Compiles lines patterns)
    (hlines : ∀ line ∈ lines, Text.NoLineEnd line) (l : FilterList) (back : List String) :
    l.extend (lines ++ back) = extend { l with patterns := l.patterns ++ patterns } back := by
  induction h generalizing l with
  | nil => rw [List.nil_append, List.append_nil]
  | cons hp hs ih =>
    obtain ⟨hline, hlines⟩ := List.forall_mem_cons.1 hlines
    rw [List.cons_append, extend, Text.trimLineEnd_of_noLineEnd hline, String.ofList_toList,
      add_of_compile hp]
    show extend _ _ = _
    rw [ih hlines, List.append_assoc]
    rfl

theorem extend_cons_of_compile_error (h : Pattern.compile (some line) = .error e)
    (hline : Text.NoLineEnd line) (l : FilterList) (back : List String) :
    l.extend (line :: back) = (some e, l) := by
  rw [extend, Text.trimLineEnd_of_noLineEnd hline, String.ofList_toList, add_of_compile_error h]

theorem addEach_of_compiles (h : Compiles lines patterns) (l : FilterList) :
    l.addEach lines = .ok { l with patterns := l.patterns ++ patterns } := by
  induction h generalizing l with
  | nil =>
    rw [List.append_nil]
    rfl
  | cons hp hs ih =>
    rw [addEach, add_of_compile hp]
    show addEach _ _ = _
    rw [ih, List.append_assoc]
    rfl

/-! ### The lines of a file -/

theorem compileLines_append_of_compiles (h : Compiles lines patterns) (name : String) (n : Nat)
    (back : List (List Char)) :
    compileLines name n (lines.map String.toList ++ back) =
      (patterns ++ ·) <$> compileLines name (n + lines.length) back := by
  induction h generalizing n with
  | nil =>
    show compileLines name n back = _
    rw [List.length_nil, Nat.add_zero]
    cases compileLines name n back <;> rfl
  | @cons line p lines patterns hp hs ih =>
    rw [List.map_cons, List.cons_append, compileLines, String.ofList_toList, hp, ih,
      List.length_cons, Nat.add_comm lines.length, ← Nat.add_assoc]
    cases compileLines name (n + 1 + lines.length) back <;> rfl

theorem compileLines_cons_of_compile_error (h : Pattern.compile (some line) = .error e)
    (name : String) (n : Nat) (back : List (List Char)) :
    compileLines name n (line.toList :: back) = .error (e.inFile name n) := by
  rw [compileLines, String.ofList_toList, h]
  rfl

end Lines

/-! ### Files -/

section Files

variable {disk : Disk} {name text : String} {bytes : List UInt8} {lines : List String}
  {e : Text.LineEnd}

theorem patternsOf_of_decode {text : List Char} (hdecode : Text.Utf8.decode bytes = .ok text)
    (name : String) :
    patternsOf name bytes = (compileLines name 1 (Text.lines text)).mapError .rule := by
  rw [patternsOf, linesOf_of_decode hdecode]
  dsimp only
  cases compileLines name 1 (Text.lines text) <;> rfl

theorem readPatterns_of_read (hread : disk.read name = .ok bytes) :
    readPatterns disk name = patternsOf name bytes := by
  rw [readPatterns, hread]
  rfl

/-- A file that is written line by line is read line by line. -/
theorem readPatterns_of_writes (hread : disk.read name = .ok text.toUTF8.toList)
    (htext : e.Writes lines text) (hlines : ∀ line ∈ lines, Text.NoLineEnd line) :
    readPatterns disk name = (compileLines name 1 (lines.map String.toList)).mapError .rule := by
  rw [readPatterns_of_read hread, patternsOf_of_decode (Text.Utf8.decode_toUTF8 text),
    Text.lines_of_writes htext hlines]

/-- **Lines are loaded as they compile alone.** A file whose lines all compile, its lines as a
list and its lines added one by one give the patterns that each line compiles to; otherwise the
first line that does not compile decides, and the lines in front of it are kept where a list was
there before. -/
theorem lines_loaded_alike {s : Log.State} (hlines : ∀ line ∈ lines, Text.NoLineEnd line)
    (htext : e.Writes lines text) (hread : s.disk.read name = .ok text.toUTF8.toList)
    (logger : Log.Logger) (thread : Nat) :
    ((∀ line ∈ lines, ∃ p, Pattern.compile (some line) = .ok p) →
      ∃ patterns, Compiles lines patterns ∧
        (∃ s', ofFile name logger thread s = .ok (⟨patterns, logger⟩, s')) ∧
        ofLines lines logger = .ok ⟨patterns, logger⟩ ∧
        addEach ⟨[], logger⟩ lines = .ok ⟨patterns, logger⟩) ∧
    ((¬ ∀ line ∈ lines, ∃ p, Pattern.compile (some line) = .ok p) →
      ∃ front line back patterns error, lines = front ++ line :: back ∧
        Compiles front patterns ∧ Pattern.compile (some line) = .error error ∧
        ofLines lines logger = .error error ∧
        (∃ reported, ofFile name logger thread s = .error (.rule reported) ∧
          reported.Reports error name (front.length + 1)) ∧
        ∀ l : FilterList,
          l.extend lines = (some error, { l with patterns := l.patterns ++ patterns })) := by
  have hfile := readPatterns_of_writes hread htext hlines
  constructor
  · intro hall
    obtain ⟨patterns, hcompiles⟩ := exists_compiles hall
    have hadd := extend_append_of_compiles hcompiles hlines ⟨[], logger⟩ []
    have hcompile := compileLines_append_of_compiles hcompiles name 1 []
    rw [List.append_nil] at hadd hcompile
    rw [hcompile, compileLines_nil, Outcome.map_ok, List.append_nil] at hfile
    refine ⟨patterns, hcompiles, ?_, ?_, addEach_of_compiles hcompiles _⟩
    · rw [ofFile, hfile]
      exact ⟨_, rfl⟩
    · rw [ofLines, hadd]
      rfl
  · intro hnot
    obtain ⟨front, line, back, patterns, error, rfl, hcompiles, herror⟩ := exists_first_refused hnot
    obtain ⟨hfront, hback⟩ := List.forall_mem_append.1 hlines
    have hextend : ∀ l : FilterList, l.extend (front ++ line :: back) =
        (some error, { l with patterns := l.patterns ++ patterns }) := by
      intro l
      rw [extend_append_of_compiles hcompiles hfront,
        extend_cons_of_compile_error herror (hback line List.mem_cons_self)]
    rw [List.map_append, List.map_cons, compileLines_append_of_compiles hcompiles,
      compileLines_cons_of_compile_error herror, Nat.add_comm, Outcome.map_error] at hfile
    refine ⟨front, line, back, patterns, error, rfl, hcompiles, herror, ?_, ?_, hextend⟩
    · rw [ofLines, hextend]
    · rw [ofFile, hfile]
      exact ⟨_, rfl, error.reports_inFile ..⟩

/-- An empty line counts as a line, so the class that is not known stands in the third. -/
theorem lines_loaded_alike_third_refused :
    let text := "*.o\r\n\r\n[[:nope:]]\r\n#"
    let s := Log.State.start ⟨[(⟨0, ["rules".toList]⟩, .file text.toUTF8.toList)]⟩ ""
    Text.LineEnd.both.Writes ["*.o", "", "[[:nope:]]", "#"] text ∧
      s.disk.read "rules" = .ok text.toUTF8.toList ∧
      ∃ reported, ofFile "rules" ⟨0, "log"⟩ 0 s = .error (.rule reported) ∧
        reported.cause.description = "rules:3: Unknown POSIX class 'nope'" := by
  intro text s
  have htext : Text.LineEnd.both.Writes ["*.o", "", "[[:nope:]]", "#"] text :=
    .cons "*.o" (.cons "" (.cons "[[:nope:]]" (.unended (by decide))))
  have hlines : ∀ line ∈ ["*.o", "", "[[:nope:]]", "#"], Text.NoLineEnd line := by
    simp [Text.NoLineEnd]
  have hread : s.disk.read "rules" = .ok text.toUTF8.toList := rfl
  have hclass : Pattern.compile (some "[[:nope:]]") =
      .error ⟨.unknownClass "nope".toList, "[[:nope:]]", some 0⟩ := rfl
  have hstar : (Pattern.compile (some "*.o")).isOk = true := by decide +kernel
  refine ⟨htext, hread, ?_⟩
  obtain ⟨front, line, back, patterns, e, hsplit, hfront, he, -, ⟨reported, hfile, hreported⟩, -⟩ :=
    (lines_loaded_alike hlines htext hread ⟨0, "log"⟩ 0).2 fun hall => by
      obtain ⟨p, hp⟩ := hall "[[:nope:]]" (by decide)
      rw [hclass] at hp
      cases hp
  refine ⟨reported, hfile, ?_⟩
  rcases front with _ | ⟨first, _ | ⟨second, _ | ⟨third, front⟩⟩⟩
  · cases hsplit
    rw [he] at hstar
    cases hstar
  · cases hsplit
    cases he
  · cases hsplit
    rw [hclass] at he
    cases he
    exact hreported.description
  · obtain _ | ⟨-, _ | ⟨-, _ | ⟨hthird, -⟩⟩⟩ := hfront
    obtain ⟨-, -, rfl, -⟩ : _ ∧ _ ∧ _ ∧ _ := by simpa using hsplit
    rw [hclass] at hthird
    cases hthird

end Files

end FilterList

end ExcludeRules
