/-
A list that is made from another one.

A list in which no rule can match counts as none when a list is made from it, so its
blank lines and comments are lost; any other list is copied whole.  What is lost matches
nothing, but it refuses what cannot be tested, and the empty copy refuses nothing.
Main statements:
  * `copyPatterns_eq_iff` : the lists that are copied whole;
  * `compiledCount_copy` : a copy has all rules that can match;
  * `copy_whole_iff` : what a copy keeps, and what it loses;
  * `exists_copy_lost` : lines that are lost.
-/
import ExcludeRules.Proofs.FilterList.Refusal

namespace ExcludeRules.FilterList

/-- A list made from the patterns of another one; where no logger is given, that of the
default name is obtained. -/
def copy (l : FilterList) (logger : Option Log.Logger) (s : Log.State) : FilterList × Log.State :=
  ofPatterns l.copyPatterns logger s

variable {l : FilterList} {probe : Probe} {root : String} {path : Option String}

theorem patterns_copy (l : FilterList) (logger : Option Log.Logger) (s : Log.State) :
    (l.copy logger s).1.patterns = l.copyPatterns := by
  cases logger <;> rfl

theorem isActive_iff : l.isActive = true ↔ ∃ p ∈ l.patterns, p.isCompiled = true := by
  rw [isActive, decide_eq_true_iff, compiledCount, List.countP_pos_iff]

/-- A list is copied whole if a rule is in it, or if there is nothing to lose. -/
theorem copyPatterns_eq_iff :
    l.copyPatterns = l.patterns ↔
      (∃ p ∈ l.patterns, p.isCompiled = true) ∨ l.patterns = [] := by
  rw [← isActive_iff, copyPatterns]
  by_cases h : l.isActive = true
  · rw [if_pos h]
    exact iff_of_true rfl (.inl h)
  · rw [if_neg h, or_iff_right h]
    exact eq_comm

theorem copyPatterns_of_ne (h : l.copyPatterns ≠ l.patterns) :
    l.copyPatterns = [] ∧ l.patterns ≠ [] ∧ ∀ p ∈ l.patterns, p.isCompiled = false := by
  rw [ne_eq, copyPatterns_eq_iff, not_or] at h
  obtain ⟨hinert, hne⟩ := h
  refine ⟨?_, hne, fun p hp => Bool.eq_false_iff.mpr fun hcompiled => hinert ⟨p, hp, hcompiled⟩⟩
  rw [copyPatterns, if_neg (mt isActive_iff.mp hinert)]

theorem compiledCount_copy (l : FilterList) (logger : Option Log.Logger) (s : Log.State) :
    (l.copy logger s).1.compiledCount = l.compiledCount := by
  rw [compiledCount, patterns_copy]
  by_cases h : l.copyPatterns = l.patterns
  · rw [h, compiledCount]
  · obtain ⟨hnil, -, hinert⟩ := copyPatterns_of_ne h
    rw [hnil, compiledCount, List.countP_nil, eq_comm, List.countP_eq_zero]
    exact fun p hp => Bool.eq_false_iff.mp (hinert p hp)

/-- Blank lines and comments match no path that can be tested. -/
theorem matches?_of_inert {ps : List Pattern} (h : ∀ p ∈ ps, p.isCompiled = false)
    {c : Candidate} (hc : Candidate.resolve root path = .ok c) :
    allMatches? probe root path ps = .ok [] ∧ firstMatch? probe root path ps = .ok none := by
  induction ps with
  | nil => exact ⟨rfl, rfl⟩
  | cons p ps ih =>
    obtain ⟨hp, hps⟩ := List.forall_mem_cons.mp h
    obtain ⟨hall, hfirst⟩ := ih hps
    rw [allMatches?_cons hc, firstMatch?_cons hc, Pattern.judge?_of_not_compiled hp, hall, hfirst]
    exact ⟨rfl, rfl⟩

/-- A copy finds the same matches, unless it has lost what would have refused the path. -/
theorem matches?_copyPatterns
    (h : l.copyPatterns = l.patterns ∨ ∃ c, Candidate.resolve root path = .ok c) :
    allMatches? probe root path l.copyPatterns = allMatches? probe root path l.patterns ∧
      firstMatch? probe root path l.copyPatterns = firstMatch? probe root path l.patterns := by
  by_cases hsame : l.copyPatterns = l.patterns
  · rw [hsame]
    exact ⟨rfl, rfl⟩
  · obtain ⟨c, hc⟩ := h.resolve_left hsame
    obtain ⟨hnil, -, hinert⟩ := copyPatterns_of_ne hsame
    obtain ⟨hall, hfirst⟩ := matches?_of_inert hinert hc
    rw [hnil, hall, hfirst]
    exact ⟨rfl, rfl⟩

/-- **What is kept of a list that another one is made from.**  Its rules that can match are
kept, and so are all its patterns, in their order, if there is a rule among them or if
there are none; otherwise all are lost.  The new list gives the same verdicts and names the
same rules where nothing is lost, and wherever the root and the path can be tested; where
they cannot, a list that was lost refuses them, and what was made from it excludes
nothing and names no rule. -/
theorem copy_whole_iff (l : FilterList) (logger : Option Log.Logger) (s : Log.State) :
    let made := (l.copy logger s).1
    made.compiledCount = l.compiledCount ∧
    (made.patterns = l.patterns ↔
      (∃ p ∈ l.patterns, p.isCompiled = true) ∨ l.patterns = []) ∧
    (∀ probe root path, made.patterns = l.patterns ∨
        (∃ c, Candidate.resolve root path = .ok c) →
      made.matchingRules probe root path = l.matchingRules probe root path ∧
      ∀ thread s', Prod.fst <$> made.isExcluded probe root path thread s' =
        Prod.fst <$> l.isExcluded probe root path thread s') ∧
    (made.patterns ≠ l.patterns → made.patterns = [] ∧
      ∀ probe root path e, Candidate.Refused root path e →
        l.matchingRules probe root path = .error (.path e) ∧
        made.matchingRules probe root path = .ok [] ∧
        ∀ thread s', l.isExcluded probe root path thread s' = .error (.path e) ∧
          made.isExcluded probe root path thread s' = .ok (false, s')) := by
  intro made
  have hmade : made.patterns = l.copyPatterns := patterns_copy l logger s
  refine ⟨compiledCount_copy l logger s, ?_, ?_, ?_⟩
  · rw [hmade, copyPatterns_eq_iff]
  · intro probe root path h
    rw [hmade] at h
    refine ⟨?_, fun thread s' => ?_⟩
    · rw [matchingRules_eq_map, matchingRules_eq_map, hmade, (matches?_copyPatterns h).1]
    · rw [fst_isExcluded, fst_isExcluded, hmade, (matches?_copyPatterns h).2]
  · intro hlost
    rw [hmade] at hlost
    obtain ⟨hnil, hne, -⟩ := copyPatterns_of_ne hlost
    have hempty : made.patterns = [] := hmade.trans hnil
    refine ⟨hempty, fun probe root path e hrefused => ⟨?_, ?_, fun thread s' => ⟨?_, ?_⟩⟩⟩
    · exact matchingRules_eq_path_error_iff.mpr ⟨hne, hrefused⟩
    · exact matchingRules_of_nil hempty probe root path
    · exact isExcluded_eq_path_error_iff.mpr ⟨hne, hrefused⟩
    · exact isExcluded_of_nil hempty probe root path thread s'

/-- Two blank lines around a comment, and a root that is not absolute. -/
theorem copy_whole_iff_inert :
    let s : Log.State := .start ⟨[]⟩ ""
    ∃ l, ofLines [" ", "; generated", ""] ⟨0, "main"⟩ = .ok l ∧ l.size = 3 ∧
      (l.copy none s).1.patterns = [] ∧
      (∀ probe, (l.copy none s).1.matchingRules probe "/srv" (some "a.o") =
        l.matchingRules probe "/srv" (some "a.o")) ∧
      ∀ probe, l.matchingRules probe "srv" (some "a.o") = .error (.path (.rootNotAbsolute "srv")) ∧
        (l.copy none s).1.matchingRules probe "srv" (some "a.o") = .ok [] := by
  intro s
  let l : FilterList := ⟨[.blank " ", .comment "; generated", .blank ""], ⟨0, "main"⟩⟩
  have hlines : ofLines [" ", "; generated", ""] ⟨0, "main"⟩ = .ok l := rfl
  obtain ⟨-, hwhole, hsame, hlost⟩ := copy_whole_iff l none s
  have hne : (l.copy none s).1.patterns ≠ l.patterns := by
    rw [ne_eq, hwhole]
    decide
  have hrefused : Candidate.Refused "srv" (some "a.o") (.rootNotAbsolute "srv") :=
    .rootNotAbsolute (by decide)
  obtain ⟨hnil, hrefuses⟩ := hlost hne
  refine ⟨l, hlines, rfl, hnil, fun probe => ?_, fun probe => ?_⟩
  · exact (hsame probe "/srv" (some "a.o") (.inr ⟨_, rfl⟩)).1
  · obtain ⟨hall, hmade, -⟩ := hrefuses probe "srv" (some "a.o") _ hrefused
    exact ⟨hall, hmade⟩

/-- A comment is lost, and with it the refusal of a root that is not absolute. -/
theorem exists_copy_lost :
    let s : Log.State := .start ⟨[]⟩ ""
    ∃ l, ofLines ["# generated"] ⟨0, "main"⟩ = .ok l ∧ l.size = 1 ∧ (l.copy none s).1.size = 0 ∧
      ∀ probe, l.isExcluded probe "srv" (some "a") 0 s = .error (.path (.rootNotAbsolute "srv")) ∧
        (l.copy none s).1.isExcluded probe "srv" (some "a") 0 s = .ok (false, s) :=
  ⟨⟨[.comment "# generated"], ⟨0, "main"⟩⟩, rfl, rfl, rfl, fun _ => ⟨rfl, rfl⟩⟩

end ExcludeRules.FilterList
