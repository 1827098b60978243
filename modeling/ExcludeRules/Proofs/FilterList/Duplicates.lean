/-
Patterns of a list that are the same as an earlier one.

A list without them gives the same verdicts, and names the same pattern with each, as
long as none of them is dropped for a pattern that matches less: that is, no plain
rule for the same one with a slash behind it.  Main statements:
  * `distinct_cons` : the patterns left out, one after the other;
  * `find?_distinct` : the first pattern left that has a property;
  * `agree_of_same` : patterns that are the same, and lists without duplicates;
  * `exists_same_disagree` : an anchored rule with and without a slash behind it.
-/
import Mathlib.Data.List.Find
import ExcludeRules.Proofs.FilterList.Verdicts
import ExcludeRules.Proofs.Pattern.Ascent
import ExcludeRules.Proofs.Pattern.Sameness

namespace ExcludeRules

namespace Pattern

theorem same_trans {p q r : Pattern} (hpq : p.same q = true) (hqr : q.same r = true) :
    p.same r = true := by
  cases p <;> cases q <;> cases r <;> simp_all [same]

theorem same_eq_of_same {p q : Pattern} (h : p.same q = true) (r : Pattern) :
    p.same r = q.same r := by
  rw [Bool.eq_iff_iff]
  exact ⟨same_trans (same_symm p q ▸ h), same_trans h⟩

/-- What is the same as a pattern may be left out before the others or after them. -/
theorem filter_distinct (p : Pattern) (ps : List Pattern) :
    (distinct ps).filter (fun q => !p.same q) = distinct (ps.filter fun q => !p.same q) := by
  induction ps with
  | nil => rfl
  | cons q qs ih =>
    by_cases h : p.same q = true
    · -- nothing is left of what `q` leaves out, since `p` leaves out the same
      have hout : (fun r : Pattern => !q.same r) = fun r => !p.same r := by
        funext r
        rw [same_eq_of_same h]
      rw [distinct, List.filter_cons_of_neg (by simp [h]), List.filter_cons_of_neg (by simp [h]),
        hout, List.filter_filter, ← ih]
      simp only [Bool.and_self]
    · rw [distinct, List.filter_cons_of_pos (by simp [h]), List.filter_cons_of_pos (by simp [h]),
        distinct, ← ih, List.filter_filter, List.filter_filter]
      simp only [Bool.and_comm]

theorem distinct_cons (p : Pattern) (ps : List Pattern) :
    distinct (p :: ps) = p :: distinct (ps.filter fun q => !p.same q) := by
  rw [distinct, filter_distinct]

theorem mem_of_mem_distinct {p : Pattern} {ps : List Pattern} (h : p ∈ distinct ps) : p ∈ ps := by
  induction ps with
  | nil => exact h
  | cons q qs ih =>
    rw [distinct] at h
    rcases List.mem_cons.mp h with rfl | h
    · exact List.mem_cons_self ..
    · exact List.mem_cons_of_mem _ (ih (List.mem_filter.mp h).1)

/-- The first pattern with a property is not left out, if the property passes from what
is left out to what it is left out for. -/
theorem find?_distinct {f : Pattern → Bool} {ps : List Pattern}
    (h : ∀ p ∈ distinct ps, ∀ q ∈ ps, p.same q = true → f q = true → f p = true) :
    (distinct ps).find? f = ps.find? f := by
  match ps with
  | [] => rfl
  | p :: ps =>
    rw [distinct_cons] at h ⊢
    by_cases hp : f p = true
    · rw [List.find?_cons_of_pos hp, List.find?_cons_of_pos hp]
    · have hrest : ∀ q ∈ ps, p.same q = true → f q = false := fun q hq hsame =>
        Bool.eq_false_iff.mpr fun hfq =>
          hp (h p (List.mem_cons_self ..) q (List.mem_cons_of_mem _ hq) hsame hfq)
      have hlength : (ps.filter fun q => !p.same q).length < (p :: ps).length :=
        Nat.lt_succ_of_le (List.length_filter_le _ _)
      have ih : (distinct (ps.filter fun q => !p.same q)).find? f =
          (ps.filter fun q => !p.same q).find? f := by
        refine find?_distinct fun x hx y hy => ?_
        exact h x (List.mem_cons_of_mem _ hx) y (List.mem_cons_of_mem _ (List.mem_filter.mp hy).1)
      rw [List.find?_cons_of_neg hp, List.find?_cons_of_neg hp, ih, List.find?_filter]
      refine List.find?_congr fun q hq => ?_
      cases hsame : p.same q with
      | false => simp
      | true => simp [hrest q hq hsame]
termination_by ps.length
decreasing_by exact hlength

/-- A search that stops at a pattern stops at one that is the same, unless it alone is for
directories: what the one has to ask the disk about, the other matches or asks about. -/
theorem stops_of_same {p q : Pattern} (hp : p.FromLine) (hq : q.FromLine)
    (hsame : p.same q = true) (hdir : p.directoryOnly = true → q.directoryOnly = true)
    {probe : Probe} {c : Candidate} (h : q.stops probe c = true) : p.stops probe c = true := by
  rcases Bool.or_eq_true_iff.mp h with hfails | hmatch
  · obtain ⟨hasks, hnone⟩ := fails_iff.mp hfails
    rcases same_cases hsame with ⟨rule, rule', rfl, rfl, hsource⟩ | ⟨-, hinert⟩
    · have hrelative := matchesRelative_eq_of_source_eq hp hq hsource
      rw [asksDisk, CompiledRule.asksDisk, ← hrelative] at hasks
      simp only [Bool.and_eq_true] at hasks
      obtain ⟨⟨haccepts, -⟩, habove⟩ := hasks
      refine Bool.or_eq_true_iff.mpr ?_
      -- the expressions agree, so all that may differ is whether the disk is asked
      cases hrule : rule.directoryOnly with
      | true =>
        refine .inl (fails_iff.mpr ⟨?_, hnone⟩)
        rw [asksDisk, CompiledRule.asksDisk, haccepts, hrule, habove]
        rfl
      | false =>
        refine .inr ?_
        rw [matchesCandidate, CompiledRule.matchesCandidate, haccepts, hrule]
        rfl
    · rw [asksDisk_of_not_compiled hinert] at hasks
      cases hasks
  · exact Bool.or_eq_true_iff.mpr (.inr (matchesCandidate_of_same hp hq hsame hdir hmatch))

end Pattern

namespace FilterList

open Pattern (compile distinct)

/-- Without its duplicates a list finds the same first match, and fails where it did. -/
theorem firstMatch?_distinct {ps : List Pattern} (hlines : ∀ p ∈ ps, p.FromLine)
    (hdir : ∀ p ∈ distinct ps, ∀ q ∈ ps, p.same q = true → p.directoryOnly = true →
      q.directoryOnly = true) (probe : Probe) (root : String) (path : Option String) :
    firstMatch? probe root path (distinct ps) = firstMatch? probe root path ps := by
  cases hc : Candidate.resolve root path with
  | error e =>
    cases ps with
    | nil => rfl
    | cons p ps => rw [distinct, firstMatch?_of_error hc, firstMatch?_of_error hc]
  | ok c =>
    have hfind : (distinct ps).find? (·.stops probe c) = ps.find? (·.stops probe c) := by
      refine Pattern.find?_distinct fun p hp q hq hsame => ?_
      have hpline : p.FromLine := hlines p (Pattern.mem_of_mem_distinct hp)
      exact Pattern.stops_of_same hpline (hlines q hq) hsame (hdir p hp q hq hsame)
    rw [firstMatch?_eq_find? hc, firstMatch?_eq_find? hc, hfind]

/-- **Patterns that are the same agree.**  Two patterns that are the same, of lines that
may be written differently, refuse the same roots and paths.  They give the same verdicts
and errors if they agree in whether they are for directories; otherwise both are anchored,
and the one for directories matches a path if the other does and either that matches a
directory further up or the disk shows a directory, nothing, or cannot be looked at; it
alone fails where only the disk can tell and cannot be asked, which no table on the disk
gives cause for.  So a list without its duplicates gives each verdict and each error that
it gave with them, unless a plain rule was dropped for one for directories. -/
theorem agree_of_same :
    (∀ a b p q, compile a = .ok p → compile b = .ok q → p.same q = true →
      (p.directoryOnly = q.directoryOnly →
        ∀ probe root path, p.matches? probe root path = q.matches? probe root path) ∧
      (p.directoryOnly = true → q.directoryOnly = false →
        p.IsAnchored ∧ q.IsAnchored ∧ ∀ probe root path,
          (∀ e, p.matches? probe root path = .error (.path e) ↔
            q.matches? probe root path = .error (.path e)) ∧
          q.matches? probe root path ≠ .error .nul ∧
          ∀ c, Candidate.resolve root path = .ok c →
            (p.matches? probe root path = .ok true ↔
              q.matches? probe root path = .ok true ∧
                (q.MatchesAbove probe c ∨
                  probe.find? c.path.toString ∈
                    [some .directory, some .missing, some .refused])) ∧
            (p.matches? probe root path = .error .nul ↔
              q.matches? probe root path = .ok true ∧ ¬ q.MatchesAbove probe c ∧
                probe.find? c.path.toString = none))) ∧
    ∀ l : FilterList, (∀ p ∈ l.patterns, ∃ text, compile text = .ok p) →
      (∀ p ∈ distinct l.patterns, ∀ q ∈ l.patterns, p.same q = true →
        p.directoryOnly = true → q.directoryOnly = true) →
      ∀ probe root path thread s,
        isExcluded ⟨distinct l.patterns, l.logger⟩ probe root path thread s =
          l.isExcluded probe root path thread s := by
  refine ⟨fun a b p q ha hb hsame => ⟨fun hdir probe root path => ?_, fun hdir hfile => ?_⟩, ?_⟩
  · rw [Pattern.matches?, Pattern.matches?,
      funext (Pattern.judge?_eq_of_same ⟨a, ha⟩ ⟨b, hb⟩ hsame hdir probe)]
  · have hne : p.directoryOnly ≠ q.directoryOnly := by
      rw [hdir, hfile]
      decide
    obtain ⟨hanchor, hanchor'⟩ := Pattern.anchored_of_same ⟨a, ha⟩ ⟨b, hb⟩ hsame hne
    refine ⟨hanchor, hanchor', fun probe root path => ⟨fun e => ?_, fun hnul => ?_, fun c hc => ?_⟩⟩
    · rw [Pattern.matches?_eq_path_error_iff, Pattern.matches?_eq_path_error_iff]
    · obtain ⟨c, -, hasks, -⟩ := Pattern.matches?_eq_nul_iff.mp hnul
      rw [Pattern.asksDisk_of_file hfile] at hasks
      cases hasks
    · have hplaced := Candidate.isPlaced_of_resolve hc
      rw [Pattern.matches?_of_resolve hc, Pattern.matches?_of_resolve hc,
        Pattern.judge?_eq_ok_true_iff, Pattern.judge?_eq_ok_true_iff,
        Pattern.judge?_eq_error_iff, ← Probe.mayShowDirectory_iff]
      constructor
      · exact Pattern.matchesCandidate_directory_iff ⟨a, ha⟩ ⟨b, hb⟩ hsame hdir hfile hplaced
      · have hasks : p.asksDisk c = true ↔
            q.matchesCandidate probe c = true ∧ ¬ q.MatchesAbove probe c :=
          Pattern.asksDisk_directory_iff ⟨a, ha⟩ ⟨b, hb⟩ hsame hdir hfile hplaced
        rw [hasks, and_assoc]
        simp
  · intro l hlines hdir probe root path thread s
    rw [isExcluded, isExcluded, firstMatch?_distinct hlines hdir]

/-- An anchored rule with a slash behind it, and the same rule without. -/
theorem agree_of_same_build :
    ∃ p q, compile (some "/build/") = .ok p ∧ compile (some "- /build") = .ok q ∧
      p.same q = true ∧
      (∀ probe : Probe, p.matches? probe "/srv" (some "build") = .ok true ↔
        q.matches? probe "/srv" (some "build") = .ok true ∧
          (q.MatchesAbove probe
              ⟨⟨1, ["srv".toList]⟩, ⟨1, ["srv".toList, "build".toList]⟩, ["build".toList]⟩ ∨
            probe.find? "/srv/build" ∈ [some .directory, some .missing, some .refused])) ∧
      ∀ logger probe root path thread s,
        isExcluded ⟨[q], logger⟩ probe root path thread s =
          isExcluded ⟨[q, p], logger⟩ probe root path thread s := by
  obtain ⟨rule, hrule, hsource⟩ := Pattern.exists_compiled "/build/"
    (p := fun rule => rule.source == "^build(?:$|/.*)$" && rule.directoryOnly)
    ⟨'/', _, rfl, rfl⟩ (by decide +kernel)
  obtain ⟨rule', hrule', hsource'⟩ := Pattern.exists_compiled "- /build"
    (p := fun rule => rule.source == "^build(?:$|/.*)$" && !rule.directoryOnly)
    ⟨'-', _, rfl, rfl⟩ (by decide +kernel)
  simp only [Bool.and_eq_true, beq_iff_eq, Bool.not_eq_true'] at hsource hsource'
  have hsame : (Pattern.compiled rule).same (.compiled rule') = true := by
    simp [Pattern.same, hsource.1, hsource'.1]
  obtain ⟨hpairs, hlists⟩ := agree_of_same
  obtain ⟨-, -, hmatches⟩ := (hpairs _ _ _ _ hrule hrule' hsame).2 hsource.2 hsource'.2
  refine ⟨_, _, hrule, hrule', hsame, fun probe => ((hmatches probe _ _).2.2 _ rfl).1, ?_⟩
  intro logger probe root path thread s
  have hdistinct : distinct [.compiled rule', .compiled rule] = [.compiled rule'] := by
    simp [distinct, Pattern.same_symm _ (.compiled rule), hsame]
  have hlines : ∀ p ∈ [Pattern.compiled rule', .compiled rule], ∃ text, compile text = .ok p := by
    simp only [List.forall_mem_cons]
    exact ⟨⟨_, hrule'⟩, ⟨_, hrule⟩, List.forall_mem_nil _⟩
  have hlist :=
    hlists ⟨[.compiled rule', .compiled rule], logger⟩ hlines ?_ probe root path thread s
  · rw [← hlist, hdistinct]
  · intro p hp q _ _ hdir
    rw [hdistinct, List.mem_singleton] at hp
    subst hp
    have hfile : rule'.directoryOnly = true := hdir
    rw [hsource'.2] at hfile
    cases hfile

/-- At a file the two differ, and so does the verdict of a list that keeps the wrong one. -/
theorem exists_same_disagree :
    ∃ p q, compile (some "/build/") = .ok p ∧ compile (some "/build") = .ok q ∧
      p.same q = true ∧
      p.matches? (.ofTable fun _ => .file) "/srv" (some "build") = .ok false ∧
      q.matches? (.ofTable fun _ => .file) "/srv" (some "build") = .ok true ∧
      firstMatch? (.ofTable fun _ => .file) "/srv" (some "build") [p, q] = .ok (some q) ∧
      firstMatch? (.ofTable fun _ => .file) "/srv" (some "build") (distinct [p, q]) = .ok none := by
  have hc : Candidate.resolve "/srv" (some "build") =
      .ok ⟨⟨1, ["srv".toList]⟩, ⟨1, ["srv".toList, "build".toList]⟩, ["build".toList]⟩ := rfl
  obtain ⟨rule, hrule, hdir⟩ := Pattern.exists_compiled "/build/"
    (p := fun rule => rule.source == "^build(?:$|/.*)$" &&
      !(Pattern.compiled rule).matchesCandidate (.ofTable fun _ => .file) ⟨⟨1, ["srv".toList]⟩,
        ⟨1, ["srv".toList, "build".toList]⟩, ["build".toList]⟩)
    ⟨'/', _, rfl, rfl⟩ (by decide +kernel)
  obtain ⟨rule', hrule', hfile⟩ := Pattern.exists_compiled "/build"
    (p := fun rule => rule.source == "^build(?:$|/.*)$" &&
      (Pattern.compiled rule).matchesCandidate (.ofTable fun _ => .file) ⟨⟨1, ["srv".toList]⟩,
        ⟨1, ["srv".toList, "build".toList]⟩, ["build".toList]⟩)
    ⟨'/', _, rfl, rfl⟩ (by decide +kernel)
  simp only [Bool.and_eq_true, beq_iff_eq, Bool.not_eq_true'] at hdir hfile
  have hsame : (Pattern.compiled rule).same (.compiled rule') = true := by
    simp [Pattern.same, hdir.1, hfile.1]
  obtain ⟨hdir, hout⟩ := hdir
  obtain ⟨hfile, hin⟩ := hfile
  have hanswer := Pattern.fails_eq_false (Probe.answers_ofTable (fun _ => .file) _ _ _ hc)
  have hsearch := firstMatch?_of_answer hc (Probe.answers_ofTable (fun _ => .file) _ _ _ hc)
  refine ⟨_, _, hrule, hrule', hsame, ?_, ?_, ?_, ?_⟩
  · rw [Pattern.matches?_of_resolve hc, Pattern.judge?_of_not_fails (hanswer _), hout]
  · rw [Pattern.matches?_of_resolve hc, Pattern.judge?_of_not_fails (hanswer _), hin]
  · rw [hsearch, List.find?_cons, hout, List.find?_cons, hin]
  · have hdistinct : distinct [.compiled rule, .compiled rule'] = [.compiled rule] := by
      simp [distinct, hsame]
    rw [hdistinct, hsearch, List.find?_cons, hout, List.find?_nil]

end FilterList

end ExcludeRules
