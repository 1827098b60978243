/-
What the disk can be asked about.

The path of a candidate holds no character that neither the root nor the path holds, slashes
and dots apart.  So a look at the disk answers where both are free of NULs; a table answers
in any case.  Main statements:
  * `mem_toString` : the characters that a path is written with;
  * `mem_path_of_resolve` : those of a candidate's path;
  * `nul_mem_of_find?_eq_none` : what keeps the disk from answering;
  * `answers_of_nulFree`, `answers_ofTable` : where a look at the disk answers.
-/
import ExcludeRules.Path.Probe
import ExcludeRules.Proofs.Path.Placement

namespace ExcludeRules

namespace Path

/-- Some segment of the path holds the character. -/
def Holds (p : Path) (c : Char) : Prop := ∃ s ∈ p.segments, c ∈ s

variable {c : Char}

theorem mem_of_holds_ofText {text : List Char} (h : (ofText text).Holds c) : c ∈ text := by
  obtain ⟨s, hs, hc⟩ := h
  rw [ofText, List.mem_filter] at hs
  exact Text.mem_of_mem_split hs.1 hc

/-- The removal of double dots brings in no segments. -/
theorem mem_of_mem_climb {absolute : Bool} {before segments : List (List Char)} {s : List Char}
    (h : s ∈ climb absolute before segments) : s ∈ before ∨ s ∈ segments := by
  fun_induction climb absolute before segments with
  | case1 before => exact .inl (List.mem_reverse.mp h)
  | case2 rest ih =>
    -- of a leading double dot nothing is new but the double dot itself
    rcases ih h with hnew | hrest
    · split at hnew
      · cases hnew
      · exact .inr (List.mem_singleton.mp hnew ▸ List.mem_cons_self)
    · exact .inr (List.mem_cons_of_mem _ hrest)
  | case3 rest more ih =>
    rcases ih h with hnew | hrest
    · rcases List.mem_cons.mp hnew with rfl | hbefore
      · exact .inr List.mem_cons_self
      · exact .inl hbefore
    · exact .inr (List.mem_cons_of_mem _ hrest)
  | case4 rest last more hlast ih =>
    rcases ih h with hbefore | hrest
    · exact .inl (List.mem_cons_of_mem _ hbefore)
    · exact .inr (List.mem_cons_of_mem _ hrest)
  | case5 before piece rest hpiece ih =>
    rcases ih h with hnew | hrest
    · rcases List.mem_cons.mp hnew with rfl | hbefore
      · exact .inr List.mem_cons_self
      · exact .inl hbefore
    · exact .inr (List.mem_cons_of_mem _ hrest)

theorem holds_of_holds_normalize {p : Path} (h : p.normalize.Holds c) : p.Holds c := by
  obtain ⟨s, hs, hc⟩ := h
  rcases mem_of_mem_climb hs with hnil | hs
  · cases hnil
  · exact ⟨s, hs, hc⟩

theorem holds_of_holds_join {p q : Path} (h : (p.join q).Holds c) : p.Holds c ∨ q.Holds c := by
  unfold join at h
  split at h
  · exact .inr h
  · obtain ⟨s, hs, hc⟩ := h
    exact (List.mem_append.mp hs).imp (fun hs => ⟨s, hs, hc⟩) fun hs => ⟨s, hs, hc⟩

/-- A path is written with slashes, dots and what its segments hold. -/
theorem mem_toString {p : Path} (h : c ∈ p.toString.toList) : c = '/' ∨ c = '.' ∨ p.Holds c := by
  rw [toString, String.toList_ofList, text] at h
  split at h
  · exact .inr (.inl (List.mem_singleton.mp h))
  · rcases List.mem_append.mp h with hslash | hjoined
    · exact .inl (List.eq_of_mem_replicate hslash)
    · exact (Text.mem_join hjoined).imp_right .inr

end Path

namespace Candidate

variable {root : String} {path : Option String}

theorem holds_of_place {root path : Path} {c : Candidate} (h : place root path = .ok c)
    {char : Char} (hc : c.path.Holds char) : root.Holds char ∨ path.Holds char := by
  obtain ⟨below, -, rfl⟩ := place_eq_ok_iff.mp h
  exact Path.holds_of_holds_join (Path.holds_of_holds_normalize hc)

/-- The path of a candidate is written with slashes, dots and what the arguments hold. -/
theorem mem_path_of_resolve {c : Candidate} (h : resolve root path = .ok c) {char : Char}
    (hc : char ∈ c.path.toString.toList) :
    char = '/' ∨ char = '.' ∨ char ∈ root.toList ∨ ∃ text ∈ path, char ∈ text.toList := by
  refine (Path.mem_toString hc).imp_right (Or.imp_right fun hholds => ?_)
  cases path with
  | some path =>
    obtain ⟨r, hr, hplace⟩ := resolve_eq_ok_iff.mp h
    obtain ⟨-, rfl⟩ := Path.root?_eq_ok_iff.mp hr
    refine (holds_of_place hplace hholds).imp (fun hroot => ?_) fun hpath => ?_
    · exact Path.mem_of_holds_ofText (Path.holds_of_holds_normalize hroot)
    · exact ⟨path, rfl, Path.mem_of_holds_ofText hpath⟩
  | none =>
    obtain ⟨p, hp, hplace⟩ := Outcome.bind_eq_ok_iff.mp h
    obtain ⟨-, rfl⟩ := Path.absolute?_eq_ok_iff.mp hp
    rcases holds_of_place hplace hholds with ⟨s, hs, -⟩ | hpath
    · cases hs
    · exact .inl (Path.mem_of_holds_ofText hpath)

end Candidate

namespace Probe

variable {probe : Probe} {root : String} {path : Option String}

/-- The look at the disk answers for what a root and a path lead to, if that is inside. -/
def Answers (probe : Probe) (root : String) (path : Option String) : Prop :=
  ∀ c, Candidate.resolve root path = .ok c → (probe.find? c.path.toString).isSome = true

theorem answers_ofTable (table : String → Finding) (root : String) (path : Option String) :
    (ofTable table).Answers root path := fun _ _ => rfl

/-- Only a NUL in the root or in the path keeps the disk from answering. -/
theorem nul_mem_of_find?_eq_none {c : Candidate} (hc : Candidate.resolve root path = .ok c)
    (hnone : probe.find? c.path.toString = none) :
    '\x00' ∈ root.toList ∨ ∃ text ∈ path, '\x00' ∈ text.toList := by
  have hnul : '\x00' ∈ c.path.toString.toList := Decidable.byContradiction fun hfree =>
    Option.isSome_iff_ne_none.mp (probe.isSome_find? _ hfree) hnone
  rcases Candidate.mem_path_of_resolve hc hnul with hslash | hdot | hmem
  · exact absurd hslash (by decide)
  · exact absurd hdot (by decide)
  · exact hmem

theorem answers_of_nulFree (hroot : '\x00' ∉ root.toList)
    (hpath : ∀ text ∈ path, '\x00' ∉ text.toList) (probe : Probe) :
    probe.Answers root path := by
  intro c hc
  refine Option.isSome_iff_ne_none.mpr fun hnone => ?_
  rcases nul_mem_of_find?_eq_none hc hnone with hmem | ⟨text, htext, hmem⟩
  · exact hroot hmem
  · exact hpath text htext hmem

end Probe

end ExcludeRules
