/-
A class that shares its brackets with more members.

What is written for the class leaves the brackets open, so the members are read right
behind its last one.  Where that stands alone, a hyphen behind it makes a range up to the
character after the hyphen; elsewhere the hyphen is a member like any other.
Main statements:
  * `glyphs_classBracketed` : what is written for such a body;
  * `exists_run_open` : the open brackets of a class, by how the class ends;
  * `run_classBracketed` : the set that is read where no range is made;
  * `run_classBracketed_range`, `unclosed_of_classBracketed` : the range that is.
-/
import ExcludeRules.Proofs.Rule.Members

namespace ExcludeRules.Rule

open Expression (Atom Glyph Mode)

/-- The character closes nothing, opens nothing, escapes nothing, is no wildcard and separates
nothing. -/
def IsClassMember (c : Char) : Prop := c ∉ [']', '[', '\\', '*', '?', '/']

instance (c : Char) : Decidable (IsClassMember c) := inferInstanceAs (Decidable (c ∉ _))

/-- A bracket expression of a class and of members behind it. -/
def classBracketed (name members : List Char) : List Char :=
  CharClass.opening ++ name ++ [':', ']'] ++ members ++ [']']

/-- The member that a class ends with, if it stands there alone and not as the end of a range. -/
def CharClass.last? : CharClass → Option Char
  | blank => '\t'
  | cntrl => '\x7f'
  | punct => '~'
  | space => '\x0c'
  | word => '_'
  | _ => none

variable {cls : CharClass} {name members : List Char}

/-! ### The tokens -/

theorem IsClassMember.plain {c : Char} (h : IsClassMember c) : c ∉ ['*', '?', '[', '\\'] := by
  simp only [IsClassMember, List.mem_cons, List.not_mem_nil, or_false, not_or] at h ⊢
  simp [h]

theorem tokensFrom_of_plain {wild : Bool} {text : List Char}
    (h : ∀ c ∈ text, c ∉ ['*', '?', '[', '\\']) : tokensFrom wild 0 text = text.map .plain := by
  induction text with
  | nil => rfl
  | cons c text ih =>
    obtain ⟨hc, htext⟩ := List.forall_mem_cons.mp h
    rw [tokensFrom_cons, Token.first_plain hc, List.map_cons]
    exact congrArg _ (ih htext)

theorem tokens_classBracketed (hname : cls.IsNamed name) (hne : members ≠ [])
    (h : ∀ c ∈ members, IsClassMember c) :
    tokens (classBracketed name members) =
      .named (name ++ [':']) false :: (members ++ [']']).map .plain := by
  have hwild : hasWildcards (classBracketed name members) = true := rfl
  have htext : classBracketed name members =
      '[' :: '[' :: ':' :: ((name ++ [':']) ++ ']' :: (members ++ [']'])) := by
    simp [classBracketed, CharClass.opening]
  have hmem : ']' ∉ name ++ [':'] := by simp [hname.not_mem]
  have hopen : ((members ++ [']']).head? == some ']') = false := by
    obtain ⟨c, rest, rfl⟩ := List.exists_cons_of_ne_nil hne
    have hc : c ≠ ']' := by
      rintro rfl
      exact h _ (List.mem_cons_self ..) (by decide)
    simpa using hc
  have hfirst := @Token.first_class true (name ++ [':']) (members ++ [']']) hmem
    (by simp [List.getLast?_cons])
  rw [hopen] at hfirst
  have hdrop : (classBracketed name members).drop (Token.named (name ++ [':']) false).width =
      members ++ [']'] := by
    have hcut : classBracketed name members =
        (CharClass.opening ++ name ++ [':', ']']) ++ (members ++ [']']) := by
      simp [classBracketed]
    rw [hcut]
    exact List.drop_left' (by simp [Token.width, CharClass.opening])
  have hplain : ∀ c ∈ members ++ [']'], c ∉ ['*', '?', '[', '\\'] :=
    List.forall_mem_append.mpr
      ⟨fun c hc => (h c hc).plain, List.forall_mem_singleton.mpr (by decide)⟩
  rw [tokens, hwild, htext, tokensFrom_cons, hfirst, ← htext, hdrop, tokensFrom_of_plain hplain]

/-- What is written: the members of the class without a closing bracket, and the others. -/
theorem glyphs_classBracketed (hname : cls.IsNamed name) (hne : members ≠ [])
    (h : ∀ c ∈ members, IsClassMember c) :
    (mergeStars (tokens (classBracketed name members))).flatMap Token.glyphs =
      (.plain '[' :: cls.glyphs) ++ (members.map Token.glyphOf ++ [.plain ']']) := by
  have hmerge : mergeStars (tokens (classBracketed name members)) =
      .named (name ++ [':']) false :: (members ++ [']']).map .plain := by
    rw [tokens_classBracketed hname hne h]
    refine mergeStars_eq_of_forall (List.forall_mem_cons.mpr ⟨rfl, ?_⟩)
    intro t ht
    obtain ⟨c, -, rfl⟩ := List.mem_map.mp ht
    rfl
  have hclass : (Token.named (name ++ [':']) false).glyphs = .plain '[' :: cls.glyphs := by
    rw [Token.glyphs, List.dropLast_concat, hname.ofName?_eq]
    simp
  have hmembers : ((members ++ [']']).map Token.plain).flatMap Token.glyphs =
      members.map Token.glyphOf ++ [.plain ']'] := by
    rw [List.flatMap_map, List.flatMap_append, List.map_eq_flatMap]
    rfl
  rw [hmerge, List.flatMap_cons, hclass, hmembers]

/-! ### The set -/

namespace CharClass

/-- The open brackets of a class: what is gathered, and whether a range may begin behind it. -/
theorem exists_run_open (cls : CharClass) :
    ∃ m, Mode.outside.run (.plain '[' :: cls.glyphs) = .ok (m, []) ∧
      m.gathered? = some ⟨false, cls.ranges.reverse⟩ ∧
      match cls.last? with
      | none => m = .members ⟨false, cls.ranges.reverse⟩
      | some last => ∃ set g, m = .pending set g ∧ g.char = last := by
  cases cls <;> first | exact ⟨_, rfl, rfl, rfl⟩ | exact ⟨_, rfl, rfl, _, _, rfl, rfl⟩

theorem reverse_ranges_ne_nil (cls : CharClass) : cls.ranges.reverse ≠ [] := by
  cases cls <;> decide

end CharClass

theorem IsClassMember.glyphOf_ne {c : Char} (h : IsClassMember c) (hhyphen : c ≠ '-') :
    Token.glyphOf c ≠ .plain ']' ∧ Token.glyphOf c ≠ .plain '-' ∧
      Token.glyphOf c ≠ .plain '^' := by
  have hclose : c ≠ ']' := by
    rintro rfl
    exact h (by decide)
  refine ⟨Token.glyphOf_ne hclose, Token.glyphOf_ne hhyphen, ?_⟩
  -- a caret is escaped
  unfold Token.glyphOf
  split
  next => nofun
  next hspecial =>
    intro hcaret
    rw [Glyph.plain.inj hcaret] at hspecial
    exact hspecial rfl

theorem glyphs_ne_of_members {text : List Char} (h : ∀ c ∈ text, IsClassMember c)
    (hhyphen : '-' ∉ text) :
    ∀ g ∈ text.map Token.glyphOf, g ≠ .plain ']' ∧ g ≠ .plain '-' ∧ g ≠ .plain '^' := by
  intro g hg
  obtain ⟨c, hc, rfl⟩ := List.mem_map.mp hg
  exact (h c hc).glyphOf_ne fun heq => hhyphen (heq ▸ hc)

theorem map_char_glyphOf (text : List Char) :
    (text.map Token.glyphOf).map (fun g => (g.char, g.char)) = text.map fun c => (c, c) := by
  rw [List.map_map]
  refine List.map_congr_left fun c _ => ?_
  simp [Token.char_glyphOf]

/-- The members make a range with what the class ends with. -/
def MakesRange (cls : CharClass) (members : List Char) (last c : Char) (rest : List Char) : Prop :=
  cls.last? = some last ∧ members = '-' :: c :: rest

/-- **Where no range is made, the class and the members are read as one set.** -/
theorem run_classBracketed (hname : cls.IsNamed name) (hne : members ≠ [])
    (h : ∀ c ∈ members, IsClassMember c) (hhyphen : '-' ∉ members.tail)
    (hfree : ¬ ∃ last c rest, MakesRange cls members last c rest) :
    Mode.outside.run
        ((mergeStars (tokens (classBracketed name members))).flatMap Token.glyphs) =
      .ok (.outside, [.one (.ranges false (cls.ranges ++ members.map fun c => (c, c)))]) := by
  obtain ⟨m, hopen, hset, hlast⟩ := cls.exists_run_open
  have hread : m.run (members.map Token.glyphOf ++ [.plain ']']) =
      .ok (.outside, [.one (.ranges false (cls.ranges ++ members.map fun c => (c, c)))]) := by
    obtain ⟨c, rest, rfl⟩ := List.exists_cons_of_ne_nil hne
    obtain ⟨hc, hrest⟩ := List.forall_mem_cons.mp h
    by_cases hfirst : c = '-'
    · subst hfirst
      have hbehind : m = .members ⟨false, cls.ranges.reverse⟩ ∨ rest.map Token.glyphOf = [] := by
        cases hend : cls.last? with
        | none =>
          rw [hend] at hlast
          exact .inl hlast
        | some last =>
          cases rest with
          | nil => exact .inr rfl
          | cons d rest => exact absurd ⟨last, d, rest, hend, rfl⟩ hfree
      have hrun := Mode.run_set_of_hyphen hset cls.reverse_ranges_ne_nil hbehind
        (glyphs_ne_of_members hrest hhyphen)
      rw [map_char_glyphOf, List.reverse_reverse] at hrun
      exact hrun
    · have hnone : '-' ∉ c :: rest := by
        simpa [Ne.symm hfirst] using hhyphen
      have hrun := Mode.run_set hset (.inl cls.reverse_ranges_ne_nil) (glyphs_ne_of_members h hnone)
      rw [map_char_glyphOf, List.reverse_reverse] at hrun
      exact hrun
  rw [glyphs_classBracketed hname hne h, Mode.run_append_of_nil hopen, hread]

section Range

variable {last c : Char} {rest : List Char}

/-- Where a range is made, it is read behind what the class holds in front of its last member. -/
theorem exists_run_range (hname : cls.IsNamed name) (h : ∀ c ∈ members, IsClassMember c)
    (hrange : MakesRange cls members last c rest) :
    ∃ before g, cls.ranges = before ++ [(last, last)] ∧ g.char = last ∧
      Mode.outside.run
          ((mergeStars (tokens (classBracketed name members))).flatMap Token.glyphs) =
        (Mode.pending ⟨false, before.reverse⟩ g).run
          (.plain '-' :: Token.glyphOf c :: (rest.map Token.glyphOf ++ [.plain ']'])) := by
  obtain ⟨hend, rfl⟩ := hrange
  obtain ⟨m, hopen, hset, hlast⟩ := cls.exists_run_open
  rw [hend] at hlast
  obtain ⟨⟨negated, before⟩, g, rfl, hg⟩ := hlast
  obtain ⟨rfl, hbefore⟩ : negated = false ∧ (g.char, g.char) :: before = cls.ranges.reverse := by
    simpa [Mode.gathered?, Expression.OpenSet.push] using hset
  refine ⟨before.reverse, g, ?_, hg, ?_⟩
  · rw [← List.reverse_reverse cls.ranges, ← hbefore, List.reverse_cons, hg]
  · rw [glyphs_classBracketed hname (List.cons_ne_nil _ _) h, Mode.run_append_of_nil hopen,
      List.reverse_reverse]
    rfl

/-- **Where a range is made, it is read in place of the last member of the class.** -/
theorem run_classBracketed_range (hname : cls.IsNamed name) (h : ∀ c ∈ members, IsClassMember c)
    (hhyphen : '-' ∉ members.tail) (hrange : MakesRange cls members last c rest)
    (hle : last ≤ c) :
    ∃ before, cls.ranges = before ++ [(last, last)] ∧
      Mode.outside.run
          ((mergeStars (tokens (classBracketed name members))).flatMap Token.glyphs) =
        .ok (.outside,
          [.one (.ranges false (before ++ (last, c) :: rest.map fun c => (c, c)))]) := by
  obtain ⟨before, g, hranges, hg, hrun⟩ := exists_run_range hname h hrange
  refine ⟨before, hranges, ?_⟩
  obtain ⟨-, rfl⟩ := hrange
  obtain ⟨-, hmembers⟩ := List.forall_mem_cons.mp h
  obtain ⟨hc, hrest⟩ := List.forall_mem_cons.mp hmembers
  have hne : c ≠ '-' ∧ '-' ∉ rest := by simpa [eq_comm] using hhyphen
  have horder : ¬ (Token.glyphOf c).char < g.char := by
    rw [Token.char_glyphOf, hg]
    exact Char.not_lt.mpr hle
  rw [hrun, Mode.run_set_of_range (hc.glyphOf_ne hne.1).1 horder
    (glyphs_ne_of_members hrest hne.2), map_char_glyphOf, Token.char_glyphOf, hg,
    List.reverse_reverse]

/-- **A range whose ends are out of order is a fault.** -/
theorem unclosed_of_classBracketed (hname : cls.IsNamed name)
    (h : ∀ c ∈ members, IsClassMember c) (hrange : MakesRange cls members last c rest)
    (hlt : c < last) {source : List Char}
    (hsource : writeBody (classBracketed name members) = .ok source) :
    Expression.Unclosed source := by
  obtain ⟨-, -, -, rfl⟩ := writeBody_eq_ok_iff.mp hsource
  have hglyphs := glyphs_flatMap_write
    (mergeStars_sound (tokens_sound (classBracketed name members)))
  obtain ⟨before, g, -, hg, hrun⟩ := exists_run_range hname h hrange
  obtain ⟨-, rfl⟩ := hrange
  have hc : Token.glyphOf c ≠ .plain ']' := by
    refine Token.glyphOf_ne ?_
    rintro rfl
    exact h ']' (by simp) (by decide)
  have horder : (Token.glyphOf c).char < g.char := by
    rw [Token.char_glyphOf, hg]
    exact hlt
  refine ⟨_, hglyphs, ?_⟩
  rw [hrun, Mode.run_range_of_lt hc horder]
  trivial

end Range

/-! ### Writing the body -/

theorem counted_map_plain (text : List Char) : Counted (text.map .plain) 0 := by
  induction text with
  | nil => exact ⟨rfl, List.forall_mem_nil _⟩
  | cons c text ih => exact ih.cons trivial

/-- The class counts as one wildcard, and no member counts. -/
theorem counted_classBracketed (hname : cls.IsNamed name) (hne : members ≠ [])
    (h : ∀ c ∈ members, IsClassMember c) :
    Counted (tokens (classBracketed name members)) 1 := by
  rw [tokens_classBracketed hname hne h]
  refine (counted_map_plain (members ++ [']'])).cons ?_
  rw [Token.IsKnown, List.dropLast_concat, hname.ofName?_eq]
  rfl

theorem writeBody_classBracketed (hname : cls.IsNamed name) (hne : members ≠ [])
    (h : ∀ c ∈ members, IsClassMember c)
    (hlength : (classBracketed name members).length ≤ maxLength) :
    writeBody (classBracketed name members) = .ok
      ((mergeStars (tokens (classBracketed name members))).flatMap fun t => t.write?.getD []) := by
  have hcounted := counted_classBracketed hname hne h
  have hwildcards : wildcardCount (classBracketed name members) ≤ maxWildcards := by
    rw [wildcardCount, hcounted.count_eq]
    decide
  exact writeBody_eq_ok_iff.mpr
    ⟨unknownClass?_eq_none_iff.mpr hcounted.known, hlength, hwildcards, rfl⟩

end ExcludeRules.Rule
