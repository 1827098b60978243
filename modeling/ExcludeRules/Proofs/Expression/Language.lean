/-
What expressions match that stand one after the other.

`MatchesAll es pre mid post` says that the expressions of `es` match `mid` in
turn, between `pre` and `post`.  An atom is an expression that takes characters
and asks nothing of what stands around them; what a list of atoms takes does
therefore not depend on where it is read.  Main statements:
  * `accepts_sequence` : a sequence accepts what its parts match in turn;
  * `eq_of_sequence_eq` : a sequence determines its parts;
  * `matchesAll_atoms` : atoms match the same texts everywhere;
  * `exists_contains_of_mem` : each character that atoms take is in one of their sets.
-/
import ExcludeRules.Expression.Marks
import ExcludeRules.Expression.Reader

namespace ExcludeRules.Expression

/-- The expressions match `mid`, one after the other, between `pre` and `post`. -/
def MatchesAll : List Expression → (pre mid post : List Char) → Prop
  | [], _, mid, _ => mid = []
  | e :: es, pre, mid, post =>
    ∃ u v, mid = u ++ v ∧ e.Matches pre u (v ++ post) ∧ MatchesAll es (pre ++ u) v post

theorem matchesAll_singleton {e : Expression} {pre mid post : List Char} :
    MatchesAll [e] pre mid post ↔ e.Matches pre mid post := by
  constructor
  · rintro ⟨u, v, rfl, he, rfl⟩
    simpa using he
  · intro he
    exact ⟨mid, [], by simp, by simpa using he, rfl⟩

theorem matchesAll_append {es fs : List Expression} {pre mid post : List Char} :
    MatchesAll (es ++ fs) pre mid post ↔
      ∃ u v, mid = u ++ v ∧ MatchesAll es pre u (v ++ post) ∧
        MatchesAll fs (pre ++ u) v post := by
  induction es generalizing pre mid with
  | nil =>
    constructor
    · intro h
      exact ⟨[], mid, rfl, rfl, by simpa using h⟩
    · rintro ⟨u, v, rfl, rfl, h⟩
      simpa using h
  | cons e es ih =>
    constructor
    · rintro ⟨u, v, rfl, he, hrest⟩
      obtain ⟨v₁, v₂, rfl, hes, hfs⟩ := ih.mp hrest
      refine ⟨u ++ v₁, v₂, by simp, ⟨u, v₁, rfl, by simpa using he, hes⟩, ?_⟩
      simpa using hfs
    · rintro ⟨_, v₂, rfl, ⟨u, v₁, rfl, he, hes⟩, hfs⟩
      refine ⟨u, v₁ ++ v₂, by simp, by simpa using he, ih.mpr ⟨v₁, v₂, rfl, hes, ?_⟩⟩
      simpa using hfs

/-- The parts of a sequence are kept last first. -/
theorem matches_sequence {parts : List Expression} {pre mid post : List Char} :
    (OpenGroup.sequence parts).Matches pre mid post ↔
      MatchesAll parts.reverse pre mid post := by
  -- the fold puts the parts before in front of `e`, the last of them first
  have hfold : ∀ (before : List Expression) (e : Expression),
      (before.foldl (fun after e => .seq e after) e).Matches pre mid post ↔
        MatchesAll (before.reverse ++ [e]) pre mid post := by
    intro before
    induction before with
    | nil =>
      intro e
      exact matchesAll_singleton.symm
    | cons b before ih =>
      intro e
      rw [List.foldl_cons, ih, List.reverse_cons, List.append_assoc, matchesAll_append,
        matchesAll_append]
      -- the last two parts form one `seq`, which is what two parts in turn are
      refine exists_congr fun u => exists_congr fun v => and_congr_right fun _ =>
        and_congr_right fun _ => ?_
      rw [matchesAll_singleton]
      refine exists_congr fun x => exists_congr fun y => and_congr_right fun _ =>
        and_congr_right fun _ => ?_
      exact matchesAll_singleton.symm
  cases parts with
  | nil => exact Iff.rfl
  | cons e before =>
    rw [List.reverse_cons]
    exact hfold before e

theorem accepts_sequence {parts : List Expression} {text : List Char} :
    (OpenGroup.sequence parts.reverse).accepts text = true ↔ MatchesAll parts [] text [] := by
  rw [accepts_iff, matches_sequence, List.reverse_reverse]

/-! ### The parts of a sequence -/

/-- The expression is not itself a sequence. -/
def IsPart : Expression → Prop
  | seq _ _ => False
  | _ => True

theorem sequence_cons (e : Expression) {es : List Expression} (hne : es ≠ []) :
    OpenGroup.sequence (e :: es).reverse = .seq e (OpenGroup.sequence es.reverse) := by
  rw [List.reverse_cons]
  cases h : es.reverse with
  | nil => exact absurd (List.reverse_eq_nil_iff.mp h) hne
  | cons f before =>
    show (before ++ [e]).foldl (fun after e => .seq e after) f = _
    rw [List.foldl_append]
    rfl

/-- What a sequence is made of can be told from it. -/
theorem eq_of_sequence_eq {es fs : List Expression} (hes : es ≠ []) (hfs : fs ≠ [])
    (hespart : ∀ e ∈ es, e.IsPart) (hfspart : ∀ f ∈ fs, f.IsPart)
    (h : OpenGroup.sequence es.reverse = OpenGroup.sequence fs.reverse) : es = fs := by
  induction es generalizing fs with
  | nil => exact absurd rfl hes
  | cons e es ih =>
    obtain ⟨f, fs, rfl⟩ := List.exists_cons_of_ne_nil hfs
    obtain ⟨he, herest⟩ := List.forall_mem_cons.mp hespart
    obtain ⟨hf, hfrest⟩ := List.forall_mem_cons.mp hfspart
    -- one part alone is no sequence, so both lists go on or both end
    by_cases hnil : es = []
    · by_cases hnil' : fs = []
      · subst hnil hnil'
        exact congrArg (fun e => [e]) h
      · rw [sequence_cons f hnil', hnil] at h
        obtain rfl : e = _ := h
        exact he.elim
    · rw [sequence_cons e hnil] at h
      by_cases hnil' : fs = []
      · rw [hnil'] at h
        obtain rfl : _ = f := h
        exact hf.elim
      · rw [sequence_cons f hnil'] at h
        obtain ⟨rfl, hrest⟩ := Expression.seq.inj h
        rw [ih hnil hnil' herest hfrest hrest]

/-! ### Atoms -/

/-- An expression that takes characters and asks nothing of what stands around them. -/
inductive Atom
  | one (set : CharSet)
  | many (set : CharSet)
  deriving DecidableEq, Repr

namespace Atom

def expression : Atom → Expression
  | one set => .one set
  | many set => .many set

/-- The atom takes the text: one character of its set, or any number of them. -/
def Takes : Atom → List Char → Prop
  | one set, text => ∃ c, text = [c] ∧ set.contains c = true
  | many set, text => ∀ c ∈ text, set.contains c = true

/-- The atoms take the text, one after the other. -/
def TakeAll : List Atom → List Char → Prop
  | [], text => text = []
  | a :: as, text => ∃ u v, text = u ++ v ∧ a.Takes u ∧ TakeAll as v

theorem matches_expression {a : Atom} {pre mid post : List Char} :
    a.expression.Matches pre mid post ↔ a.Takes mid := by
  cases a <;> exact Iff.rfl

end Atom

theorem matchesAll_atoms {atoms : List Atom} {pre mid post : List Char} :
    MatchesAll (atoms.map Atom.expression) pre mid post ↔ Atom.TakeAll atoms mid := by
  induction atoms generalizing pre mid with
  | nil => exact Iff.rfl
  | cons a atoms ih =>
    rw [List.map_cons, MatchesAll, Atom.TakeAll]
    refine exists_congr fun u => exists_congr fun v => and_congr_right fun _ => ?_
    rw [Atom.matches_expression, ih]

theorem takeAll_singleton {a : Atom} {text : List Char} : Atom.TakeAll [a] text ↔ a.Takes text := by
  constructor
  · rintro ⟨u, v, rfl, hu, rfl⟩
    rwa [List.append_nil]
  · intro h
    exact ⟨text, [], (List.append_nil text).symm, h, rfl⟩

/-- Atoms of one character each take the text of these characters. -/
theorem takeAll_literal {literal text : List Char} :
    Atom.TakeAll (literal.map fun c => .one (.only c)) text ↔ text = literal := by
  induction literal generalizing text with
  | nil => exact Iff.rfl
  | cons c literal ih =>
    constructor
    · rintro ⟨u, v, rfl, ⟨d, rfl, hd⟩, hv⟩
      rw [← eq_of_beq hd, ih.mp hv]
      rfl
    · rintro rfl
      exact ⟨[c], literal, rfl, ⟨c, rfl, beq_self_eq_true c⟩, ih.mpr rfl⟩

theorem takeAll_append {as bs : List Atom} {text : List Char} :
    Atom.TakeAll (as ++ bs) text ↔
      ∃ u v, text = u ++ v ∧ Atom.TakeAll as u ∧ Atom.TakeAll bs v := by
  have h : MatchesAll (as.map Atom.expression ++ bs.map Atom.expression) [] text [] ↔ _ :=
    matchesAll_append
  rw [← List.map_append] at h
  simpa only [matchesAll_atoms] using h

/-- The characters that the atom takes. -/
def Atom.set : Atom → CharSet
  | one set => set
  | many set => set

/-- What atoms take is made of what their sets hold. -/
theorem exists_contains_of_mem {atoms : List Atom} {text : List Char}
    (h : Atom.TakeAll atoms text) {c : Char} (hc : c ∈ text) :
    ∃ a ∈ atoms, a.set.contains c = true := by
  induction atoms generalizing text with
  | nil =>
    obtain rfl : text = [] := h
    cases hc
  | cons a atoms ih =>
    obtain ⟨u, v, rfl, hu, hv⟩ := h
    rcases List.mem_append.mp hc with hc | hc
    · refine ⟨a, List.mem_cons_self .., ?_⟩
      cases a with
      | one set =>
        obtain ⟨d, rfl, hd⟩ := hu
        rw [List.mem_singleton.mp hc]
        exact hd
      | many set => exact hu c hc
    · obtain ⟨b, hb, hset⟩ := ih hv hc
      exact ⟨b, List.mem_cons_of_mem _ hb, hset⟩

end ExcludeRules.Expression
