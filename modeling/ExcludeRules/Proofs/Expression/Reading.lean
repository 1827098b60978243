/-
Reading an expression glyph by glyph.

`pieces` looks ahead by up to two glyphs.  Here the same reading is a machine
that takes one glyph at a time: its mode says what a bracket expression or the
opening of a group still waits for.  A text that is written in parts is then read
part by part.  Main statements:
  * `glyphs_append` : the glyphs of a text in two parts;
  * `pieces_eq_read` : the machine reads what `pieces` reads, with the same faults;
  * `run_append` : the machine goes on where it stopped;
  * `assemble_atoms` : the pieces of atoms become the atoms.
-/
import ExcludeRules.Proofs.Expression.Language
import ExcludeRules.Proofs.Outcome

namespace ExcludeRules.Expression

theorem glyphs_append {a b : List Char} {gs : List Glyph} (h : glyphs a = .ok gs) :
    glyphs (a ++ b) = (gs ++ ·) <$> glyphs b := by
  -- a glyph in front of a text that can be read is a glyph in front of both parts
  have hcons : ∀ {g : Glyph} {rest : List Char} {gs : List Glyph},
      (∀ {gs : List Glyph}, glyphs rest = .ok gs →
        glyphs (rest ++ b) = (gs ++ ·) <$> glyphs b) →
      (do return g :: (← glyphs rest)) = Except.ok gs →
      (do return g :: (← glyphs (rest ++ b))) = (gs ++ ·) <$> glyphs b := by
    intro g rest gs ih h
    cases hr : glyphs rest with
    | error f =>
      rw [hr] at h
      cases h
    | ok hs =>
      rw [hr] at h
      cases h
      rw [ih hr]
      cases glyphs b <;> rfl
  fun_induction glyphs a generalizing gs with
  | case1 =>
    cases h
    cases hb : glyphs b <;> simp [hb, Functor.map, Except.map]
  | case2 => cases h
  | case3 x y rest m n hy hx ih =>
    -- the second part cannot lengthen this escape: both its digits are in the first
    have hstep : glyphs ('\\' :: 'x' :: x :: y :: rest ++ b) =
        (do return Glyph.escape 'x' (Char.ofNat (16 * m + n)) :: (← glyphs (rest ++ b))) := by
      simp [glyphs, hx, hy]
    rw [hstep]
    exact hcons ih h
  | case4 => cases h
  | case5 c rest hx hc image himage ih =>
    have hstep : glyphs ('\\' :: c :: rest ++ b) =
        (do return Glyph.escape c image :: (← glyphs (rest ++ b))) := by
      have hne : c ≠ 'x' := by
        rintro rfl
        simp [letterEscape?] at himage
      simp [glyphs, hne, hc, himage]
    rw [hstep]
    exact hcons ih h
  | case6 => cases h
  | case7 c rest hx hc ih =>
    have hstep : glyphs ('\\' :: c :: rest ++ b) =
        (do return Glyph.escape c c :: (← glyphs (rest ++ b))) := by
      have hne : c ≠ 'x' := by
        rintro rfl
        exact hc (by decide)
      simp [glyphs, hne, hc]
    rw [hstep]
    exact hcons ih h
  | case8 c rest h₁ h₂ h₃ ih =>
    have hstep : glyphs (c :: rest ++ b) =
        (do return Glyph.plain c :: (← glyphs (rest ++ b))) := by
      have hne : c ≠ '\\' := by
        rintro rfl
        cases rest with
        | nil => exact h₁ rfl rfl
        | cons d rest => exact h₃ d rest rfl rfl
      simp [glyphs, hne]
    rw [hstep]
    exact hcons ih h

/-! ### The machine -/

/-- What the reading of a bracket expression or of a group still waits for. -/
inductive Mode
  | outside
  /-- After an opening parenthesis. -/
  | paren
  /-- After `(?`. -/
  | parenMark
  /-- After an opening bracket. -/
  | opened
  | members (set : OpenSet)
  /-- After a glyph that may begin a range. -/
  | pending (set : OpenSet) (first : Glyph)
  /-- After a glyph and a hyphen. -/
  | ranging (set : OpenSet) (first : Glyph)

namespace Mode

/-- The mode after a glyph that is a member of the set or closes it. -/
def ofMember (set : OpenSet) (g : Glyph) : Mode × List Piece :=
  if g = .plain ']' ∧ set.members ≠ [] then (outside, [set.close]) else (pending set g, [])

/-- The mode after one more glyph, and the pieces that it completes. -/
def step : Mode → Glyph → Except Fault (Mode × List Piece)
  | outside, g =>
    if g = .plain '[' then .ok (opened, [])
    else if g = .plain '(' then .ok (paren, [])
    else return (outside, [← Piece.ofGlyph g])
  | paren, g => if g = .plain '?' then .ok (parenMark, []) else .error (.unsupported '(')
  | parenMark, g =>
    if g = .plain ':' then .ok (outside, [.openGroup]) else .error (.unsupported '(')
  | opened, g => .ok (if g = .plain '^' then (members ⟨true, []⟩, []) else ofMember ⟨false, []⟩ g)
  | members set, g => .ok (ofMember set g)
  | pending set first, g =>
    .ok (if g = .plain '-' then (ranging set first, [])
      else ofMember (set.push first.char first.char) g)
  | ranging set first, g =>
    if g = .plain ']' then
      .ok (outside, [((set.push first.char first.char).push '-' '-').close])
    else if g.char < first.char then .error (.badRange first.written g.written)
    else .ok (members (set.push first.char g.char), [])

/-- The mode after some glyphs, and the pieces that they complete. -/
def run : Mode → List Glyph → Except Fault (Mode × List Piece)
  | m, [] => .ok (m, [])
  | m, g :: gs => do
    let (m, ps) ← m.step g
    let (m, qs) ← m.run gs
    return (m, ps ++ qs)

/-- The pieces of a reading that is over; it may end outside of brackets only. -/
def finish : Mode × List Piece → Except Fault (List Piece)
  | (outside, ps) => .ok ps
  | (paren, _) => .error (.unsupported '(')
  | (parenMark, _) => .error (.unsupported '(')
  | _ => .error .unterminatedSet

/-- The mode in which `pieces` reads on. -/
def ofSet : Option OpenSet → Mode
  | none => outside
  | some set => members set

/-- Reads to the end of the text. -/
def read (m : Mode) (gs : List Glyph) : Except Fault (List Piece) := m.run gs >>= finish

theorem finish_append (m : Mode) (ps qs : List Piece) :
    finish (m, ps ++ qs) = (ps ++ ·) <$> finish (m, qs) := by
  cases m <;> rfl

theorem run_cons (m : Mode) (g : Glyph) (gs : List Glyph) :
    m.run (g :: gs) =
      m.step g >>= fun r => (fun q => (q.1, r.2 ++ q.2)) <$> r.1.run gs := by
  rw [run]
  cases m.step g with
  | error f => rfl
  | ok r => cases h : r.1.run gs <;> simp [h]

theorem run_append (m : Mode) (gs hs : List Glyph) :
    m.run (gs ++ hs) =
      m.run gs >>= fun r => (fun q => (q.1, r.2 ++ q.2)) <$> r.1.run hs := by
  induction gs generalizing m with
  | nil => cases h : m.run hs <;> simp [run, h]
  | cons g gs ih =>
    rw [List.cons_append, run_cons, run_cons]
    cases m.step g with
    | error f => rfl
    | ok r =>
      rw [Outcome.ok_bind, ih, Outcome.ok_bind]
      cases r.1.run gs with
      | error f => rfl
      | ok q => cases h : q.1.run hs <;> simp [h]

/-- Glyphs that complete nothing only change the mode. -/
theorem run_append_of_nil {m m' : Mode} {gs : List Glyph} (h : m.run gs = .ok (m', []))
    (hs : List Glyph) : m.run (gs ++ hs) = m'.run hs := by
  rw [run_append, h, Outcome.ok_bind]
  cases m'.run hs <;> rfl

theorem read_cons (m : Mode) (g : Glyph) (gs : List Glyph) :
    m.read (g :: gs) = m.step g >>= fun r => (r.2 ++ ·) <$> r.1.read gs := by
  rw [read, run_cons]
  cases m.step g with
  | error f => rfl
  | ok r =>
    cases h : r.1.run gs with
    | error f => simp [read, h]
    | ok q => simpa [read, h] using finish_append q.1 r.2 q.2

theorem run_singleton (m : Mode) (g : Glyph) : m.run [g] = m.step g := by
  rw [run_cons]
  cases m.step g with
  | error f => rfl
  | ok r => simp [run]

end Mode

/-- A glyph outside of brackets that opens nothing is a piece of its own. -/
theorem Mode.step_outside {g : Glyph} (hb : g ≠ .plain '[') (hp : g ≠ .plain '(') :
    Mode.outside.step g = (fun p => (Mode.outside, [p])) <$> Piece.ofGlyph g := by
  simp [Mode.step, hb, hp]

/-- A parenthesis that does not open a group is refused. -/
theorem Mode.read_paren {gs : List Glyph}
    (h : ∀ rest, gs ≠ .plain '?' :: .plain ':' :: rest) :
    Mode.paren.read gs = .error (.unsupported '(') := by
  match gs with
  | [] => rfl
  | [g] =>
    by_cases hg : g = .plain '?'
    · simp [Mode.read_cons, Mode.step, hg]
      rfl
    · simp [Mode.read_cons, Mode.step, hg]
  | g :: g₁ :: gs =>
    by_cases hg : g = .plain '?'
    · have hg₁ : g₁ ≠ .plain ':' := fun h₁ => h gs (by rw [hg, h₁])
      simp [Mode.read_cons, Mode.step, hg, hg₁]
    · simp [Mode.read_cons, Mode.step, hg]

/-- The machine reads what `pieces` reads, and finds the same faults. -/
theorem pieces_eq_read (open? : Option OpenSet) (gs : List Glyph) :
    pieces open? gs = (Mode.ofSet open?).read gs := by
  fun_induction pieces open? gs with
  -- outside of brackets: the end, and what opens a bracket expression or a group
  | case1 => rfl
  | case2 set => rfl
  | case3 rest ih => simp [ih, Mode.read_cons, Mode.ofSet, Mode.step]
  | case4 rest hrest ih =>
    rw [ih]
    cases rest with
    | nil => rfl
    | cons g rest =>
      have hg : g ≠ .plain '^' := fun h => hrest rest (by rw [h])
      simp [Mode.read_cons, Mode.ofSet, Mode.step, hg]
  | case5 rest ih => simp [ih, Mode.read_cons, Mode.ofSet, Mode.step]
  | case6 g rest _ hbracket hgroup ih =>
    rw [ih, Mode.ofSet, Mode.read_cons]
    by_cases hp : g = .plain '('
    · -- `pieces` refuses the parenthesis at once, the machine at one of the next two glyphs
      have hrest : ∀ tail, rest ≠ .plain '?' :: .plain ':' :: tail := fun tail => hgroup tail hp
      simp [hp, Mode.step, Mode.read_paren hrest, Piece.ofGlyph]
    · rw [Mode.step_outside hbracket hp]
      cases Piece.ofGlyph g <;> simp
  -- between brackets: two or three glyphs of a member are as many modes of the machine
  | case7 set g h => simp [Mode.read_cons, Mode.ofSet, Mode.step, Mode.ofMember, h]; rfl
  | case8 set g h => simp [Mode.read_cons, Mode.ofSet, Mode.step, Mode.ofMember, h]; rfl
  | case9 set g g₁ rest h ih =>
    rw [ih]
    simp [Mode.read_cons, Mode.ofSet, Mode.step, Mode.ofMember, h]
  | case10 set g h => simp [Mode.read_cons, Mode.ofSet, Mode.step, Mode.ofMember, h]; rfl
  | case11 set g h rest ih =>
    rw [ih]
    simp [Mode.read_cons, Mode.ofSet, Mode.step, Mode.ofMember, h]
  | case12 set g h g₂ rest h₂ hlt =>
    simp [Mode.read_cons, Mode.ofSet, Mode.step, Mode.ofMember, h, h₂, hlt]
  | case13 set g h g₂ rest h₂ hlt ih =>
    rw [ih]
    simp [Mode.read_cons, Mode.ofSet, Mode.step, Mode.ofMember, h, h₂, hlt]
  | case14 set g g₁ rest h h₁ ih =>
    rw [ih]
    simp [Mode.read_cons, Mode.ofSet, Mode.step, Mode.ofMember, h, h₁]

/-! ### Assembling atoms -/

/-- The pieces of an atom. -/
def Atom.pieces : Atom → List Piece
  | one set => [.one set]
  | many set => [.one set, .star]

theorem assemble_atoms {outer : List OpenGroup} {g : OpenGroup} {atoms : List Atom}
    {rest : List Piece} :
    assemble outer g (atoms.flatMap Atom.pieces ++ rest) =
      assemble outer { g with parts := (atoms.map Atom.expression).reverse ++ g.parts } rest := by
  induction atoms generalizing g with
  | nil => rfl
  | cons a atoms ih =>
    rw [List.flatMap_cons, List.append_assoc, List.map_cons, List.reverse_cons]
    have hfirst : assemble outer g (a.pieces ++ (atoms.flatMap Atom.pieces ++ rest)) =
        assemble outer (g.push a.expression) (atoms.flatMap Atom.pieces ++ rest) := by
      cases a <;> rfl
    rw [hfirst, ih, OpenGroup.push, List.append_assoc]
    rfl

end ExcludeRules.Expression
