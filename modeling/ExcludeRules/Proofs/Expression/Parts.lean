/-
Texts that are read on their own.

`Reads text parts` says that `text` becomes the same `parts` wherever it stands
outside of brackets and groups; such texts are written side by side and read part
by part.  A text that leaves a bracket expression open is `Unclosed`; what stands
behind it is swallowed.  Main statements:
  * `Reads.append` : two texts side by side;
  * `Reads.read_eq` : a text alone reads as the sequence of its parts;
  * `Unclosed.read_eq` : no text that stands around it mends an open bracket.
-/
import ExcludeRules.Proofs.Expression.Brackets

namespace ExcludeRules.Expression

/-- Wherever it stands outside of brackets and groups, the text becomes these parts. -/
def Reads (text : List Char) (parts : List Expression) : Prop :=
  ∃ gs ps, glyphs text = .ok gs ∧ Mode.outside.run gs = .ok (.outside, ps) ∧
    ∀ before rest, assemble [] ⟨none, before⟩ (ps ++ rest) =
      assemble [] ⟨none, parts.reverse ++ before⟩ rest

/-- The text is at fault, or it leaves a bracket expression open. -/
def Unclosed (text : List Char) : Prop :=
  ∃ gs, glyphs text = .ok gs ∧ Mode.Ends (fun m _ => m.InSet) (Mode.outside.run gs)

theorem Reads.append {a b : List Char} {es fs : List Expression} (ha : Reads a es)
    (hb : Reads b fs) : Reads (a ++ b) (es ++ fs) := by
  obtain ⟨gs, ps, hgs, hps, hes⟩ := ha
  obtain ⟨hs, qs, hhs, hqs, hfs⟩ := hb
  refine ⟨gs ++ hs, ps ++ qs, ?_, ?_, ?_⟩
  · rw [glyphs_append hgs, hhs]
    rfl
  · rw [Mode.run_append, hps, Outcome.ok_bind, hqs]
    rfl
  · intro before rest
    rw [List.append_assoc, hes, hfs, List.reverse_append, List.append_assoc]

theorem Reads.read_eq {text : List Char} {parts : List Expression} (h : Reads text parts) :
    read text = .ok (OpenGroup.sequence parts.reverse) := by
  obtain ⟨gs, ps, hgs, hps, hparts⟩ := h
  have hpieces : pieces none gs = .ok ps := by
    rw [pieces_eq_read, Mode.ofSet, Mode.read, hps]
    rfl
  have hassemble := hparts [] []
  rw [List.append_nil, List.append_nil] at hassemble
  rw [read, hgs, Outcome.ok_bind, hpieces, Outcome.ok_bind]
  exact hassemble

theorem reads_atoms {text : List Char} {gs : List Glyph} {atoms : List Atom}
    (hgs : glyphs text = .ok gs)
    (hrun : Mode.outside.run gs = .ok (.outside, atoms.flatMap Atom.pieces)) :
    Reads text (atoms.map Atom.expression) :=
  ⟨gs, _, hgs, hrun, fun _ _ => assemble_atoms⟩

/-- What stands around an open bracket does not mend it, unless it closes a bracket. -/
theorem Unclosed.read_eq {a b c : List Char} {es : List Expression} {cs : List Glyph}
    (hb : Unclosed b) (ha : Reads a es) (hc : glyphs c = .ok cs)
    (hcs : ∀ g ∈ cs, g ≠ .plain ']') :
    ∃ f : Fault, f.OfSet ∧ read (a ++ b ++ c) = .error f := by
  obtain ⟨gs, ps, hgs, hps, -⟩ := ha
  obtain ⟨hs, hhs, hends⟩ := hb
  have hglyphs : glyphs (a ++ b ++ c) = .ok (gs ++ hs ++ cs) := by
    have hab : glyphs (a ++ b) = .ok (gs ++ hs) := by
      rw [glyphs_append hgs, hhs]
      rfl
    rw [glyphs_append hab, hc]
    rfl
  -- in front of the bracket nothing is open, behind it nothing closes it
  have hhead : Mode.Ends (fun m _ => m = .outside) (Mode.outside.run gs) := by
    rw [hps]
    rfl
  have hbody : Mode.Ends (fun m _ => m.InSet) (Mode.outside.run (gs ++ hs)) := by
    refine hhead.append ?_
    rintro m' _ rfl
    exact hends
  have hall : Mode.Ends (fun m _ => m.InSet) (Mode.outside.run (gs ++ hs ++ cs)) := by
    refine hbody.append fun m' _ hm' => ?_
    exact (Mode.ends_run hm' hcs).imp fun _ _ h => h.1
  obtain ⟨f, hf, hread⟩ := Mode.read_of_ends hall
  refine ⟨f, hf, ?_⟩
  rw [read, hglyphs, Outcome.ok_bind, pieces_eq_read, Mode.ofSet, hread]
  rfl

end ExcludeRules.Expression
