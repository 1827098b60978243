/-
Paths: how many slashes stand in front, and the segments behind them.

Exactly two slashes in front are kept apart from one; three or more are one.
Segments are never empty and never a single dot.  Main statements:
  * `ofText_segments` : the segments of a path that is read are proper ones;
  * `isAbsolute_join` : what is joined to an absolute path is absolute.
-/
import ExcludeRules.Text.Split

namespace ExcludeRules

/-- A path; no slash in front makes it relative. -/
structure Path where
  slashes : Nat
  segments : List (List Char)
  deriving DecidableEq, Repr

namespace Path

/-- The number of slashes that the front of a text counts as. -/
def frontSlashes : List Char → Nat
  | '/' :: '/' :: '/' :: _ => 1
  | '/' :: '/' :: _ => 2
  | '/' :: _ => 1
  | _ => 0

/-- Whether a piece between slashes is a segment. -/
def isSegment (piece : List Char) : Bool := piece != [] && piece != ['.']

/-- Reads a path: empty pieces and single dots are left out. -/
def ofText (text : List Char) : Path :=
  ⟨frontSlashes text, (Text.split '/' text).filter isSegment⟩

/-- The segments with a slash between each two; nothing for none. -/
def joined (segments : List (List Char)) : List Char := Text.join '/' segments

/-- Writes a path; the empty relative path is a single dot. -/
def text (p : Path) : List Char :=
  if p.slashes = 0 ∧ p.segments = [] then ['.']
  else List.replicate p.slashes '/' ++ joined p.segments

def toString (p : Path) : String := String.ofList p.text

def isAbsolute (p : Path) : Bool := 0 < p.slashes

/-- The root that an absolute path starts from. -/
def anchor (p : Path) : Path := ⟨p.slashes, []⟩

/-- The path `q` as seen from `p`; an absolute `q` stands for itself. -/
def join (p q : Path) : Path :=
  if q.isAbsolute then q else { p with segments := p.segments ++ q.segments }

/--
Removes each double dot together with the segment before it.  `before` is
reversed; at the root a double dot is dropped, and in front of a relative path it
is kept.
-/
def climb (absolute : Bool) (before : List (List Char)) : List (List Char) → List (List Char)
  | [] => before.reverse
  | piece :: rest =>
    if piece = ['.', '.'] then
      match before with
      | [] => climb absolute (if absolute then [] else [piece]) rest
      | last :: more =>
        if last = ['.', '.'] then climb absolute (piece :: before) rest
        else climb absolute more rest
    else climb absolute (piece :: before) rest

/-- The path without double dots, as far as they can be removed. -/
def normalize (p : Path) : Path := { p with segments := climb p.isAbsolute [] p.segments }

/-- The segments of `p` below `root`, if it is the root or inside it. -/
def below? (root p : Path) : Option (List (List Char)) :=
  if p.slashes = root.slashes ∧ root.segments.isPrefixOf p.segments then
    some (p.segments.drop root.segments.length)
  else none

theorem ofText_segments (text : List Char) :
    ∀ s ∈ (ofText text).segments, s ≠ [] ∧ s ≠ ['.'] := by
  intro s hs
  simp only [ofText, List.mem_filter] at hs
  simpa [isSegment] using hs.2

theorem isAbsolute_join {p q : Path} (h : p.isAbsolute = true) : (p.join q).isAbsolute = true := by
  unfold join
  split
  · assumption
  · exact h

end Path

end ExcludeRules
