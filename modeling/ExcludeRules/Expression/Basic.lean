/-
Regular expressions of the kind that rules are turned into, and what they match.

An expression matches part of a text in its surroundings: `start` asks that
nothing stands before, `finish` that nothing or one last line feed stands after.
Repetition is of one character set only, which is all that a rule needs.

`Expression.Matches` says what an expression matches; `Expression.accepts`
computes whether it matches a whole text.
-/

namespace ExcludeRules

/-- A condition on one character. -/
inductive CharSet
  | any
  | only (c : Char)
  /-- A bracket expression: closed ranges, or all that is in none of them. -/
  | ranges (negated : Bool) (members : List (Char × Char))
  deriving DecidableEq, Repr

namespace CharSet

def contains : CharSet → Char → Bool
  | any, _ => true
  | only a, c => a == c
  | ranges negated members, c => (members.any fun r => r.1 ≤ c && c ≤ r.2) != negated

end CharSet

inductive Expression
  | empty
  | one (set : CharSet)
  /-- Any number of characters of a set. -/
  | many (set : CharSet)
  | start
  | finish
  | seq (e f : Expression)
  | alt (e f : Expression)
  | optional (e : Expression)
  deriving DecidableEq, Repr

namespace Expression

/-- The expression matches `mid` where it stands between `pre` and `post`. -/
def Matches : Expression → (pre mid post : List Char) → Prop
  | empty, _, mid, _ => mid = []
  | one set, _, mid, _ => ∃ c, mid = [c] ∧ set.contains c = true
  | many set, _, mid, _ => ∀ c ∈ mid, set.contains c = true
  | start, pre, mid, _ => mid = [] ∧ pre = []
  | finish, _, mid, post => mid = [] ∧ (post = [] ∨ post = ['\n'])
  | seq e f, pre, mid, post =>
    ∃ u v, mid = u ++ v ∧ e.Matches pre u (v ++ post) ∧ f.Matches (pre ++ u) v post
  | alt e f, pre, mid, post => e.Matches pre mid post ∨ f.Matches pre mid post
  | optional e, pre, mid, post => mid = [] ∨ e.Matches pre mid post

/-! ### Computing matches

A list of marks says which places of a text are reached: one mark for the place
before each character and one for the end.  An expression moves the marks from
the places where its match may begin to those where it may end.
-/

/-- The places after one character of the set. -/
def shift (set : CharSet) (text : List Char) (marks : List Bool) : List Bool :=
  false :: List.zipWith (fun c m => m && set.contains c) text marks

/-- The places after any number of characters of the set; `carry` is reached from before. -/
def spread (set : CharSet) (carry : Bool) : List Char → List Bool → List Bool
  | c :: text, m :: marks => (carry || m) :: spread set ((carry || m) && set.contains c) text marks
  | [], m :: _ => [carry || m]
  | _, [] => []

/-- Keeps the mark at the start of the text. -/
def keepStart : List Bool → List Bool
  | [] => []
  | m :: marks => m :: marks.map fun _ => false

/-- Keeps the marks at the end of the text and before a line feed that ends it. -/
def keepFinish : List Char → List Bool → List Bool
  | c :: text, m :: marks => (m && c == '\n' && text.isEmpty) :: keepFinish text marks
  | [], m :: _ => [m]
  | _, [] => []

/-- Moves the marks over a match of the expression. -/
def advance (text : List Char) : Expression → List Bool → List Bool
  | empty, marks => marks
  | one set, marks => shift set text marks
  | many set, marks => spread set false text marks
  | start, marks => keepStart marks
  | finish, marks => keepFinish text marks
  | seq e f, marks => advance text f (advance text e marks)
  | alt e f, marks => List.zipWith (· || ·) (advance text e marks) (advance text f marks)
  | optional e, marks => List.zipWith (· || ·) marks (advance text e marks)

/-- Whether the expression matches the whole text. -/
def accepts (e : Expression) (text : List Char) : Bool :=
  (advance text e (true :: text.map fun _ => false)).getLast?.getD false

end Expression

end ExcludeRules
