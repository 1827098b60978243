/-
Reading the text of an expression.

Reading has three stages, each on the data that the one before leaves:
  * `glyphs` joins a backslash and what it escapes;
  * `pieces` gathers the members of each bracket expression;
  * `assemble` builds the expression from single characters, repetitions and groups.

A bracket expression is read member by member: a closing bracket that comes
first is a member, a hyphen between two members makes a range of code points,
and a hyphen in front of the closing bracket is a member.  What no rule gives
rise to (counted repetition, capturing groups, …) is refused as `unsupported`,
so that a text that reads is known to hold none of it.
-/
import ExcludeRules.Expression.Basic

namespace ExcludeRules

namespace Expression

/-- Why a text is not an expression. -/
inductive Fault
  | unterminatedSet
  /-- The ends of a range are out of order; each is given as it is written. -/
  | badRange (first last : List Char)
  | badEscape (written : List Char)
  | nothingToRepeat
  | multipleRepeat
  | unclosedGroup
  | unopenedGroup
  | unsupported (c : Char)
  deriving DecidableEq, Repr

def Fault.message : Fault → String
  | .unterminatedSet => "unterminated character set"
  | .badRange first last =>
    "bad character range " ++ String.ofList first ++ "-" ++ String.ofList last
  | .badEscape written => "bad escape " ++ String.ofList written
  | .nothingToRepeat => "nothing to repeat"
  | .multipleRepeat => "multiple repeat"
  | .unclosedGroup => "missing ), unterminated subpattern"
  | .unopenedGroup => "unbalanced parenthesis"
  | .unsupported c => "unsupported " ++ String.ofList [c]

/-! ### Glyphs -/

/-- A character as it is written, or an escape with the character that it stands for. -/
inductive Glyph
  | plain (c : Char)
  | escape (written : Char) (c : Char)
  deriving DecidableEq, Repr

namespace Glyph

/-- The character that the glyph stands for as a member of a set. -/
def char : Glyph → Char
  | plain c => c
  | escape _ c => c

/-- The glyph as a fault names it: of a code in hexadecimal only the letter is given. -/
def written : Glyph → List Char
  | plain c => [c]
  | escape w _ => ['\\', w]

end Glyph

/-- The character that a backslash and a letter stand for. -/
def letterEscape? : Char → Option Char
  | 't' => some '\t'
  | 'n' => some '\n'
  | 'r' => some '\r'
  | 'v' => some '\x0b'
  | 'f' => some '\x0c'
  | _ => none

def hexValue? (c : Char) : Option Nat :=
  if '0' ≤ c ∧ c ≤ '9' then some (c.toNat - '0'.toNat)
  else if 'a' ≤ c ∧ c ≤ 'f' then some (c.toNat - 'a'.toNat + 10)
  else if 'A' ≤ c ∧ c ≤ 'F' then some (c.toNat - 'A'.toNat + 10)
  else none

/-- Joins each backslash to the character, or to the two-digit code, that it escapes. -/
def glyphs : List Char → Except Fault (List Glyph)
  | [] => .ok []
  | ['\\'] => .error (.badEscape "(end of pattern)".toList)
  | '\\' :: 'x' :: h :: l :: rest =>
    match hexValue? h, hexValue? l with
    | some a, some b => return .escape 'x' (Char.ofNat (16 * a + b)) :: (← glyphs rest)
    | _, _ => .error (.badEscape ['\\', 'x'])
  | '\\' :: c :: rest =>
    if c.isAlphanum then
      match letterEscape? c with
      | some image => return .escape c image :: (← glyphs rest)
      | none => .error (.badEscape ['\\', c])
    else return .escape c c :: (← glyphs rest)
  | c :: rest => return .plain c :: (← glyphs rest)

/-! ### Pieces -/

/-- A part of an expression that is no longer made of characters. -/
inductive Piece
  | one (set : CharSet)
  | start
  | finish
  | star
  | option
  | bar
  | openGroup
  | closeGroup
  deriving DecidableEq, Repr

/-- A glyph outside a bracket expression. -/
def Piece.ofGlyph : Glyph → Except Fault Piece
  | .escape _ c => .ok (.one (.only c))
  | .plain '.' => .ok (.one .any)
  | .plain '^' => .ok .start
  | .plain '$' => .ok .finish
  | .plain '*' => .ok .star
  | .plain '?' => .ok .option
  | .plain '|' => .ok .bar
  | .plain ')' => .ok .closeGroup
  | .plain c => if c ∈ ['+', '{', '('] then .error (.unsupported c) else .ok (.one (.only c))

/-- A bracket expression that is being read: its members so far, the last first. -/
structure OpenSet where
  negated : Bool
  members : List (Char × Char)

/-- The set with one more member or range. -/
def OpenSet.push (set : OpenSet) (first last : Char) : OpenSet :=
  { set with members := (first, last) :: set.members }

def OpenSet.close (set : OpenSet) : Piece :=
  .one (.ranges set.negated set.members.reverse)

/-- Gathers bracket expressions; the first argument is the one that is open, if any. -/
def pieces : Option OpenSet → List Glyph → Except Fault (List Piece)
  | none, [] => .ok []
  | some _, [] => .error .unterminatedSet
  | none, .plain '[' :: .plain '^' :: rest => pieces (some ⟨true, []⟩) rest
  | none, .plain '[' :: rest => pieces (some ⟨false, []⟩) rest
  | none, .plain '(' :: .plain '?' :: .plain ':' :: rest =>
    return .openGroup :: (← pieces none rest)
  | none, g :: rest => return (← Piece.ofGlyph g) :: (← pieces none rest)
  | some set, [g] =>
    if g = .plain ']' ∧ set.members ≠ [] then return [set.close] else .error .unterminatedSet
  | some set, g :: g₁ :: rest =>
    if g = .plain ']' ∧ set.members ≠ [] then return set.close :: (← pieces none (g₁ :: rest))
    else if g₁ = .plain '-' then
      match rest with
      | [] => .error .unterminatedSet
      | g₂ :: rest =>
        if g₂ = .plain ']' then
          return ((set.push g.char g.char).push '-' '-').close :: (← pieces none rest)
        else if g₂.char < g.char then .error (.badRange g.written g₂.written)
        else pieces (some (set.push g.char g₂.char)) rest
    else pieces (some (set.push g.char g.char)) (g₁ :: rest)

/-! ### Assembly -/

/-- A group that is being read: the alternatives before, and the parts of this one, last first. -/
structure OpenGroup where
  alternatives : Option Expression
  parts : List Expression

namespace OpenGroup

def nil : OpenGroup := ⟨none, []⟩

def push (g : OpenGroup) (e : Expression) : OpenGroup := { g with parts := e :: g.parts }

/-- The expressions one after the other, given last first. -/
def sequence : List Expression → Expression
  | [] => .empty
  | e :: before => before.foldl (fun after e => .seq e after) e

/-- Ends the alternative that is being read. -/
def close (g : OpenGroup) : Expression :=
  match g.alternatives with
  | none => sequence g.parts
  | some e => .alt e (sequence g.parts)

end OpenGroup

/-- Whether an expression is a repetition, which cannot be repeated again. -/
def isRepeat : Expression → Bool
  | many _ => true
  | optional _ => true
  | _ => false

/-- Makes the last part a repetition by `f`. -/
def repeatLast (c : Char) (f : Expression → Option Expression) (g : OpenGroup) :
    Except Fault OpenGroup :=
  match g.parts with
  | [] => .error .nothingToRepeat
  | .start :: _ => .error .nothingToRepeat
  | .finish :: _ => .error .nothingToRepeat
  | e :: parts =>
    if isRepeat e then .error .multipleRepeat
    else match f e with
      | some e => .ok { g with parts := e :: parts }
      | none => .error (.unsupported c)

/-- Builds the expression; `outer` are the groups around the one that is being read. -/
def assemble (outer : List OpenGroup) (g : OpenGroup) : List Piece → Except Fault Expression
  | [] => if outer.isEmpty then .ok g.close else .error .unclosedGroup
  | .one set :: rest => assemble outer (g.push (.one set)) rest
  | .start :: rest => assemble outer (g.push .start) rest
  | .finish :: rest => assemble outer (g.push .finish) rest
  | .star :: rest => do
    let many? : Expression → Option Expression
      | .one set => some (.many set)
      | _ => none
    assemble outer (← repeatLast '*' many? g) rest
  | .option :: rest => do
    assemble outer (← repeatLast '?' (some <| .optional ·) g) rest
  | .bar :: rest => assemble outer ⟨some g.close, []⟩ rest
  | .openGroup :: rest => assemble (g :: outer) .nil rest
  | .closeGroup :: rest =>
    match outer with
    | [] => .error .unopenedGroup
    | g₁ :: outer => assemble outer (g₁.push g.close) rest

/-- The expression that a text stands for. -/
def read (text : List Char) : Except Fault Expression := do
  assemble [] .nil (← pieces none (← glyphs text))

end Expression

end ExcludeRules
