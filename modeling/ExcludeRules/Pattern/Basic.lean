/-
Compiled rules.

A line of a rule file is blank, a comment or a rule; only a rule ever matches.
Two patterns are the same when they are of one kind and agree in what that kind
is about: rules in their expression, comments in their text, blanks in nothing.
Main statements:
  * `compileRule_of_compile_error` : blank lines and comments are never refused;
  * `same_refl`, `same_symm` : being the same is an equivalence.
-/
import ExcludeRules.Rule.Basic
import ExcludeRules.Text.Blank

namespace ExcludeRules

inductive PatternKind
  | blank
  | comment
  | compiled
  deriving DecidableEq, Repr

namespace PatternKind

def word : PatternKind → String
  | blank => "blank"
  | comment => "comment"
  | compiled => "compiled"

def name : PatternKind → String
  | blank => "BLANK"
  | comment => "COMMENT"
  | compiled => "COMPILED"

end PatternKind

/-- A rule with the expression that it was turned into, as text and as read. -/
structure CompiledRule where
  text : String
  source : String
  expression : Expression
  directoryOnly : Bool
  deriving DecidableEq, Repr

/-- A line of a rule file. -/
inductive Pattern
  | blank (text : Option String)
  | comment (text : String)
  | compiled (rule : CompiledRule)
  deriving DecidableEq, Repr

namespace Pattern

def kind : Pattern → PatternKind
  | blank _ => .blank
  | comment _ => .comment
  | compiled _ => .compiled

def text : Pattern → Option String
  | blank text => text
  | comment text => text
  | compiled rule => rule.text

/-- The text of the expression of a rule. -/
def source? : Pattern → Option String
  | compiled rule => rule.source
  | _ => none

def directoryOnly : Pattern → Bool
  | compiled rule => rule.directoryOnly
  | _ => false

def isCompiled : Pattern → Bool
  | compiled _ => true
  | _ => false

/-- What a pattern is shown as: the expression of a rule, the text of anything else. -/
def toString : Pattern → String
  | compiled rule => rule.source
  | p => p.text.getD ""

/-- The pattern with its text quoted and its kind. -/
def describe (p : Pattern) : String :=
  "Pattern(text=" ++ (p.text.map Text.quote).getD "None" ++ ", kind=" ++ p.kind.name ++ ")"

/-- Whether two patterns are the same. -/
def same : Pattern → Pattern → Bool
  | compiled a, compiled b => a.source == b.source
  | comment a, comment b => a == b
  | blank _, blank _ => true
  | _, _ => false

/-- The patterns without those that are the same as an earlier one. -/
def distinct : List Pattern → List Pattern
  | [] => []
  | p :: ps => p :: (distinct ps).filter fun q => !p.same q

/-! ### Compiling -/

/-- The characters that begin a comment. -/
def isCommentMark (c : Char) : Bool := c = '#' || c = ';'

/-- Compiles a text that is neither blank nor a comment. -/
def compileRule (text : String) : Except Rule.Error CompiledRule := do
  let source ← Rule.write text.toList
  let expression ← (Expression.read source).mapError fun fault =>
    ⟨.expression fault, text, none⟩
  return ⟨text, String.ofList source, expression, ← Rule.isDirectoryOnly text.toList⟩

/-- Compiles a line, or nothing at all. -/
def compile : Option String → Except Rule.Error Pattern
  | none => .ok (blank none)
  | some text =>
    match Text.trimLeft text.toList with
    | [] => .ok (blank text)
    | c :: _ => if isCommentMark c then .ok (comment text) else compiled <$> compileRule text

theorem same_refl (p : Pattern) : p.same p = true := by
  cases p <;> simp [same]

theorem same_symm (p q : Pattern) : p.same q = q.same p := by
  cases p <;> cases q <;> simp [same, Bool.beq_comm]

/-- What is refused is refused as a rule. -/
theorem compileRule_of_compile_error {text : String} {e : Rule.Error}
    (h : compile (some text) = .error e) : compileRule text = .error e := by
  cases htrim : Text.trimLeft text.toList with
  | nil => simp [compile, htrim] at h
  | cons c rest =>
    by_cases hc : isCommentMark c = true
    · simp [compile, htrim, hc] at h
    · cases hr : compileRule text with
      | error e' => simpa [compile, htrim, hc, hr, Functor.map, Except.map] using h
      | ok r => simp [compile, htrim, hc, hr, Functor.map, Except.map] at h

end Pattern

end ExcludeRules
