/-
Why the text of a rule is refused, and how the refusal is worded.

An error names the text that was being read and, where one is known, the place
in it.  Main statement:
  * `checkSize_eq_ok_iff` : the texts that are small enough.
-/
import ExcludeRules.Expression.Reader
import ExcludeRules.Text.Quoted

namespace ExcludeRules

/-- The kinds of failure by which every error of the library is numbered. -/
inductive ErrorCode
  | invalidInput
  | notFound
  | patternSyntax
  | internalError
  deriving DecidableEq, Repr

namespace ErrorCode

def number : ErrorCode → Nat
  | invalidInput => 1
  | notFound => 2
  | patternSyntax => 3
  | internalError => 6

def name : ErrorCode → String
  | invalidInput => "INVALID_INPUT"
  | notFound => "NOT_FOUND"
  | patternSyntax => "PATTERN_SYNTAX"
  | internalError => "INTERNAL_ERROR"

def all : List ErrorCode := [invalidInput, notFound, patternSyntax, internalError]

end ErrorCode

namespace Rule

/-- The greatest number of characters of a rule. -/
def maxLength : Nat := 4096

/-- The greatest number of wildcards of a rule. -/
def maxWildcards : Nat := 256

inductive Cause
  /-- The rule would include what it matches. -/
  | includes
  | empty
  | tooLong
  | tooManyWildcards
  /-- A class is not written `[[:name:]]`. -/
  | malformedClass
  | unknownClass (name : List Char)
  /-- The expression of the rule cannot be read. -/
  | expression (fault : Expression.Fault)
  /-- The cause lies in one line of a file. -/
  | inFile (path : String) (line : Nat) (cause : Cause)
  /-- A reason in the caller's words. -/
  | stated (reason : String)
  deriving DecidableEq, Repr

def Cause.description : Cause → String
  | includes => "Include operations unsupported (cannot start with + and space)"
  | empty => "Empty rule"
  | tooLong => "Rule longer than " ++ toString maxLength ++ " characters (too complex)"
  | tooManyWildcards =>
    "Rule uses more than " ++ toString maxWildcards ++ " wildcards (too complex)"
  | malformedClass => "Invalid POSIX class format"
  | unknownClass name => "Unknown POSIX class " ++ Text.quote (String.ofList name)
  | expression fault => "Invalid rule (" ++ fault.message ++ ")"
  | inFile path line cause => path ++ ":" ++ toString line ++ ": " ++ cause.description
  | stated reason => reason

/-- A text that is not a rule. -/
structure Error where
  cause : Cause
  /-- The text, if there was one. -/
  pattern : Option String
  /-- The place in the text that is at fault. -/
  index : Option Nat
  deriving DecidableEq, Repr

namespace Error

/-- The description, the text, and the place where one is known. -/
def message (e : Error) : String :=
  let place := match e.index with
    | none => ""
    | some i => " (at index " ++ toString i ++ ")"
  e.cause.description ++ ": " ++ (e.pattern.map Text.quote).getD "None" ++ place

def code (_ : Error) : ErrorCode := .patternSyntax

/-- The error of a line, as the file that holds the line reports it. -/
def inFile (path : String) (line : Nat) (e : Error) : Error :=
  { e with cause := .inFile path line e.cause }

end Error

/-- Refuses a text that is too long or holds too many wildcards. -/
def checkSize (text : List Char) (wildcards : Nat) : Except Error Unit :=
  if maxLength < text.length then .error ⟨.tooLong, String.ofList text, none⟩
  else if maxWildcards < wildcards then .error ⟨.tooManyWildcards, String.ofList text, none⟩
  else .ok ()

theorem checkSize_eq_ok_iff {text : List Char} {wildcards : Nat} :
    checkSize text wildcards = .ok () ↔ text.length ≤ maxLength ∧ wildcards ≤ maxWildcards := by
  unfold checkSize
  split
  · simp; omega
  · split
    · simp; omega
    · simp; omega

end Rule

end ExcludeRules
