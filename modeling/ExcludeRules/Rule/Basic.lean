/-
A rule as a whole: its marker, its anchor, its closing slash and its expression.

A rule may begin with the marker `- `.  A slash in front anchors it at the root
of the transfer, one slash at the end makes it a rule for directories.  The
expression is matched against a whole relative path:
  * an anchored rule begins at its start and covers all that lies below a match;
  * any other rule begins at any segment, and one for directories covers all that
    lies below a match.
-/
import ExcludeRules.Rule.Body

namespace ExcludeRules.Rule

/-- Whether a text ends in one slash and not in two. -/
def endsInOneSlash (text : List Char) : Bool :=
  match text.reverse with
  | '/' :: '/' :: _ => false
  | '/' :: _ => true
  | _ => false

/-- Whether two stars stand side by side. -/
def hasDoubleStar : List Char → Bool
  | '*' :: '*' :: _ => true
  | _ :: rest => hasDoubleStar rest
  | [] => false

/-- A rule without its marker and its anchor. -/
structure Stem where
  rest : List Char
  anchored : Bool
  deriving DecidableEq, Repr

namespace Stem

/-- Removes the marker and the anchor of a rule. -/
def ofText (text : List Char) : Except Error Stem :=
  let rule := if ['-', ' '].isPrefixOf text then text.drop 2 else text
  if ['+', ' '].isPrefixOf rule then .error ⟨.includes, String.ofList text, some 0⟩
  else match rule with
    | [] => .error ⟨.empty, String.ofList text, none⟩
    | '/' :: rest => .ok ⟨rest, true⟩
    | rest => .ok ⟨rest, false⟩

/-- Whether the rule is for directories. -/
def directoryOnly (stem : Stem) : Bool := endsInOneSlash stem.rest

/-- The rule without the slash that makes it one for directories. -/
def body (stem : Stem) : List Char :=
  if stem.directoryOnly then stem.rest.dropLast else stem.rest

/-- Whether the rule names more than the last segment of a path. -/
def spansSegments (stem : Stem) : Bool :=
  stem.rest.dropLast.contains '/' || hasDoubleStar stem.rest

/-- What stands in front of the expression of the body. -/
def head (stem : Stem) : List Char :=
  if stem.anchored then ['^']
  else "(?:.*/)?".toList ++ if stem.spansSegments then "(?:^|.*/)".toList else []

/-- What stands behind the expression of the body. -/
def tail (stem : Stem) : List Char :=
  if stem.anchored then "(?:$|/.*)$".toList
  else if stem.directoryOnly then "(?:/.*)?$".toList else ['$']

end Stem

/-- Whether a rule, its marker and its anchor included, is for directories. -/
def isDirectoryOnly (text : List Char) : Except Error Bool :=
  (Stem.ofText text).map Stem.directoryOnly

/-- An error in the body of a rule as an error of the rule: the place moves by what was removed. -/
def Error.ofBody (text : List Char) (stem : Stem) (e : Error) : Error :=
  { e with
    pattern := String.ofList text
    index := e.index.map (· + (text.length - stem.rest.length)) }

/-- The expression of a rule that is neither blank nor a comment. -/
def write (text : List Char) : Except Error (List Char) := do
  checkSize text 0
  let stem ← Stem.ofText text
  let body ← (writeBody stem.body).mapError (Error.ofBody text stem)
  return stem.head ++ body ++ stem.tail

end ExcludeRules.Rule
