/-
The named character classes of rules, and the bracket expressions they become.

All classes hold ASCII characters only.  A class is named without regard to case.
Main statements:
  * `ofName?_name` : a class is found by its own name;
  * `toExpression_closed` : a class is read from its name between `[[:` and `:]]`.
-/
import ExcludeRules.Rule.Error
import ExcludeRules.Text.Case

namespace ExcludeRules.Rule

inductive CharClass
  | alnum | alpha | ascii | blank | cntrl | digit | graph
  | lower | print | punct | space | upper | word | xdigit
  deriving DecidableEq, Repr

namespace CharClass

def all : List CharClass :=
  [alnum, alpha, ascii, blank, cntrl, digit, graph, lower, print, punct, space, upper, word,
    xdigit]

def name : CharClass → String
  | alnum => "alnum"
  | alpha => "alpha"
  | ascii => "ascii"
  | blank => "blank"
  | cntrl => "cntrl"
  | digit => "digit"
  | graph => "graph"
  | lower => "lower"
  | print => "print"
  | punct => "punct"
  | space => "space"
  | upper => "upper"
  | word => "word"
  | xdigit => "xdigit"

/-- The members of the bracket expression of a class, as they are written. -/
def members : CharClass → String
  | alnum => "a-zA-Z0-9"
  | alpha => "a-zA-Z"
  | ascii => "\\x00-\\x7F"
  | blank => " \\t"
  | cntrl => "\\x00-\\x1F\\x7F"
  | digit => "0-9"
  | graph => "\\x21-\\x7E"
  | lower => "a-z"
  | print => "\\x20-\\x7E"
  | punct => "!\"#$%&'()*+,\\-./:;<=>?@\\[\\\\\\]^_`\x7b|\x7d~"
  | space => " \\t\\r\\n\\v\\f"
  | upper => "A-Z"
  | word => "A-Za-z0-9_"
  | xdigit => "A-Fa-f0-9"

/-- The bracket expression of a class. -/
def expression (cls : CharClass) : List Char := '[' :: cls.members.toList ++ [']']

/-- The class of a name, which may be written in either case. -/
def ofName? (name : List Char) : Option CharClass :=
  all.find? fun cls => cls.name.toList == Text.lower name

theorem ofName?_name (cls : CharClass) : ofName? cls.name.toList = some cls := by
  cases cls <;> decide +kernel

/-- What stands in front of the name of a class. -/
def opening : List Char := ['[', '[', ':']

/-- What stands behind the name of a class that is not followed by more members. -/
def closing : List Char := [':', ']', ']']

/-- The bracket expression of a class that is written out with both its brackets. -/
def toExpression (token : List Char) : Except Error (List Char) :=
  if !(opening.isPrefixOf token && closing.isSuffixOf token) then
    .error ⟨.malformedClass, String.ofList token, none⟩
  else
    let name := (token.drop 3).take (token.length - 6)
    match ofName? name with
    | some cls => .ok cls.expression
    | none => .error ⟨.unknownClass name, String.ofList token, none⟩

/-- A class that is written out and closed is known by its name, or refused for it. -/
theorem toExpression_closed (name : List Char) :
    toExpression (opening ++ name ++ closing) =
      (ofName? name).elim
        (.error ⟨.unknownClass name, String.ofList (opening ++ name ++ closing), none⟩)
        fun cls => .ok cls.expression := by
  have hlen : (opening ++ name ++ closing).length - 6 = name.length := by
    simp [opening, closing]
  have hname : ((opening ++ name ++ closing).drop 3).take name.length = name := by
    simp [opening, closing]
  have hpre : opening.isPrefixOf (opening ++ name ++ closing) = true := by
    simp [opening]
  have hsuf : closing.isSuffixOf (opening ++ name ++ closing) = true := by
    rw [List.isSuffixOf_iff_suffix]
    exact List.suffix_append _ _
  simp only [toExpression, hpre, hsuf, hlen, hname, Bool.and_self, Bool.not_true]
  cases ofName? name <;> rfl

end CharClass

end ExcludeRules.Rule
