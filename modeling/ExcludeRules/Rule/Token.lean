/-
The body of a rule, cut into wildcards, escapes, brackets and plain characters.

A backslash escapes only in a body that holds a wildcard; elsewhere it stands for
itself.  Two stars side by side are one token.  Main statements:
  * `Token.width_pos` : every token is at least one character wide;
  * `tokensFrom_cons` : the tokens of a text are the one it begins with and those
    of the rest.
-/
import ExcludeRules.Rule.CharClass

namespace ExcludeRules.Rule

/-- Whether a text holds one of the characters that make wildcards. -/
def hasWildcards (text : List Char) : Bool := text.any (· ∈ ['*', '?', '['])

/-- The characters that a backslash escapes. -/
def isEscapable (c : Char) : Bool := c ∈ ['*', '?', '[', '-', ']', '#', ';', '\\', '/']

/-- The characters that an expression gives a meaning and a rule does not. -/
def isSpecial (c : Char) : Bool := c ∈ ['.', '^', '$', '+', '{', '}', '|', '(', ')']

inductive Token
  /-- Two stars: any text. -/
  | anything
  /-- One star: any text without a slash. -/
  | segment
  /-- A question mark: one character that is not a slash. -/
  | single
  /-- A backslash and a character that it escapes. -/
  | escaped (c : Char)
  /-- A backslash and a character that it does not escape; both stand for themselves. -/
  | kept (c : Char)
  /-- A backslash that escapes nothing. -/
  | backslash
  /-- A class: what stands between `[[:` and `]`, and whether a second `]` follows. -/
  | named (inner : List Char) (closed : Bool)
  /-- A bracket, negated or not, whose members follow. -/
  | bracket (negated : Bool)
  | plain (c : Char)
  deriving DecidableEq, Repr

namespace Token

/-- What a class holds between `[[:` and the first `]`, if a colon stands in front of that. -/
def classInner? (rest : List Char) : Option (List Char) :=
  let inner := rest.takeWhile (· != ']')
  if inner.length < rest.length ∧ (':' :: inner).getLast? = some ':' then some inner else none

/-- The token that a text `c :: rest` begins with. -/
def first (wild : Bool) (c : Char) (rest : List Char) : Token :=
  match c, rest with
  | '*', '*' :: _ => anything
  | '*', _ => segment
  | '?', _ => single
  | '\\', e :: _ => if !wild then backslash else if isEscapable e then escaped e else kept e
  | '\\', [] => backslash
  | '[', '[' :: ':' :: rest =>
    match classInner? rest with
    | some inner => named inner ((rest.drop (inner.length + 1)).head? == some ']')
    | none => bracket false
  | '[', '!' :: _ => bracket true
  | '[', _ => bracket false
  | c, _ => plain c

/-- The number of characters that a token is written with. -/
def width : Token → Nat
  | anything => 2
  | segment => 1
  | single => 1
  | escaped _ => 2
  | kept _ => 2
  | backslash => 1
  | named inner closed => inner.length + (if closed then 5 else 4)
  | bracket negated => if negated then 2 else 1
  | plain _ => 1

/-- What a token counts towards the limit on wildcards. -/
def weight : Token → Nat
  | anything => 2
  | segment => 1
  | single => 1
  | named _ _ => 1
  | bracket _ => 1
  | _ => 0

def isStar : Token → Bool
  | anything => true
  | segment => true
  | _ => false

theorem width_pos (t : Token) : 0 < t.width := by
  cases t <;> simp only [width] <;> first | omega | (split <;> omega)

end Token

/-- The tokens of a text after its first `skip` characters. -/
def tokensFrom (wild : Bool) : Nat → List Char → List Token
  | _, [] => []
  | skip + 1, _ :: rest => tokensFrom wild skip rest
  | 0, c :: rest =>
    let t := Token.first wild c rest
    t :: tokensFrom wild (t.width - 1) rest

/-- The tokens of the body of a rule. -/
def tokens (body : List Char) : List Token := tokensFrom (hasWildcards body) 0 body

theorem tokensFrom_eq_drop (wild : Bool) (skip : Nat) (text : List Char) :
    tokensFrom wild skip text = tokensFrom wild 0 (text.drop skip) := by
  induction text generalizing skip with
  | nil => simp [tokensFrom]
  | cons c rest ih =>
    cases skip with
    | zero => rfl
    | succ skip => simpa [tokensFrom] using ih skip

/-- The tokens of a text are the one it begins with and those of the rest. -/
theorem tokensFrom_cons (wild : Bool) (c : Char) (rest : List Char) :
    tokensFrom wild 0 (c :: rest) =
      Token.first wild c rest ::
        tokensFrom wild 0 ((c :: rest).drop (Token.first wild c rest).width) := by
  have h := Token.width_pos (Token.first wild c rest)
  rw [tokensFrom, tokensFrom_eq_drop]
  obtain ⟨n, hn⟩ := Nat.exists_eq_succ_of_ne_zero (Nat.ne_of_gt h)
  simp [hn]

end ExcludeRules.Rule
