/-
The expression of the body of a rule.

Each token is written out on its own, except that stars side by side are written
as one: `.*` if two of them stand together, `[^/]*` otherwise.  Main statements:
  * `mergeStars_eq_of_forall` : only stars are ever merged;
  * `mergeStars_cons_of_star` : a star in front of a star is merged with it.
-/
import ExcludeRules.Rule.Token

namespace ExcludeRules.Rule

/-- A character as an expression writes it, so that it stands for itself. -/
def writeChar (c : Char) : List Char := if isSpecial c then ['\\', c] else [c]

namespace Token

/-- What a token is in the expression; nothing for a class of unknown name. -/
def write? : Token → Option (List Char)
  | anything => some ['.', '*']
  | segment => some ['[', '^', '/', ']', '*']
  | single => some ['[', '^', '/', ']']
  | escaped c => some ['\\', c]
  | kept c => some ('\\' :: '\\' :: writeChar c)
  | backslash => some ['\\', '\\']
  | named inner closed =>
    (CharClass.ofName? inner.dropLast).map fun cls =>
      if closed then cls.expression else '[' :: cls.members.toList
  | bracket negated => some (if negated then ['[', '^'] else ['['])
  | plain c => some (writeChar c)

/-- One star for two that stand side by side. -/
def merge : Token → Token → Token
  | segment, segment => segment
  | _, _ => anything

end Token

/-- Makes each run of stars one star. -/
def mergeStars : List Token → List Token
  | [] => []
  | t :: ts =>
    match mergeStars ts with
    | [] => [t]
    | u :: us => if t.isStar && u.isStar then t.merge u :: us else t :: u :: us

/-- The place and the name of the first class of unknown name; `at_` is where the tokens begin. -/
def unknownClass? (at_ : Nat) : List Token → Option (Nat × List Char)
  | [] => none
  | .named inner closed :: ts =>
    if (CharClass.ofName? inner.dropLast).isNone then some (at_, inner.dropLast)
    else unknownClass? (at_ + (Token.named inner closed).width) ts
  | t :: ts => unknownClass? (at_ + t.width) ts

/-- The number of wildcards of a body. -/
def wildcardCount (body : List Char) : Nat := (tokens body).foldr (fun t n => t.weight + n) 0

/-- The expression of the body of a rule. -/
def writeBody (body : List Char) : Except Error (List Char) := do
  match unknownClass? 0 (tokens body) with
  | some (i, name) => .error ⟨.unknownClass name, String.ofList body, some i⟩
  | none =>
    checkSize body (wildcardCount body)
    return (mergeStars (tokens body)).flatMap fun t => (t.write?).getD []

theorem mergeStars_eq_of_forall {ts : List Token} (h : ∀ t ∈ ts, t.isStar = false) :
    mergeStars ts = ts := by
  induction ts with
  | nil => rfl
  | cons t ts ih =>
    obtain ⟨ht, hts⟩ := List.forall_mem_cons.1 h
    rw [mergeStars, ih hts]
    cases ts <;> simp [ht]

/-- Merging leaves one token for a run of stars. -/
theorem mergeStars_cons_of_star {t u : Token} {ts us : List Token} (h : mergeStars ts = u :: us)
    (ht : t.isStar = true) (hu : u.isStar = true) : mergeStars (t :: ts) = t.merge u :: us := by
  simp [mergeStars, h, ht, hu]

end ExcludeRules.Rule
