/-
Sets of code points given as closed ranges.
-/

namespace ExcludeRules.Text

/-- A set of code points: the union of closed ranges `(first, last)`. -/
abbrev Ranges := List (Nat × Nat)

namespace Ranges

/-- Whether the code point of a character lies in one of the ranges. -/
def covers (ranges : Ranges) (c : Char) : Bool :=
  ranges.any fun r => r.1 ≤ c.toNat && c.toNat ≤ r.2

end Ranges

end ExcludeRules.Text
