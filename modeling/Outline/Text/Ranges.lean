/-!
# Sets of characters

A set of characters given by ranges of code points.
-/

namespace Outline

/-- Ranges of code points, each by its first and its last member. -/
abbrev CodeRanges := List (Nat × Nat)

/-- The character lies in one of the ranges. -/
def CodeRanges.covers (ranges : CodeRanges) (c : Char) : Bool :=
  ranges.any fun (low, high) => low ≤ c.toNat && c.toNat ≤ high

end Outline
