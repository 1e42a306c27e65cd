/-!
# Sets of code points

A set of code points as a list of closed ranges.
-/

namespace MessageTemplate

/-- A set of code points as closed ranges. -/
abbrev CodePoints := List (Nat × Nat)

/-- Whether a character lies in one of the ranges. -/
def CodePoints.contains (ranges : CodePoints) (character : Char) : Bool :=
  ranges.any fun (low, high) => low ≤ character.toNat && character.toNat ≤ high

end MessageTemplate
