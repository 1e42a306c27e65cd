import MessageTemplate.Binary.Format
import MessageTemplate.Decimal.Integer

/-!
# Shortest decimals

The fewest decimal digits that read back as a given binary number. A number
`significand · 2 ^ exponent` is a decimal too, so the search runs over ever finer decimal
grids in exact arithmetic: of each grid only the two neighbours of the number matter. The
first grid with a neighbour that reads back wins; of two such neighbours the nearer one,
and of two equally near ones the larger.
-/

namespace MessageTemplate

/-- The number `digits · 10 ^ exponent`. -/
structure Decimal where
  digits : Nat
  exponent : Int
  deriving DecidableEq, Repr

namespace Decimal

/-- Every finite binary number is a decimal: halves are fives in the next place. -/
def ofBinary (significand : Nat) (exponent : Int) : Decimal :=
  if 0 ≤ exponent then ⟨significand * Nat.pow 2 exponent.toNat, 0⟩
  else ⟨significand * Nat.pow 5 (-exponent).toNat, exponent⟩

/-- The reals that read back as `significand · 2 ^ exponent`, in quarters of the last place
of its decimal: the distance to the neighbour below is half as wide at a power of two, and
the ends count for an even significand. -/
structure Interval where
  low : Nat
  high : Nat
  closed : Bool
  deriving DecidableEq, Repr

/-- The interval of the reals that read back as a binary number. -/
def interval (format : Binary.Format) (significand : Nat) (exponent : Int) : Interval :=
  let unit := if 0 ≤ exponent then Nat.pow 2 exponent.toNat else Nat.pow 5 (-exponent).toNat
  let below := if significand = format.implicitBit then 1 else 2
  ⟨(4 * significand - below) * unit, (4 * significand + 2) * unit, significand % 2 = 0⟩

/-- Whether a number, in the quarters of `Interval`, reads back. -/
def Interval.contains (range : Interval) (quarters : Nat) : Bool :=
  if range.closed then range.low ≤ quarters && quarters ≤ range.high
  else range.low < quarters && quarters < range.high

/-- The better neighbour of `value` among the multiples of `10 ^ dropped`, if one reads back. -/
def neighbour? (value : Nat) (range : Interval) (dropped : Nat) : Option Nat :=
  let step := Nat.pow 10 dropped
  let below := value / step
  let remainder := value % step
  let belowFits := range.contains (4 * (below * step))
  let aboveFits := range.contains (4 * ((below + 1) * step))
  if aboveFits && (!belowFits || step ≤ 2 * remainder) then some (below + 1)
  else if belowFits then some below
  else none

/-- Move trailing zeros of the digits into the exponent. -/
def stripZeros (digits : Nat) (exponent : Int) : Decimal :=
  if h : digits ≠ 0 ∧ digits % 10 = 0 then stripZeros (digits / 10) (exponent + 1)
  else ⟨digits, exponent⟩
termination_by digits
decreasing_by omega

/-- The shortest decimal that reads back as `significand · 2 ^ exponent`, which is not zero. -/
def shortest (format : Binary.Format) (significand : Nat) (exponent : Int) : Decimal :=
  let exact := ofBinary significand exponent
  let range := interval format significand exponent
  let grids := (List.range (Nat.toDigits 10 exact.digits).length).reverse
  match grids.findSome? fun dropped =>
      (neighbour? exact.digits range dropped).map fun digits => (digits, dropped) with
  | some (digits, dropped) => stripZeros digits (exact.exponent + dropped)
  | none => exact

end Decimal

end MessageTemplate
