import MessageTemplate.Value.Number

/-!
# Plural operands

What plural rules see of a number that is not negative: the digits before and after the
point. Only the 18 digits nearest to the point on either side count; that digits were left
out before the point shows as one more leading digit.
-/

namespace MessageTemplate

/-- The operands of plural rules. -/
structure PluralOperands where
  /-- The integer part. -/
  integer : Nat
  /-- The number of digits after the point. -/
  places : Nat
  /-- Whether the number is its integer part. -/
  isWhole : Bool
  deriving DecidableEq, Repr

namespace PluralOperands

/-- The operands of a natural number. -/
def ofNat (value : Nat) : PluralOperands := ⟨value, 0, true⟩

/-- How many digits count on either side of the point. -/
def precision : Nat := 18

/-- The operands of a decimal. -/
def ofDecimal (decimal : Decimal) : PluralOperands :=
  let (whole, fraction) := decimal.parts
  let value := Decimal.digitsValue whole
  let bound := Nat.pow 10 precision
  let kept := fraction.take precision
  ⟨if value < bound then value else value % bound + bound, kept.length, kept.all (· = '0')⟩

/-- The operands of a number; numbers below zero, infinities and NaN have none. -/
def ofNumber? (number : Number) : Option PluralOperands :=
  if number.isNegative then none
  else match number.toInt64? with
    | some value => some (ofNat value.toInt.toNat)
    | none =>
      match number with
      | .uint value => some (ofNat value.toNat)
      | .int value => some (ofNat value.toInt.toNat)
      | .float value =>
        match decodeFloat value with
        | .finite _ significand exponent =>
          some (ofDecimal (Decimal.shortest Binary.binary64 significand exponent))
        | _ => none

end PluralOperands

end MessageTemplate
