/-!
# Binary floating-point formats

Encodes and decodes the bits of a binary floating-point number in exact integer arithmetic.
A finite number is `significand · 2 ^ exponent`; rounding a ratio goes to the nearest
representable number and from a midpoint to the one with an even significand.
-/

namespace MessageTemplate.Binary

/-- An interchange format: its exponent field and the fraction below it. -/
structure Format where
  /-- Width of the fraction field. -/
  fractionBits : Nat
  /-- Width of the exponent field. -/
  exponentBits : Nat
  /-- Exponent of the least significant bit of the smallest numbers. -/
  minExponent : Int

/-- Double precision. -/
def binary64 : Format := ⟨52, 11, -1074⟩

/-- Single precision. -/
def binary32 : Format := ⟨23, 8, -149⟩

/-- What the bits of a format stand for. -/
inductive Number where
  | nan
  | infinite (negative : Bool)
  | finite (negative : Bool) (significand : Nat) (exponent : Int)
  deriving DecidableEq, Repr

namespace Format

/-- One more than the largest stored fraction: the leading bit of a normal significand. -/
def implicitBit (format : Format) : Nat := Nat.pow 2 format.fractionBits

/-- The exponent field of infinities and of NaN. -/
def topField (format : Format) : Nat := Nat.pow 2 format.exponentBits - 1

/-- The bits of positive infinity. -/
def infinityBits (format : Format) : Nat := format.topField * format.implicitBit

/-- The bit that marks negative numbers. -/
def signBit (format : Format) : Nat :=
  Nat.pow 2 (format.fractionBits + format.exponentBits)

/-- What `bits` stand for. -/
def decode (format : Format) (bits : Nat) : Number :=
  let fraction := bits % format.implicitBit
  let field := bits / format.implicitBit % Nat.pow 2 format.exponentBits
  let negative := decide (format.signBit ≤ bits)
  if field = format.topField then
    if fraction = 0 then .infinite negative else .nan
  else if field = 0 then .finite negative fraction format.minExponent
  else .finite negative (format.implicitBit + fraction) (format.minExponent + field - 1)

/-- The quotient rounded to the nearest integer, a midpoint to the even one. -/
def divideToEven (numerator denominator : Nat) : Nat :=
  let quotient := numerator / denominator
  let twice := 2 * (numerator % denominator)
  if denominator < twice || (twice = denominator && quotient % 2 = 1) then quotient + 1
  else quotient

/-- The ratio `numerator / denominator / 2 ^ exponent`. -/
def scaled (numerator denominator : Nat) (exponent : Int) : Nat × Nat :=
  (numerator * Nat.pow 2 (-exponent).toNat, denominator * Nat.pow 2 exponent.toNat)

/-- The exponent at which the ratio has a full significand, or the smallest exponent. -/
def exponentOf (format : Format) (numerator denominator : Nat) : Int :=
  let estimate : Int := numerator.log2 - denominator.log2 - format.fractionBits
  let (top, bottom) := scaled numerator denominator estimate
  max format.minExponent (if top / bottom < format.implicitBit then estimate - 1 else estimate)

/-- The bits of the positive number nearest to `numerator / denominator`; infinity when the
nearest one is beyond the largest finite number. A significand that rounds up to a power of
two carries into the exponent field, where it belongs. -/
def roundBits (format : Format) (numerator denominator : Nat) : Nat :=
  if numerator = 0 then 0
  else
    let exponent := format.exponentOf numerator denominator
    let (top, bottom) := scaled numerator denominator exponent
    let bits := (exponent - format.minExponent).toNat * format.implicitBit +
      divideToEven top bottom
    min bits format.infinityBits

end Format

end MessageTemplate.Binary
