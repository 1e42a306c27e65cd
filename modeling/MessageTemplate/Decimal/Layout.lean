import MessageTemplate.Decimal.Shortest

/-!
# Layout of decimals

Writes decimals and binary numbers as text. The positional form has no exponent whatever
the size of the number and no fraction when the number is whole; the form for inspection
always has a point or an exponent, and takes the exponent for very large and very small
numbers.
-/

namespace MessageTemplate

namespace Decimal

/-- The digits of a decimal, most significant first. -/
def characters (decimal : Decimal) : List Char := Nat.toDigits 10 decimal.digits

/-- The integer part and the fraction of a decimal, both as digits; the integer part has at
least one digit. -/
def parts (decimal : Decimal) : List Char × List Char :=
  if 0 ≤ decimal.exponent then
    (decimal.characters ++ List.replicate decimal.exponent.toNat '0', [])
  else
    let places := (-decimal.exponent).toNat
    let count := decimal.characters.length
    if places < count then
      (decimal.characters.take (count - places), decimal.characters.drop (count - places))
    else ([ '0' ], List.replicate (places - count) '0' ++ decimal.characters)

/-- A decimal without exponent: `1500`, `0.25`. -/
def positional (decimal : Decimal) : String :=
  match decimal.parts with
  | (whole, []) => String.ofList whole
  | (whole, fraction) => String.ofList (whole ++ '.' :: fraction)

/-- The exponent of the first digit. -/
def leadingExponent (decimal : Decimal) : Int :=
  decimal.exponent + decimal.characters.length - 1

/-- A decimal with one digit before the point and an exponent: `1.5e300`, `1e-7`. -/
def scientific (decimal : Decimal) : String :=
  let mantissa := match decimal.characters with
    | [] => []
    | [digit] => [digit]
    | digit :: fraction => digit :: '.' :: fraction
  String.ofList mantissa ++ "e" ++ toString decimal.leadingExponent

/-- A decimal for inspection: with an exponent below 10^-4 and from 10^16 on, else
positional with at least one digit after the point. -/
def inspect (decimal : Decimal) : String :=
  if decimal.leadingExponent < -4 || 16 ≤ decimal.leadingExponent then decimal.scientific
  else
    match decimal.parts with
    | (whole, []) => String.ofList whole ++ ".0"
    | (whole, fraction) => String.ofList (whole ++ '.' :: fraction)

end Decimal

namespace Binary.Number

/-- A minus sign before a negative number. -/
def signed (negative : Bool) (text : String) : String := if negative then "-" ++ text else text

/-- The text of a binary number whose magnitude `layout` writes; zero is `zero`. -/
def text (format : Format) (layout : Decimal → String) (zero : String) : Number → String
  | nan => "NaN"
  | infinite negative => signed negative "inf"
  | finite negative significand exponent =>
    signed negative <|
      if significand = 0 then zero else layout (Decimal.shortest format significand exponent)

end Binary.Number

/-- What the bits of a double stand for. -/
def decodeFloat (value : Float) : Binary.Number :=
  Binary.binary64.decode value.toBits.toNat

/-- A double by its shortest digits, without exponent. -/
def floatText (value : Float) : String :=
  (decodeFloat value).text Binary.binary64 Decimal.positional "0"

/-- A double by its shortest digits, for inspection. -/
def inspectFloat (value : Float) : String :=
  (decodeFloat value).text Binary.binary64 Decimal.inspect "0.0"

end MessageTemplate
