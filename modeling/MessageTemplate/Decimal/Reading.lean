import MessageTemplate.Decimal.Layout

/-!
# Reading decimals

Reads the text of a floating-point number: an optional sign, then `inf`, `infinity` or `nan`
in any letter case, or digits with an optional point and an optional exponent. The nearest
number of the binary format is chosen; beyond its range lies infinity.
-/

namespace MessageTemplate

/-- A numeral before it is rounded to a binary format. -/
inductive Numeral where
  | nan
  | infinite
  | decimal (value : Decimal)
  deriving DecidableEq, Repr

namespace Numeral

/-- Take the leading ASCII digits. -/
def takeDigits (text : List Char) : List Char × List Char := text.span Char.isDigit

/-- The exponent after a mantissa: nothing, or `e` and an integer. -/
def exponent? : List Char → Option Int
  | [] => some 0
  | mark :: integer => if mark = 'e' || mark = 'E' then Decimal.integer? integer else none

/-- Digits with an optional point, at least one digit in all, and an optional exponent. -/
def decimal? (text : List Char) : Option Decimal :=
  let (whole, afterWhole) := takeDigits text
  let (fraction, rest) := match afterWhole with
    | '.' :: afterPoint => takeDigits afterPoint
    | _ => ([], afterWhole)
  if whole.isEmpty && fraction.isEmpty then none
  else (exponent? rest).map fun exponent =>
    ⟨Decimal.digitsValue (whole ++ fraction), exponent - fraction.length⟩

/-- A numeral without its sign. -/
def unsigned? (text : List Char) : Option Numeral :=
  let word := String.ofList (text.map Char.toLower)
  if word = "nan" then some .nan
  else if word = "inf" || word = "infinity" then some .infinite
  else (decimal? text).map .decimal

/-- A numeral, and whether a minus sign precedes it. -/
def signed? : List Char → Option (Bool × Numeral)
  | '-' :: text => (unsigned? text).map (true, ·)
  | '+' :: text => (unsigned? text).map (false, ·)
  | text => (unsigned? text).map (false, ·)

/-- The bits of the nearest number of `format`, without a sign. Exponents whose powers of ten
lie far outside every format are settled without computing the power. -/
def bits (format : Binary.Format) : Numeral → Nat
  | nan => format.infinityBits + format.implicitBit / 2
  | infinite => format.infinityBits
  | decimal value =>
    let magnitude := value.leadingExponent
    if value.digits = 0 || magnitude < -400 then 0
    else if 400 < magnitude then format.infinityBits
    else
      format.roundBits (value.digits * Nat.pow 10 value.exponent.toNat)
        (Nat.pow 10 (-value.exponent).toNat)

/-- The bits of the number of `format` that a text denotes. -/
def readBits? (format : Binary.Format) (text : String) : Option Nat :=
  (signed? text.toList).map fun (negative, numeral) =>
    numeral.bits format + if negative then format.signBit else 0

end Numeral

/-- The double that a text denotes. -/
def readFloat? (text : String) : Option Float :=
  (Numeral.readBits? Binary.binary64 text).map fun bits => Float.ofBits (UInt64.ofNat bits)

/-- The double whose shortest digits are those of the single-precision number nearest to
the one a text denotes: `0.1` stays `0.1`. -/
def readSingle? (text : String) : Option Float :=
  (Numeral.readBits? Binary.binary32 text).bind fun bits =>
    readFloat? ((Binary.binary32.decode bits).text Binary.binary32 Decimal.positional "0")

end MessageTemplate
