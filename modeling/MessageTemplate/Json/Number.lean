import MessageTemplate.Value.Number

/-!
# Numbers of JSON documents

Reads a JSON number. Integers that fit a word are exact. All others become doubles by a rule
of their own: as many leading digits as fit an unsigned word are converted, and the result is
multiplied or divided by the power of ten that remains, each step with one rounding. Numbers
beyond the range of doubles are refused.
-/

namespace MessageTemplate.Json

/-- A JSON number taken apart. -/
structure NumberParts where
  negative : Bool
  whole : List Char
  /-- The digits after the point, if there is one. -/
  fraction : Option (List Char)
  /-- The sign and the digits after the exponent mark, if there is one. -/
  exponent : Option (Bool × List Char)

namespace NumberParts

/-- Digits without a superfluous zero in front. -/
def isWhole : List Char → Bool
  | [] => false
  | ['0'] => true
  | first :: rest => first ≠ '0' && (first :: rest).all Char.isDigit

/-- An exponent after its mark: an optional sign and at least one digit. -/
def exponent? (text : List Char) : Option (Bool × List Char) :=
  let (negative, digits) := match text with
    | '-' :: digits => (true, digits)
    | '+' :: digits => (false, digits)
    | digits => (false, digits)
  if !digits.isEmpty && digits.all Char.isDigit then some (negative, digits) else none

/-- What follows the digits of the integer part. -/
def afterWhole? (negative : Bool) (whole rest : List Char) : Option NumberParts :=
  let (fraction, rest) := match rest with
    | '.' :: rest => (some (rest.takeWhile Char.isDigit), rest.dropWhile Char.isDigit)
    | rest => (none, rest)
  if !isWhole whole || fraction = some [] then none
  else match rest with
    | [] => some ⟨negative, whole, fraction, none⟩
    | mark :: text =>
      if mark = 'e' || mark = 'E' then
        (exponent? text).map fun exponent => ⟨negative, whole, fraction, some exponent⟩
      else none

/-- Take a JSON number apart. -/
def ofText? (text : List Char) : Option NumberParts :=
  let (negative, digits) := match text with
    | '-' :: digits => (true, digits)
    | digits => (false, digits)
  afterWhole? negative (digits.takeWhile Char.isDigit) (digits.dropWhile Char.isDigit)

/-- Append digits to a significand as long as it fits an unsigned word, and leave the others. -/
def absorb (significand : Nat) : List Char → Nat × List Char
  | [] => (significand, [])
  | digit :: digits =>
    let extended := 10 * significand + Decimal.digitValue digit
    if extended < UInt64.size then absorb extended digits else (significand, digit :: digits)

/-- The double nearest to a power of ten. -/
def powerOfTen (exponent : Nat) : Float :=
  Float.ofBits (UInt64.ofNat (Binary.binary64.roundBits (Nat.pow 10 exponent) 1))

/-- The product of a value and a power of ten, by one multiplication or by divisions; absent if
it is beyond the range of doubles. -/
def scale? (value : Float) (exponent : Int) : Option Float :=
  if exponent.natAbs ≤ 308 then
    if 0 ≤ exponent then
      let product := value * powerOfTen exponent.toNat
      if product.isInf then none else some product
    else some (value / powerOfTen exponent.natAbs)
  else if value == 0 then some value
  else if 0 ≤ exponent then none
  else scale? (value / powerOfTen 308) (exponent + 308)
termination_by exponent.natAbs
decreasing_by omega

/-- The exponent after the mark. From 2^31 on it is out of range, whatever is multiplied. -/
def exponentValue? : Option (Bool × List Char) → Option Int
  | none => some 0
  | some (negative, digits) =>
    let magnitude := Decimal.digitsValue digits
    if magnitude < Nat.pow 2 31 then some (if negative then -(magnitude : Int) else magnitude)
    else none

/-- The double that a number stands for. -/
def toFloat? (parts : NumberParts) : Option Float :=
  let (leading, dropped) := absorb 0 parts.whole
  let fraction := parts.fraction.getD []
  let (significand, ignored) := absorb leading fraction
  let shift : Int := dropped.length - (fraction.length - ignored.length : Nat)
  let magnitude? := match exponentValue? parts.exponent with
    | some exponent => scale? (UInt64.ofNat significand).toFloat (shift + exponent)
    | none =>
      if significand = 0 || parts.exponent.any Prod.fst then some 0 else none
  magnitude?.map fun magnitude => if parts.negative then -magnitude else magnitude

/-- The number that a numeral stands for. Minus zero is a double. -/
def toNumber? (parts : NumberParts) : Option Number :=
  let magnitude := Decimal.digitsValue parts.whole
  if parts.fraction.isSome || parts.exponent.isSome then parts.toFloat?.map .float
  else if parts.negative then
    if 0 < magnitude ∧ magnitude ≤ Nat.pow 2 63 then some (.int (Int64.ofInt (-(magnitude : Int))))
    else parts.toFloat?.map .float
  else if magnitude < Nat.pow 2 63 then some (.int (Int64.ofInt magnitude))
  else if magnitude < UInt64.size then some (.uint (UInt64.ofNat magnitude))
  else parts.toFloat?.map .float

end NumberParts

/-- The number that a text denotes. -/
def number? (text : List Char) : Option Number :=
  (NumberParts.ofText? text).bind NumberParts.toNumber?

end MessageTemplate.Json
