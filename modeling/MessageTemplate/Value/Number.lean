import MessageTemplate.Decimal.Reading

/-!
# Numbers

An argument's number is a signed word, an unsigned word or a double. Which of the three it is
shows in its type name and in nothing else, as long as its value fits: subtraction stays
exact on words where it can, and only leaves them for a double where it cannot.
-/

namespace MessageTemplate

/-- A number of an argument. -/
inductive Number where
  | int (value : Int64)
  | uint (value : UInt64)
  | float (value : Float)

namespace Number

/-- The largest signed word. -/
def maxInt : Nat := Nat.pow 2 63 - 1

/-- The double nearest to a number. -/
def toFloat : Number → Float
  | int value => value.toFloat
  | uint value => value.toFloat
  | float value => value

/-- Subtract an offset. Differences that leave the words are those of doubles. -/
def minus (offset : UInt64) : Number → Number
  | int value =>
    let difference := value.toInt - offset.toNat
    if offset.toNat ≤ maxInt ∧ Int64.minValue.toInt ≤ difference then .int (Int64.ofInt difference)
    else .float (value.toFloat - offset.toFloat)
  | uint value =>
    if offset ≤ value then .uint (value - offset)
    else if offset.toNat - value.toNat ≤ maxInt then
      .int (Int64.ofInt ((value.toNat : Int) - offset.toNat))
    else .float (value.toFloat - offset.toFloat)
  | float value => .float (value - offset.toFloat)

/-- The value of a finite binary number that is an integer. -/
def wholeValue? : Binary.Number → Option Int
  | .finite negative significand exponent =>
    let magnitude? :=
      if 0 ≤ exponent then some (significand * Nat.pow 2 exponent.toNat)
      else
        let unit := Nat.pow 2 (-exponent).toNat
        if significand % unit = 0 then some (significand / unit) else none
    magnitude?.map fun magnitude => if negative then -(magnitude : Int) else magnitude
  | _ => none

/-- Doubles of this magnitude and beyond do not count as integers. -/
def wholeLimit : Nat := 9000000000000000

/-- The signed word equal to a number, if there is one; a double counts below `wholeLimit`. -/
def toInt64? : Number → Option Int64
  | int value => some value
  | uint value => if value.toNat ≤ maxInt then some (Int64.ofInt value.toNat) else none
  | float value =>
    (wholeValue? (decodeFloat value)).bind fun whole =>
      if whole.natAbs < wholeLimit then some (Int64.ofInt whole) else none

/-- Whether a number is less than zero. -/
def isNegative : Number → Bool
  | int value => value < 0
  | uint _ => false
  | float value =>
    match decodeFloat value with
    | .nan => false
    | .infinite negative => negative
    | .finite negative significand _ => negative && significand ≠ 0

/-- The text of a number. -/
def text : Number → String
  | int value => toString value.toInt
  | uint value => toString value.toNat
  | float value => floatText value

/-- The number a text denotes: a signed word if it is one, else an unsigned word, else a
double. -/
def ofText? (text : String) : Option Number :=
  match Decimal.int64? text.toList with
  | some value => some (.int value)
  | none =>
    match Decimal.uint64? text.toList with
    | some value => some (.uint value)
    | none => (readFloat? text).map .float

end Number

end MessageTemplate
