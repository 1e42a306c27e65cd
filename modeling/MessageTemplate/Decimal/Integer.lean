/-!
# Integers in decimal

Reads integers written with ASCII digits: an optional sign and at least one digit, nothing
else. The word-sized readers accept exactly the numerals whose value fits.
-/

namespace MessageTemplate.Decimal

/-- The value of a digit character. -/
def digitValue (digit : Char) : Nat := digit.toNat - '0'.toNat

/-- The value of a run of digits, most significant first. -/
def digitsValue (digits : List Char) : Nat := Nat.ofDigitChars 10 digits 0

@[simp] theorem digitsValue_toDigits (value : Nat) :
    digitsValue (Nat.toDigits 10 value) = value :=
  Nat.ofDigitChars_ten_toDigits

/-- The value of a non-empty run of ASCII digits. -/
def natural? (digits : List Char) : Option Nat :=
  if !digits.isEmpty && digits.all Char.isDigit then some (digitsValue digits) else none

theorem natural?_eq_some_iff {digits : List Char} {value : Nat} :
    natural? digits = some value ↔
      digits ≠ [] ∧ (∀ character ∈ digits, character.isDigit = true) ∧
        digitsValue digits = value := by
  simp [natural?, and_assoc]

/-- The digits of a natural number denote it. -/
@[simp] theorem natural?_toDigits (value : Nat) :
    natural? (Nat.toDigits 10 value) = some value :=
  natural?_eq_some_iff.mpr ⟨Nat.toDigits_ne_nil,
    fun _ member => Nat.isDigit_of_mem_toDigits (by decide) (by decide) member,
    digitsValue_toDigits value⟩

/-- The value of an optionally signed non-empty run of ASCII digits. -/
def integer? : List Char → Option Int
  | '-' :: digits => (natural? digits).map fun value => -(value : Int)
  | '+' :: digits => (natural? digits).map Int.ofNat
  | digits => (natural? digits).map Int.ofNat

/-- The integer a numeral denotes, if it is at least -2^63 and below 2^63. -/
def int64? (numeral : List Char) : Option Int64 :=
  (integer? numeral).bind fun value =>
    if Int64.minValue.toInt ≤ value ∧ value ≤ Int64.maxValue.toInt then some (Int64.ofInt value)
    else none

/-- The integer a numeral without a minus sign denotes, if it is below 2^64. -/
def uint64? (numeral : List Char) : Option UInt64 :=
  let value? := match numeral with
    | '+' :: digits => natural? digits
    | digits => natural? digits
  value?.bind fun value => if value < UInt64.size then some (UInt64.ofNat value) else none

end MessageTemplate.Decimal
