import Mathlib
import MessageTemplate.Plural.Cache
import MessageTemplate.Value.Basic

/-!
# Integers among the numbers

A signed and an unsigned word may hold one integer. Formatting makes the same of both: the text,
the number that the text is read back as, the difference from an offset that a template can have
and the plural category depend on the integer alone. Only offsets beyond the signed words tell the
two apart, since some differences from them are not looked for among the words. A double holds no
integer here, not even where it is whole.
-/

namespace MessageTemplate

namespace Decimal

/-- Digits without a sign are the numeral of a natural number. -/
theorem integer?_of_natural? {digits : List Char} {value : Nat}
    (natural : natural? digits = some value) : integer? digits = some (value : Int) := by
  unfold integer?
  split
  · simp [natural?] at natural
  · simp [natural?] at natural
  · simp [natural]

theorem integer?_toString (value : Int) : integer? (toString value).toList = some value := by
  rw [Int.toString_eq_repr, Int.repr_eq_if]
  split
  · rename_i nonnegative
    rw [Nat.repr_eq_ofList_toDigits, String.toList_ofList,
      integer?_of_natural? (natural?_toDigits value.toNat), Int.toNat_of_nonneg nonnegative]
  · rename_i negative
    have signed : ("-" ++ (-value).toNat.repr).toList = '-' :: Nat.toDigits 10 (-value).toNat := by
      simp [Nat.repr_eq_ofList_toDigits]
    rw [signed, integer?, natural?_toDigits]
    simp
    omega

/-- A numeral is read as the signed word that holds its integer. -/
theorem int64?_eq_some_iff {numeral : List Char} {word : Int64} :
    int64? numeral = some word ↔ integer? numeral = some word.toInt := by
  unfold int64?
  constructor
  · intro read
    obtain ⟨value, integer, inside⟩ := Option.bind_eq_some_iff.mp read
    split at inside
    · rename_i range
      obtain rfl := Option.some.inj inside
      rw [Int64.toInt_minValue, Int64.toInt_maxValue] at range
      rw [integer, Int64.toInt_ofInt_of_le range.1 (by omega)]
    · cases inside
  · intro integer
    rw [integer, Option.bind_some, if_pos ⟨word.minValue_le_toInt, word.toInt_le⟩, Int64.ofInt_toInt]

theorem integer?_of_uint64? {numeral : List Char} {word : UInt64}
    (read : uint64? numeral = some word) : integer? numeral = some (word.toNat : Int) := by
  obtain ⟨value, natural, inside⟩ := Option.bind_eq_some_iff.mp read
  split at inside
  · rename_i small
    obtain rfl := Option.some.inj inside
    have held : (UInt64.ofNat value).toNat = value := UInt64.toNat_ofNat_of_lt small
    rw [held]
    split at natural
    · simp [integer?, natural]
    · exact integer?_of_natural? natural
  · cases inside

theorem uint64?_toString (word : UInt64) : uint64? (toString word.toNat).toList = some word := by
  have natural := natural?_toDigits word.toNat
  have small : word.toNat < UInt64.size := word.toNat_lt
  rw [Nat.toString_eq_ofList_toDigits, String.toList_ofList]
  generalize Nat.toDigits 10 word.toNat = digits at natural
  unfold uint64?
  split
  · -- No digit is a plus sign.
    simp [natural?] at natural
  · rw [natural, Option.bind_some, if_pos small, UInt64.ofNat_toNat]

end Decimal

namespace Number

/-- The integer that a word holds. -/
def integer? : Number → Option Int
  | int word => some word.toInt
  | uint word => some word.toNat
  | float _ => none

theorem lt_of_integer? {number : Number} {amount : Int} (holds : number.integer? = some amount) :
    amount < 2 ^ 64 := by
  cases number with
  | int word =>
    obtain rfl := Option.some.inj holds
    have above := word.toInt_lt
    omega
  | uint word =>
    obtain rfl := Option.some.inj holds
    have above := word.toNat_lt
    omega
  | float value => cases holds

/-- A word's text is the decimal text of its integer. -/
theorem text_of_integer? {number : Number} {amount : Int} (holds : number.integer? = some amount) :
    number.text = toString amount := by
  cases number with
  | int word =>
    obtain rfl := Option.some.inj holds
    rfl
  | uint word =>
    obtain rfl := Option.some.inj holds
    rfl
  | float value => cases holds

theorem ofText?_of_int64? {text : String} {word : Int64}
    (read : Decimal.int64? text.toList = some word) : ofText? text = some (.int word) := by
  rw [ofText?, read]

/-- The numeral of an unsigned word is read as a signed word where there is one. -/
theorem exists_ofText?_of_uint64? {text : String} {word : UInt64}
    (read : Decimal.uint64? text.toList = some word) :
    ∃ number, ofText? text = some number ∧ number.integer? = some (word.toNat : Int) := by
  cases signed : Decimal.int64? text.toList with
  | none => exact ⟨.uint word, by rw [ofText?, signed, read], rfl⟩
  | some other =>
    refine ⟨.int other, ofText?_of_int64? signed, ?_⟩
    rw [integer?, ← Decimal.int64?_eq_some_iff.mp signed, Decimal.integer?_of_uint64? read]

/-! ## Differences -/

/-- The differences that are not looked for among the words: that of a signed word from an offset
beyond the signed words, and that of an unsigned word from an offset exactly 2^63 above it. -/
def Overlooks : Number → UInt64 → Prop
  | int _, offset => 2 ^ 63 ≤ offset.toNat
  | uint word, offset => (word.toNat : Int) - offset.toNat = -2 ^ 63
  | float _, _ => False

/-- A difference that is looked for among the words is a word, unless it lies below all of them. -/
theorem integer?_minus_of_not_overlooks {number : Number} {amount : Int} {offset : UInt64}
    (holds : number.integer? = some amount) (inside : -2 ^ 63 ≤ amount - offset.toNat)
    (seen : ¬number.Overlooks offset) :
    (number.minus offset).integer? = some (amount - offset.toNat) := by
  have limit : maxInt = 2 ^ 63 - 1 := rfl
  cases number with
  | int word =>
    obtain rfl := Option.some.inj holds
    have above := word.toInt_lt
    have small : ¬2 ^ 63 ≤ offset.toNat := seen
    have fits : Int64.minValue.toInt ≤ word.toInt - offset.toNat := by
      rw [Int64.toInt_minValue]
      exact inside
    rw [minus, if_pos ⟨by omega, fits⟩, integer?, Int64.toInt_ofInt_of_le inside (by omega)]
  | uint word =>
    obtain rfl := Option.some.inj holds
    have apart : (word.toNat : Int) - offset.toNat ≠ -2 ^ 63 := seen
    by_cases enough : offset ≤ word
    · have ordered := UInt64.le_iff_toNat_le.mp enough
      rw [minus, if_pos enough, integer?, UInt64.toNat_sub_of_le word offset enough]
      congr 1
      omega
    · have short : word.toNat < offset.toNat := by
        rw [UInt64.le_iff_toNat_le] at enough
        omega
      rw [minus, if_neg enough, if_pos (by omega), integer?,
        Int64.toInt_ofInt_of_le inside (by omega)]
  | float value => cases holds

/-- Any other difference is the one of the doubles nearest to word and offset. -/
theorem minus_eq_float {number : Number} {amount : Int} {offset : UInt64}
    (holds : number.integer? = some amount)
    (lost : amount - offset.toNat < -2 ^ 63 ∨ number.Overlooks offset) :
    number.minus offset = .float (number.toFloat - offset.toFloat) := by
  have limit : maxInt = 2 ^ 63 - 1 := rfl
  cases number with
  | int word =>
    obtain rfl := Option.some.inj holds
    have unfit : ¬(offset.toNat ≤ maxInt ∧ Int64.minValue.toInt ≤ word.toInt - offset.toNat) := by
      rintro ⟨small, fits⟩
      rw [Int64.toInt_minValue] at fits
      rcases lost with below | large
      · omega
      · exact absurd (show 2 ^ 63 ≤ offset.toNat from large) (by omega)
    rw [minus, if_neg unfit, toFloat]
  | uint word =>
    obtain rfl := Option.some.inj holds
    have far : (word.toNat : Int) - offset.toNat ≤ -2 ^ 63 := by
      rcases lost with below | least
      · omega
      · exact Int.le_of_eq least
    have short : ¬offset ≤ word := by
      rw [UInt64.le_iff_toNat_le]
      omega
    rw [minus, if_neg short, if_neg (by omega), toFloat]
  | float value => cases holds

/-- Less an offset that is a signed word, a word is still a word, unless the difference lies
below all words. -/
theorem integer?_minus {number : Number} {amount : Int} {offset : UInt64}
    (holds : number.integer? = some amount) (small : offset.toNat ≤ maxInt)
    (inside : -2 ^ 63 ≤ amount - offset.toNat) :
    (number.minus offset).integer? = some (amount - offset.toNat) := by
  have limit : maxInt = 2 ^ 63 - 1 := rfl
  apply integer?_minus_of_not_overlooks holds inside
  cases number with
  | int word =>
    change ¬2 ^ 63 ≤ offset.toNat
    omega
  | uint word =>
    obtain rfl := Option.some.inj holds
    change ¬(word.toNat : Int) - offset.toNat = -2 ^ 63
    omega
  | float value => exact id

/-- A difference from an offset is exact where it lies among the words and is looked for there. It
is a double in all other cases: below all words, and where it is overlooked. -/
theorem integer?_minus_eq_some_iff {number : Number} {amount : Int} {offset : UInt64}
    (holds : number.integer? = some amount) :
    ((number.minus offset).integer? = some (amount - offset.toNat) ↔
      (-2 ^ 63 ≤ amount - offset.toNat ∧ amount - offset.toNat < 2 ^ 64) ∧
        ¬number.Overlooks offset) ∧
    (amount - offset.toNat < -2 ^ 63 ∨ 2 ^ 64 ≤ amount - offset.toNat ∨ number.Overlooks offset →
      number.minus offset = .float (number.toFloat - offset.toFloat)) := by
  have bounded := lt_of_integer? holds
  refine ⟨⟨fun exact => ?_, fun ⟨range, seen⟩ => ?_⟩, fun lost => ?_⟩
  · have kept : ¬(amount - offset.toNat < -2 ^ 63 ∨ number.Overlooks offset) := by
      intro lost
      rw [minus_eq_float holds lost] at exact
      cases exact
    obtain ⟨inside, seen⟩ := not_or.mp kept
    exact ⟨⟨Int.not_lt.mp inside, by omega⟩, seen⟩
  · exact integer?_minus_of_not_overlooks holds range.1 seen
  · refine minus_eq_float holds ?_
    rcases lost with below | above | overlooked
    · exact .inl below
    · omega
    · exact .inr overlooked

/-- The largest signed word, held by an unsigned one, is one less than 2^63. -/
theorem integer?_minus_eq_some_iff_maxInt :
    (uint 9223372036854775807).integer? = some 9223372036854775807 ∧
      ((uint 9223372036854775807).minus 9223372036854775808).integer? = some (-1) := by
  have holds : (uint 9223372036854775807).integer? = some 9223372036854775807 := rfl
  have seen : ¬(uint 9223372036854775807).Overlooks 9223372036854775808 := by
    change ¬(9223372036854775807 : Int) - 9223372036854775808 = -2 ^ 63
    decide
  exact ⟨holds, (integer?_minus_eq_some_iff holds).1.mpr ⟨by decide, seen⟩⟩

/-- Held by a signed word it is less than 2^63 by one as well, but that difference is overlooked
and becomes one of doubles. So does 0 less 2^63, although it is the least signed word. -/
theorem minus_maxInt_eq_float :
    (int 9223372036854775807).integer? = some 9223372036854775807 ∧
      (9223372036854775807 : Int) - (9223372036854775808 : UInt64).toNat = -1 ∧
      (int 9223372036854775807).minus 9223372036854775808 =
        .float ((9223372036854775807 : Int64).toFloat - (9223372036854775808 : UInt64).toFloat) ∧
      (uint 0).integer? = some 0 ∧ (0 : Int) - (9223372036854775808 : UInt64).toNat = -2 ^ 63 ∧
      (uint 0).minus 9223372036854775808 =
        .float ((0 : UInt64).toFloat - (9223372036854775808 : UInt64).toFloat) :=
  ⟨rfl, by decide, rfl, rfl, by decide, rfl⟩

/-- Two numbers are alike if they are the same or if they are words that hold one integer. -/
def Alike (left right : Number) : Prop :=
  left = right ∨ ∃ amount, left.integer? = some amount ∧ right.integer? = some amount

theorem Alike.text_eq {left right : Number} (alike : left.Alike right) : left.text = right.text := by
  rcases alike with rfl | ⟨amount, holdsLeft, holdsRight⟩
  · rfl
  · rw [text_of_integer? holdsLeft, text_of_integer? holdsRight]

/-- Only signed words hold negative integers. -/
theorem eq_int_of_integer?_neg {number : Number} {amount : Int}
    (holds : number.integer? = some amount) (negative : amount < 0) :
    ∃ word, number = .int word ∧ word.toInt = amount := by
  cases number with
  | int word => exact ⟨word, rfl, Option.some.inj holds⟩
  | uint word =>
    obtain rfl := Option.some.inj holds
    omega
  | float value => cases holds

/-- Less an offset that is a signed word, numbers that are alike are alike. -/
theorem Alike.minus {left right : Number} (alike : left.Alike right) {offset : UInt64}
    (small : offset.toNat ≤ maxInt) : (left.minus offset).Alike (right.minus offset) := by
  rcases alike with rfl | ⟨amount, holdsLeft, holdsRight⟩
  · exact .inl rfl
  by_cases inside : -2 ^ 63 ≤ amount - offset.toNat
  · exact .inr ⟨_, integer?_minus holdsLeft small inside, integer?_minus holdsRight small inside⟩
  · -- The difference leaves the words, but there is only one word to subtract from.
    have limit : maxInt = 2 ^ 63 - 1 := rfl
    have negative : amount < 0 := by omega
    obtain ⟨leftWord, rfl, rfl⟩ := eq_int_of_integer?_neg holdsLeft negative
    obtain ⟨rightWord, rfl, same⟩ := eq_int_of_integer?_neg holdsRight negative
    obtain rfl := Int64.toInt_inj.mp same
    exact .inl rfl

end Number

/-! ## Plural categories -/

/-- Rules see of a word the integer that it holds; below zero they see nothing. -/
theorem PluralRules.category_of_integer? (rules : PluralRules) {number : Number} {amount : Int}
    (holds : number.integer? = some amount) :
    rules.category number = if amount < 0 then .other else rules (.ofNat amount.toNat) := by
  unfold category PluralOperands.ofNumber?
  cases number with
  | int word =>
    obtain rfl := Option.some.inj holds
    have sign : word < 0 ↔ word.toInt < 0 := Int64.lt_iff_toInt_lt
    by_cases negative : word.toInt < 0
    · simp [Number.isNegative, sign, negative]
    · simp [Number.isNegative, Number.toInt64?, sign, negative]
  | uint word =>
    obtain rfl := Option.some.inj holds
    have nonnegative : ¬(word.toNat : Int) < 0 := by omega
    by_cases small : word.toNat ≤ Number.maxInt
    · have limit : Number.maxInt = 2 ^ 63 - 1 := rfl
      have held : (Int64.ofInt word.toNat).toInt = word.toNat :=
        Int64.toInt_ofInt_of_le (by omega) (by omega)
      simp [Number.isNegative, Number.toInt64?, small, nonnegative, held]
    · simp [Number.isNegative, Number.toInt64?, small, nonnegative]
  | float value => cases holds

/-- The selector of a language under the rules that `build` makes. -/
def RuleBuilder.selector (build : RuleBuilder) (language : Language) : PluralSelector :=
  fun number type => nameUnder (build (language, type)) number

/-- The selector of a language applies the rules that are always there. -/
theorem RuleBuilder.selector_standard (language : Language) :
    RuleBuilder.standard.selector language = language.selector := rfl

/-- Whatever rules are built, numbers that are alike have the same category. -/
theorem RuleBuilder.selector_congr (build : RuleBuilder) (language : Language)
    {left right : Number} (alike : left.Alike right) (type : PluralType) :
    build.selector language left type = build.selector language right type := by
  rcases alike with rfl | ⟨amount, holdsLeft, holdsRight⟩
  · rfl
  · rw [selector, selector]
    cases build (language, type) with
    | none => rfl
    | some rules =>
      simp only [nameUnder, rules.category_of_integer? holdsLeft,
        rules.category_of_integer? holdsRight]

end MessageTemplate
