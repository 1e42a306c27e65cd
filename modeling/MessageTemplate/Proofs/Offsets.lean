import Mathlib
import MessageTemplate.Proofs.Integers
import MessageTemplate.Proofs.Tokens

/-!
# Which offsets are read

An offset is written as a numeral: ASCII digits, with or without a sign. It goes through a signed
word before its sign is looked at, so of the integers that an offset can hold the upper half is
refused, and of the negative ones those beyond the signed words are not told from a text that is no
numeral. What stands here is exact in both respects.
-/

namespace MessageTemplate

namespace Decimal

/-- A numeral and the integer that it denotes. -/
inductive Denotes : List Char → Int → Prop where
  | bare {digits : List Char} (nonempty : digits ≠ [])
      (digital : ∀ character ∈ digits, character.isDigit = true) :
      Denotes digits (digitsValue digits)
  | plus {digits : List Char} (nonempty : digits ≠ [])
      (digital : ∀ character ∈ digits, character.isDigit = true) :
      Denotes ('+' :: digits) (digitsValue digits)
  | minus {digits : List Char} (nonempty : digits ≠ [])
      (digital : ∀ character ∈ digits, character.isDigit = true) :
      Denotes ('-' :: digits) (-(digitsValue digits : Int))

theorem Denotes.ne_nil {numeral : List Char} {value : Int} (denotes : Denotes numeral value) :
    numeral ≠ [] := by
  cases denotes with
  | bare nonempty => exact nonempty
  | plus | minus => exact List.cons_ne_nil _ _

/-- Numerals are read as what they denote, and nothing else is read. -/
theorem integer?_eq_some_iff {numeral : List Char} {value : Int} :
    integer? numeral = some value ↔ Denotes numeral value := by
  constructor
  · intro read
    unfold integer? at read
    split at read
    · obtain ⟨_, magnitude, rfl⟩ := Option.map_eq_some_iff.mp read
      obtain ⟨value, natural, same⟩ := Option.bind_eq_some_iff.mp magnitude
      obtain rfl := Option.some.inj same
      obtain ⟨nonempty, digital, rfl⟩ := natural?_eq_some_iff.mp natural
      exact .minus nonempty digital
    · obtain ⟨magnitude, natural, rfl⟩ := Option.map_eq_some_iff.mp read
      obtain ⟨nonempty, digital, rfl⟩ := natural?_eq_some_iff.mp natural
      exact .plus nonempty digital
    · obtain ⟨magnitude, natural, rfl⟩ := Option.map_eq_some_iff.mp read
      obtain ⟨nonempty, digital, rfl⟩ := natural?_eq_some_iff.mp natural
      exact .bare nonempty digital
  · rintro (⟨nonempty, digital⟩ | ⟨nonempty, digital⟩ | ⟨nonempty, digital⟩)
    · exact integer?_of_natural? (natural?_eq_some_iff.mpr ⟨nonempty, digital, rfl⟩)
    · rw [integer?, natural?_eq_some_iff.mpr ⟨nonempty, digital, rfl⟩]
      rfl
    · rw [integer?, natural?_eq_some_iff.mpr ⟨nonempty, digital, rfl⟩]
      rfl

/-- A numeral denotes one integer. -/
theorem Denotes.unique {numeral : List Char} {value other : Int} (denotes : Denotes numeral value)
    (same : Denotes numeral other) : value = other :=
  Option.some.inj ((integer?_eq_some_iff.mpr denotes).symm.trans (integer?_eq_some_iff.mpr same))

/-- No signed word is read where there is no numeral, and where none holds what it denotes. -/
theorem int64?_eq_none_iff {numeral : List Char} :
    int64? numeral = none ↔ ∀ value, Denotes numeral value → value < -2 ^ 63 ∨ 2 ^ 63 ≤ value := by
  constructor
  · intro unread value denotes
    by_contra within
    have held : (Int64.ofInt value).toInt = value := by
      rw [Int64.toInt_ofInt_of_le (by omega) (by omega)]
    have read : int64? numeral = some (Int64.ofInt value) := by
      rw [int64?_eq_some_iff, held]
      exact integer?_eq_some_iff.mpr denotes
    simp [unread] at read
  · intro beyond
    rw [Option.eq_none_iff_forall_ne_some]
    intro word read
    have denotes := integer?_eq_some_iff.mp (int64?_eq_some_iff.mp read)
    have least := word.le_toInt
    have greatest := word.toInt_lt
    rcases beyond _ denotes with below | above
    · omega
    · omega

end Decimal

namespace Reader

open Decimal

theorem offsetValue_nil : offsetValue [] = .error .missingOffsetValue := rfl

/-- A text that is no numeral, and a numeral whose integer is beyond the signed words. -/
theorem offsetValue_of_beyond {numeral : List Char} (nonempty : numeral ≠ [])
    (beyond : ∀ value, Denotes numeral value → value < -2 ^ 63 ∨ 2 ^ 63 ≤ value) :
    offsetValue numeral = .error .badCast := by
  have full : ¬numeral.isEmpty = true := by simpa using nonempty
  rw [offsetValue, if_neg full, int64?_eq_none_iff.mpr beyond]

/-- A numeral whose integer a signed word holds is judged by the sign of that word. -/
theorem offsetValue_of_word {numeral : List Char} {word : Int64}
    (denotes : Denotes numeral word.toInt) :
    offsetValue numeral = if word < 0 then .error .invalidOffsetValue else .ok word.toUInt64 := by
  have full : ¬numeral.isEmpty = true := by simpa using denotes.ne_nil
  rw [offsetValue, if_neg full, int64?_eq_some_iff.mpr (integer?_eq_some_iff.mpr denotes)]

/-- The negative integers that are told from other texts are those of the signed words. -/
theorem offsetValue_of_negative {numeral : List Char} {value : Int}
    (denotes : Denotes numeral value) (held : -2 ^ 63 ≤ value) (negative : value < 0) :
    offsetValue numeral = .error .invalidOffsetValue := by
  have same : (Int64.ofInt value).toInt = value := Int64.toInt_ofInt_of_le held (by omega)
  have signed : Int64.ofInt value < 0 := by
    rw [Int64.lt_iff_toInt_lt, same]
    exact negative
  have word : Denotes numeral (Int64.ofInt value).toInt := by rwa [same]
  rw [offsetValue_of_word word, if_pos signed]

/-- The offsets that are read are those below 2^63. -/
theorem offsetValue_of_natural {numeral : List Char} {word : UInt64}
    (denotes : Denotes numeral word.toNat) (small : word.toNat < 2 ^ 63) :
    offsetValue numeral = .ok word := by
  have same : word.toInt64.toInt = word.toNat := by
    calc
      word.toInt64.toInt = (UInt64.ofNat word.toNat).toInt64.toInt := by rw [UInt64.ofNat_toNat]
      _ = (Int64.ofNat word.toNat).toInt := by rw [UInt64.toInt64_ofNat']
      _ = word.toNat := Int64.toInt_ofNat_of_lt small
  have unsigned : ¬word.toInt64 < 0 := by
    rw [Int64.lt_iff_toInt_lt, same]
    exact Int.not_lt.mpr (Int.natCast_nonneg _)
  have signed : Denotes numeral word.toInt64.toInt := by rwa [same]
  rw [offsetValue_of_word signed, if_neg unsigned, UInt64.toUInt64_toInt64]

/-! ## Readings -/

section Ended

variable {cursor : Cursor} {ending : Char}
  (present : ((cursor.passWhile isBlank).passWhile isOffsetCharacter).peek? = some ending)
include present

/-- Before the character that ends it a numeral without a value is a fault. -/
theorem offset_run_of_error {fault : ParseFault}
    (refused : offsetValue ((cursor.passWhile isBlank).rest.takeWhile isOffsetCharacter) =
      .error fault) :
    offset.run cursor =
      .fail fault ((cursor.passWhile isBlank).passWhile isOffsetCharacter) := by
  rw [offset_run, offsetEnd, present]
  dsimp only
  rw [refused]

/-- Before the character that ends it a numeral with a value is that value. -/
theorem offset_run_of_ok {word : UInt64}
    (valued : offsetValue ((cursor.passWhile isBlank).rest.takeWhile isOffsetCharacter) =
      .ok word) :
    offset.run cursor =
      .done word ((cursor.passWhile isBlank).passWhile isOffsetCharacter) := by
  rw [offset_run, offsetEnd_eq_done_iff]
  exact ⟨valued, rfl, ending, present⟩

end Ended

/-- From any place on, an offset is what stands behind the blanks up to a blank or a brace. Without
such an end the text is unbalanced. Before one, a fault shows if there is nothing, no numeral, or
the numeral of a negative integer or of one beyond the signed words; any other integer is the
offset. -/
theorem offset_run_cases (cursor : Cursor) :
    let start := cursor.passWhile isBlank
    let numeral := start.rest.takeWhile isOffsetCharacter
    let stop := start.passWhile isOffsetCharacter
    (stop.peek? = none → offset.run cursor = .fail .unbalancedBraces stop) ∧
    ∀ ending, stop.peek? = some ending →
      (isBlank ending = true ∨ ending = '{' ∨ ending = '}') ∧
      (numeral = [] → offset.run cursor = .fail .missingOffsetValue stop) ∧
      (numeral ≠ [] → (∀ value, ¬Denotes numeral value) →
        offset.run cursor = .fail .badCast stop) ∧
      ∀ value, Denotes numeral value →
        (value < -2 ^ 63 ∨ 2 ^ 63 ≤ value → offset.run cursor = .fail .badCast stop) ∧
        (-2 ^ 63 ≤ value → value < 0 → offset.run cursor = .fail .invalidOffsetValue stop) ∧
        (0 ≤ value → value < 2 ^ 63 →
          ∃ word : UInt64, word.toNat = value ∧ offset.run cursor = .done word stop) := by
  intro start numeral stop
  refine ⟨fun atEnd => ?_, fun ending present => ⟨?_, fun empty => ?_, fun nonempty foreign => ?_,
    fun value denotes => ⟨fun beyond => ?_, fun held negative => ?_, fun natural small => ?_⟩⟩⟩
  · rw [offset_run, offsetEnd, show stop.peek? = none from atEnd]
  · have outside := Cursor.not_of_peek?_passWhile present
    simpa only [isOffsetCharacter, Bool.not_eq_false', Bool.or_eq_true, decide_eq_true_eq,
      or_assoc] using outside
  · apply offset_run_of_error present
    rw [show start.rest.takeWhile isOffsetCharacter = [] from empty, offsetValue_nil]
  · apply offset_run_of_error present
    exact offsetValue_of_beyond nonempty fun value denotes => absurd denotes (foreign value)
  · apply offset_run_of_error present
    apply offsetValue_of_beyond denotes.ne_nil
    intro other same
    rwa [same.unique denotes]
  · exact offset_run_of_error present (offsetValue_of_negative denotes held negative)
  · have fits : value.toNat < UInt64.size := by
      have size : UInt64.size = 2 ^ 64 := rfl
      omega
    obtain ⟨word, rfl⟩ : ∃ word : UInt64, (word.toNat : Int) = value :=
      ⟨.ofNat value.toNat, by rw [UInt64.toNat_ofNat_of_lt' fits, Int.toNat_of_nonneg natural]⟩
    exact ⟨word, rfl, offset_run_of_ok present (offsetValue_of_natural denotes (by omega))⟩

/-- Blanks and a plus sign may stand before the digits of an offset. -/
theorem offset_run_cases_plus :
    Denotes ['+', '7'] 7 ∧ ∃ word : UInt64, word.toNat = (7 : Int) ∧
      offset.run (.start " +7 x") = .done word ⟨['7', '+', ' '], [' ', 'x']⟩ := by
  have denotes : Denotes ['+', '7'] 7 := integer?_eq_some_iff.mp rfl
  have ended := (offset_run_cases (.start " +7 x")).2 ' ' rfl
  exact ⟨denotes, (ended.2.2.2 7 denotes).2.2 (by decide) (by decide)⟩

/-- The integer 2^63 is refused as if it were no numeral, although an offset can hold it, and the
integer before -2^63 as well, although it is negative. -/
theorem offset_run_beyond :
    Denotes "9223372036854775808".toList 9223372036854775808 ∧
      (9223372036854775808 : UInt64).toNat = 9223372036854775808 ∧
      offset.run (.start "9223372036854775808 ") =
        .fail .badCast ⟨"9223372036854775808".toList.reverse, [' ']⟩ ∧
      Denotes "-9223372036854775809".toList (-9223372036854775809) ∧
      offset.run (.start "-9223372036854775809 ") =
        .fail .badCast ⟨"-9223372036854775809".toList.reverse, [' ']⟩ := by
  refine ⟨integer?_eq_some_iff.mp ?_, rfl, ?_, integer?_eq_some_iff.mp ?_, ?_⟩
  · cbv
  · cbv
  · cbv
  · cbv

end Reader

end MessageTemplate
