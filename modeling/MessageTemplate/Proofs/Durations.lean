import Mathlib
import MessageTemplate.Decimal.Integer
import MessageTemplate.Value.Duration

/-!
# Reading the text of a duration

The text of a duration is a sum: decimal numbers, each with a unit of time behind it. No text is
such a sum in two ways, so what the text of a duration says is beyond doubt, and it is the exact
length. The sum is also the plain one: no number has digits that could be left out, and no minute
or second is counted that would fill the next unit.
-/

namespace MessageTemplate

/-! ## Runs of characters -/

/-- A run of characters of one sort ends where the first other character stands. -/
theorem run_append_inj {sort : Char → Bool} {left right rest others : List Char}
    (inLeft : ∀ character ∈ left, sort character = true)
    (inRight : ∀ character ∈ right, sort character = true)
    (behindLeft : ∀ character ∈ rest.head?, sort character = false)
    (behindRight : ∀ character ∈ others.head?, sort character = false)
    (same : left ++ rest = right ++ others) : left = right ∧ rest = others := by
  have run {run rest : List Char} (inside : ∀ character ∈ run, sort character = true)
      (behind : ∀ character ∈ rest.head?, sort character = false) :
      (run ++ rest).takeWhile sort = run := by
    rw [List.takeWhile_append_of_pos inside]
    cases rest with
    | nil => simp
    | cons character rest => simp [behind character rfl]
  have runs : left = right := by
    rw [← run inLeft behindLeft, same, run inRight behindRight]
  subst runs
  exact ⟨rfl, List.append_cancel_left same⟩

/-! ## Sums of times -/

/-- The units in the text of a duration. -/
inductive TimeUnit where
  | hour
  | minute
  | second
  | millisecond
  | microsecond
  | nanosecond
  deriving DecidableEq, Repr

namespace TimeUnit

/-- How a unit is written behind its number. -/
def symbol : TimeUnit → List Char
  | hour => ['h']
  | minute => ['m']
  | second => ['s']
  | millisecond => ['m', 's']
  | microsecond => ['µ', 's']
  | nanosecond => ['n', 's']

/-- The nanoseconds of a unit. -/
def nanoseconds : TimeUnit → Nat
  | hour => 3600000000000
  | minute => 60000000000
  | second => 1000000000
  | millisecond => 1000000
  | microsecond => 1000
  | nanosecond => 1

theorem symbol_injective : Function.Injective symbol := by
  intro left right same
  cases left <;> cases right <;> first | rfl | exact absurd same (by decide)

/-- No symbol could be taken for a part of the number before it. -/
theorem not_numeral_of_mem_symbol (unit : TimeUnit) :
    ∀ character ∈ unit.symbol, (character.isDigit || character = '.') = false := by
  cases unit <;> simp [symbol]

theorem symbol_ne_nil (unit : TimeUnit) : unit.symbol ≠ [] := by
  cases unit <;> exact List.cons_ne_nil _ _

end TimeUnit

namespace Duration

/-- A decimal number of a unit of time, as it is written: digits, and if there is a fraction a
point with its digits. -/
structure Term where
  whole : List Char
  fraction : List Char
  unit : TimeUnit
  whole_ne_nil : whole ≠ []
  isDigit_of_mem_whole : ∀ character ∈ whole, character.isDigit = true
  isDigit_of_mem_fraction : ∀ character ∈ fraction, character.isDigit = true

namespace Term

/-- The fraction behind its point, nothing if there is none. -/
def point (term : Term) : List Char :=
  if term.fraction = [] then [] else '.' :: term.fraction

/-- The text of a term. -/
def text (term : Term) : List Char := term.whole ++ (term.point ++ term.unit.symbol)

/-- The number of a term. -/
def number (term : Term) : ℚ :=
  Decimal.digitsValue term.whole +
    Decimal.digitsValue term.fraction / 10 ^ term.fraction.length

/-- The nanoseconds of a term. -/
def nanoseconds (term : Term) : ℚ := term.number * term.unit.nanoseconds

end Term

/-- A text is the sum of terms, written one behind the other. -/
def Reads (text : String) (terms : List Term) : Prop := text.toList = terms.flatMap Term.text

/-! ## A text is a sum in one way only -/

namespace Term

theorem not_isDigit_of_mem_head?_point (term : Term) :
    ∀ character ∈ term.point.head?, character.isDigit = false := by
  unfold point
  split
  · simp
  · simp

theorem numeral_of_mem (term : Term) :
    ∀ character ∈ term.whole ++ term.point, (character.isDigit || character = '.') = true := by
  intro character member
  rcases List.mem_append.mp member with inside | inside
  · simp [term.isDigit_of_mem_whole character inside]
  · unfold point at inside
    split at inside
    · cases inside
    · rcases List.mem_cons.mp inside with rfl | inside
      · rfl
      · simp [term.isDigit_of_mem_fraction character inside]

theorem head?_text (term : Term) (rest : List Char) :
    ∀ character ∈ (term.text ++ rest).head?, character.isDigit = true := by
  obtain ⟨first, digits, whole⟩ := List.exists_cons_of_ne_nil term.whole_ne_nil
  intro character found
  obtain rfl : first = character := by simpa [text, whole] using found
  exact term.isDigit_of_mem_whole first (by simp [whole])

/-- The text of a term ends where the next term begins. -/
theorem text_append_inj {left right : Term} {rest others : List Char}
    (behindLeft : ∀ character ∈ rest.head?, character.isDigit = true)
    (behindRight : ∀ character ∈ others.head?, character.isDigit = true)
    (same : left.text ++ rest = right.text ++ others) : left = right ∧ rest = others := by
  have symbolHead (term : Term) (rest : List Char) :
      ∀ character ∈ (term.unit.symbol ++ rest).head?,
        (character.isDigit || character = '.') = false := by
    obtain ⟨first, letters, symbol⟩ := List.exists_cons_of_ne_nil term.unit.symbol_ne_nil
    intro character found
    obtain rfl : first = character := by simpa [symbol] using found
    exact term.unit.not_numeral_of_mem_symbol first (by simp [symbol])
  have numbers : left.whole ++ left.point ++ (left.unit.symbol ++ rest) =
      right.whole ++ right.point ++ (right.unit.symbol ++ others) := by
    simpa [text] using same
  obtain ⟨number, behind⟩ := run_append_inj left.numeral_of_mem right.numeral_of_mem
    (symbolHead left rest) (symbolHead right others) numbers
  obtain ⟨whole, point⟩ := run_append_inj left.isDigit_of_mem_whole right.isDigit_of_mem_whole
    left.not_isDigit_of_mem_head?_point right.not_isDigit_of_mem_head?_point number
  have symbolic (unit : TimeUnit) : ∀ character ∈ unit.symbol, (!character.isDigit) = true := by
    intro character member
    have other := unit.not_numeral_of_mem_symbol character member
    simp_all
  obtain ⟨symbol, same⟩ := run_append_inj (symbolic left.unit) (symbolic right.unit)
    (by simpa using behindLeft) (by simpa using behindRight) behind
  refine ⟨?_, same⟩
  have fraction : left.fraction = right.fraction := by
    unfold Term.point at point
    split_ifs at point <;> simp_all
  cases left
  cases right
  simp_all [TimeUnit.symbol_injective.eq_iff]

end Term

/-- The text of terms begins with a digit, if it has a beginning. -/
theorem head?_flatMap_text (terms : List Term) :
    ∀ character ∈ (terms.flatMap Term.text).head?, character.isDigit = true := by
  cases terms with
  | nil => simp
  | cons term terms =>
    rw [List.flatMap_cons]
    exact term.head?_text _

/-- Terms are told apart by their text. -/
theorem flatMap_text_injective : Function.Injective (List.flatMap Term.text) := by
  intro left
  induction left with
  | nil =>
    intro right same
    cases right with
    | nil => rfl
    | cons term right => simp [Term.text, term.whole_ne_nil] at same
  | cons term left inductionHypothesis =>
    intro right same
    cases right with
    | nil => simp [Term.text, term.whole_ne_nil] at same
    | cons other right =>
      rw [List.flatMap_cons, List.flatMap_cons] at same
      obtain ⟨rfl, rest⟩ := Term.text_append_inj (head?_flatMap_text left)
        (head?_flatMap_text right) same
      rw [inductionHypothesis rest]

theorem Reads.unique {text : String} {terms others : List Term} (reads : Reads text terms)
    (same : Reads text others) : terms = others :=
  flatMap_text_injective (reads.symm.trans same)

/-! ## The digits of a quotient -/

/-- The digits of a fraction of `10 ^ places`, without zeros at the end. -/
def fractionDigits (part places : Nat) : List Char :=
  (List.replicate (places - (Nat.toDigits 10 part).length) '0' ++
    Nat.toDigits 10 part).rdropWhile (· = '0')

theorem isDigit_of_mem_fractionDigits (part places : Nat) :
    ∀ character ∈ fractionDigits part places, character.isDigit = true := by
  intro character member
  rcases List.mem_append.mp ((List.rdropWhile_prefix _ _).mem member) with inside | inside
  · rw [List.eq_of_mem_replicate inside]
    rfl
  · exact Nat.isDigit_of_mem_toDigits (by decide) (by decide) inside

theorem getLast?_fractionDigits (part places : Nat) :
    (fractionDigits part places).getLast? ≠ some '0' := by
  intro zero
  obtain ⟨full, last⟩ := List.mem_getLast?_eq_getLast zero
  have kept := List.rdropWhile_last_not _ _ full
  simp only [decide_eq_true_eq] at kept
  exact kept last.symm

/-- Only zeros are left out at the end. -/
theorem exists_zeros (part places : Nat) :
    ∃ zeros, fractionDigits part places ++ List.replicate zeros '0' =
      List.replicate (places - (Nat.toDigits 10 part).length) '0' ++ Nat.toDigits 10 part := by
  generalize padded_eq : List.replicate (places - (Nat.toDigits 10 part).length) '0' ++
    Nat.toDigits 10 part = padded
  have zeros : padded.rtakeWhile (· = '0') =
      List.replicate (padded.rtakeWhile (· = '0')).length '0' :=
    List.eq_replicate_iff.mpr ⟨rfl, fun digit member => by
      simpa using List.mem_rtakeWhile_imp member⟩
  refine ⟨(padded.rtakeWhile (· = '0')).length, ?_⟩
  rw [← zeros, fractionDigits, padded_eq]
  exact List.rdropWhile_append_rtakeWhile

/-- The digits are those of the quotient behind the point. -/
theorem digitsValue_fractionDigits {part places : Nat} (proper : part < 10 ^ places) :
    (Decimal.digitsValue (fractionDigits part places) : ℚ) /
      10 ^ (fractionDigits part places).length = part / 10 ^ places := by
  rcases Nat.eq_zero_or_pos places with rfl | positive
  · obtain rfl : part = 0 := by simpa using proper
    rfl
  · obtain ⟨zeros, padded⟩ := exists_zeros part places
    have short : (Nat.toDigits 10 part).length ≤ places :=
      (Nat.length_toDigits_le_iff (by decide) positive).mpr proper
    have length : (fractionDigits part places).length + zeros = places := by
      have lengths := congrArg List.length padded
      simp only [List.length_append, List.length_replicate] at lengths
      omega
    have value : 10 ^ zeros * Decimal.digitsValue (fractionDigits part places) = part := by
      have values := congrArg (Nat.ofDigitChars 10 · 0) padded
      simpa [Decimal.digitsValue, Nat.ofDigitChars_append] using values
    generalize fractionDigits part places = digits at length value
    rw [← value, ← length, pow_add]
    push_cast
    field_simp

theorem fractionDigits_eq_nil_iff {part places : Nat} (proper : part < 10 ^ places) :
    fractionDigits part places = [] ↔ part = 0 := by
  constructor
  · intro none
    have value := digitsValue_fractionDigits proper
    rw [none] at value
    have zero : (part : ℚ) / 10 ^ places = 0 := by simpa [Decimal.digitsValue] using value.symm
    simpa using zero
  · rintro rfl
    rw [fractionDigits, List.rdropWhile_eq_nil_iff, Nat.toDigits_zero]
    intro digit member
    rcases List.mem_append.mp member with padding | last
    · simp [List.eq_of_mem_replicate padding]
    · simp [List.mem_singleton.mp last]

namespace Term

/-- A whole number as a term. -/
def ofWhole (amount : Nat) (unit : TimeUnit) : Term where
  whole := Nat.toDigits 10 amount
  fraction := []
  unit := unit
  whole_ne_nil := Nat.toDigits_ne_nil
  isDigit_of_mem_whole _ member := Nat.isDigit_of_mem_toDigits (by decide) (by decide) member
  isDigit_of_mem_fraction := by simp

@[simp] theorem unit_ofWhole (amount : Nat) (unit : TimeUnit) :
    (ofWhole amount unit).unit = unit := rfl

@[simp] theorem fraction_ofWhole (amount : Nat) (unit : TimeUnit) :
    (ofWhole amount unit).fraction = [] := rfl

@[simp] theorem number_ofWhole (amount : Nat) (unit : TimeUnit) :
    (ofWhole amount unit).number = amount := by
  simp [number, ofWhole, Decimal.digitsValue]

@[simp] theorem text_ofWhole (amount : Nat) (unit : TimeUnit) :
    (ofWhole amount unit).text = (toString amount).toList ++ unit.symbol := by
  simp [text, point, ofWhole, Nat.repr_eq_ofList_toDigits]

/-- The quotient `amount / 10 ^ places` as a term. -/
def ofQuotient (amount places : Nat) (unit : TimeUnit) : Term where
  whole := Nat.toDigits 10 (amount / 10 ^ places)
  fraction := fractionDigits (amount % 10 ^ places) places
  unit := unit
  whole_ne_nil := Nat.toDigits_ne_nil
  isDigit_of_mem_whole _ member := Nat.isDigit_of_mem_toDigits (by decide) (by decide) member
  isDigit_of_mem_fraction := isDigit_of_mem_fractionDigits _ _

@[simp] theorem unit_ofQuotient (amount places : Nat) (unit : TimeUnit) :
    (ofQuotient amount places unit).unit = unit := rfl

@[simp] theorem number_ofQuotient (amount places : Nat) (unit : TimeUnit) :
    (ofQuotient amount places unit).number = amount / 10 ^ places := by
  have power : (10 ^ places : ℚ) ≠ 0 := by positivity
  have proper : amount % 10 ^ places < 10 ^ places := Nat.mod_lt _ (by positivity)
  have whole : ((10 ^ places * (amount / 10 ^ places) + amount % 10 ^ places : Nat) : ℚ) = amount :=
    congrArg Nat.cast (Nat.div_add_mod amount (10 ^ places))
  push_cast at whole
  rw [number, ofQuotient, Decimal.digitsValue_toDigits, digitsValue_fractionDigits proper]
  field_simp
  linarith

@[simp] theorem text_ofQuotient (amount places : Nat) (unit : TimeUnit) :
    (ofQuotient amount places unit).text = (decimalText amount places).toList ++ unit.symbol := by
  have proper : amount % 10 ^ places < 10 ^ places := Nat.mod_lt _ (by positivity)
  have none_iff := fractionDigits_eq_nil_iff proper
  rw [text, point, ofQuotient, decimalText]
  by_cases whole : amount % 10 ^ places = 0
  · rw [if_pos (none_iff.mpr whole)]
    simp [whole]
  · rw [if_neg (mt none_iff.mp whole)]
    simp [whole, fractionDigits, List.rdropWhile]

/-- A number has no digits that could be left out. -/
structure Plain (term : Term) : Prop where
  whole_eq : term.whole = Nat.toDigits 10 (Decimal.digitsValue term.whole)
  fraction_ne : term.fraction.getLast? ≠ some '0'

theorem plain_ofWhole (amount : Nat) (unit : TimeUnit) : (ofWhole amount unit).Plain where
  whole_eq := by rw [ofWhole, Decimal.digitsValue_toDigits]
  fraction_ne := by simp

theorem plain_ofQuotient (amount places : Nat) (unit : TimeUnit) :
    (ofQuotient amount places unit).Plain where
  whole_eq := by rw [ofQuotient, Decimal.digitsValue_toDigits]
  fraction_ne := getLast?_fractionDigits _ _

end Term

/-! ## The terms of a duration -/

/-- The terms that a length in nanoseconds is written with. -/
inductive Composed (total : Nat) : List Term → Prop where
  | zero (nothing : total = 0) : Composed total [.ofWhole 0 .second]
  | part (unit : TimeUnit) (places : Nat) (scale : unit.nanoseconds = 10 ^ places)
      (small : unit.nanoseconds < 1000000000) (least : unit.nanoseconds ≤ total)
      (most : total < 1000 * unit.nanoseconds) : Composed total [.ofQuotient total places unit]
  | seconds (rest : Nat) (total_eq : total = rest) (least : 1000000000 ≤ rest)
      (rest_lt : rest < 60000000000) : Composed total [.ofQuotient rest 9 .second]
  | minutes (minutes rest : Nat) (total_eq : total = minutes * 60000000000 + rest)
      (positive : 0 < minutes) (minutes_lt : minutes < 60) (rest_lt : rest < 60000000000) :
      Composed total [.ofWhole minutes .minute, .ofQuotient rest 9 .second]
  | hours (hours minutes rest : Nat)
      (total_eq : total = hours * 3600000000000 + minutes * 60000000000 + rest)
      (positive : 0 < hours) (minutes_lt : minutes < 60) (rest_lt : rest < 60000000000) :
      Composed total [.ofWhole hours .hour, .ofWhole minutes .minute, .ofQuotient rest 9 .second]

/-- The text of a duration is written with the terms of its length. -/
theorem exists_composed (duration : Duration) :
    ∃ terms, Composed duration.totalNanoseconds terms ∧ Reads duration.text terms := by
  obtain ⟨hours, hours_eq⟩ : ∃ hours, hours = duration.seconds.toNat / 3600 := ⟨_, rfl⟩
  obtain ⟨minutes, minutes_eq⟩ : ∃ minutes, minutes = duration.seconds.toNat % 3600 / 60 :=
    ⟨_, rfl⟩
  obtain ⟨rest, rest_eq⟩ : ∃ rest,
      rest = duration.seconds.toNat % 60 * 1000000000 + duration.nanoseconds := ⟨_, rfl⟩
  have total_eq : duration.totalNanoseconds =
      hours * 3600000000000 + minutes * 60000000000 + rest := by
    unfold totalNanoseconds
    omega
  have minutes_lt : minutes < 60 := by omega
  have rest_lt : rest < 60000000000 := by
    have less := duration.nanoseconds_lt
    omega
  simp only [Reads, text, ← rest_eq, ← minutes_eq, ← hours_eq]
  split_ifs with nothing nanoseconds microseconds milliseconds hour minute
  · exact ⟨_, .zero nothing, by simp [TimeUnit.symbol]⟩
  · have least : 1 ≤ duration.totalNanoseconds := Nat.one_le_iff_ne_zero.mpr nothing
    exact ⟨_, .part .nanosecond 0 rfl (by decide) least nanoseconds, by simp [TimeUnit.symbol]⟩
  · have least : 1000 ≤ duration.totalNanoseconds := not_lt.mp nanoseconds
    exact ⟨_, .part .microsecond 3 rfl (by decide) least microseconds, by simp [TimeUnit.symbol]⟩
  · have least : 1000000 ≤ duration.totalNanoseconds := not_lt.mp microseconds
    exact ⟨_, .part .millisecond 6 rfl (by decide) least milliseconds, by simp [TimeUnit.symbol]⟩
  · exact ⟨_, .hours hours minutes rest total_eq hour minutes_lt rest_lt, by simp [TimeUnit.symbol]⟩
  · rw [Nat.eq_zero_of_not_pos hour, Nat.zero_mul, Nat.zero_add] at total_eq
    exact ⟨_, .minutes minutes rest total_eq minute minutes_lt rest_lt, by simp [TimeUnit.symbol]⟩
  · simp only [Nat.eq_zero_of_not_pos hour, Nat.eq_zero_of_not_pos minute, Nat.zero_mul,
      Nat.zero_add] at total_eq
    exact ⟨_, .seconds rest total_eq (by omega) rest_lt, by simp [TimeUnit.symbol]⟩

variable {total : Nat} {terms : List Term}

/-- The terms of a length add up to it. -/
theorem Composed.sum_eq (composed : Composed total terms) :
    (terms.map Term.nanoseconds).sum = total := by
  cases composed with
  | zero nothing => simp [Term.nanoseconds, nothing]
  | part unit places scale => simp [Term.nanoseconds, scale]
  | seconds rest total_eq =>
    simp [Term.nanoseconds, TimeUnit.nanoseconds, total_eq]
    ring
  | minutes minutes rest total_eq =>
    simp [Term.nanoseconds, TimeUnit.nanoseconds, total_eq]
    ring
  | hours hours minutes rest total_eq =>
    simp [Term.nanoseconds, TimeUnit.nanoseconds, total_eq]
    ring

/-- Terms in which nothing could be left out, and in which each unit has its place. -/
structure Canonical (terms : List Term) : Prop where
  /-- No number has zeros in front or at the end of its fraction. -/
  plain : ∀ term ∈ terms, term.Plain
  /-- Only the last number has a fraction. -/
  whole : ∀ term ∈ terms.dropLast, term.fraction = []
  /-- Minutes and seconds behind a larger unit do not fill the next one. -/
  below : ∀ term ∈ terms, ∀ larger ∈ terms, term.unit = .minute ∨ term.unit = .second →
    term.unit.nanoseconds < larger.unit.nanoseconds → term.number < 60
  /-- Hours are at least one, and minutes and seconds stand behind them. -/
  hours : ∀ term ∈ terms, term.unit = .hour →
    1 ≤ term.number ∧ terms.map Term.unit = [.hour, .minute, .second]

theorem canonical_singleton {term : Term} (plain : term.Plain) (unit : term.unit ≠ .hour) :
    Canonical [term] where
  plain := by simpa using plain
  whole := by simp
  below := by simp
  hours := by simp [unit]

theorem Composed.canonical (composed : Composed total terms) : Canonical terms := by
  have seconds {rest : Nat} (rest_lt : rest < 60000000000) : (rest : ℚ) / 10 ^ 9 < 60 := by
    rw [div_lt_iff₀ (by positivity)]
    exact_mod_cast rest_lt
  cases composed with
  | zero => exact canonical_singleton (Term.plain_ofWhole _ _) (by simp)
  | seconds => exact canonical_singleton (Term.plain_ofQuotient _ _ _) (by simp)
  | part unit places scale small =>
    refine canonical_singleton (Term.plain_ofQuotient _ _ _) ?_
    rintro rfl
    exact absurd small (by decide)
  | minutes minutes rest total_eq positive minutes_lt rest_lt =>
    exact {
      plain := by simp [Term.plain_ofWhole, Term.plain_ofQuotient]
      whole := by simp
      below := by simp [minutes_lt, seconds rest_lt, TimeUnit.nanoseconds]
      hours := by simp }
  | hours hours minutes rest total_eq positive minutes_lt rest_lt =>
    exact {
      plain := by simp [Term.plain_ofWhole, Term.plain_ofQuotient]
      whole := by simp
      below := by simp [minutes_lt, seconds rest_lt, TimeUnit.nanoseconds]
      hours := by simpa using Nat.one_le_iff_ne_zero.mpr positive.ne' }

/-- A length below a second has one term, a number of one to three digits before the point. -/
theorem Composed.exists_part (composed : Composed total terms) (positive : 0 < total)
    (less : total < 1000000000) :
    ∃ term, terms = [term] ∧ term.unit ∈ [.millisecond, .microsecond, .nanosecond] ∧
      1 ≤ Decimal.digitsValue term.whole ∧ Decimal.digitsValue term.whole ≤ 999 := by
  cases composed with
  | zero nothing => omega
  | seconds rest total_eq least => omega
  | minutes minutes rest total_eq | hours hours minutes rest total_eq => omega
  | part unit places scale small least most =>
    refine ⟨_, rfl, ?_, ?_⟩
    · cases unit <;> simp [TimeUnit.nanoseconds] at small ⊢
    · rw [scale] at least most
      rw [Term.ofQuotient, Decimal.digitsValue_toDigits]
      have quotient : total / 10 ^ places < 1000 := Nat.div_lt_of_lt_mul (by linarith)
      exact ⟨Nat.div_pos least (by positivity), by omega⟩

theorem eq_of_totalNanoseconds_eq {left right : Duration}
    (same : left.totalNanoseconds = right.totalNanoseconds) : left = right := by
  obtain ⟨seconds, nanoseconds, less⟩ := left
  obtain ⟨otherSeconds, otherNanoseconds, otherLess⟩ := right
  simp only [totalNanoseconds] at same
  have parts : seconds.toNat = otherSeconds.toNat ∧ nanoseconds = otherNanoseconds := by omega
  rw [UInt64.toNat_inj] at parts
  obtain ⟨rfl, rfl⟩ := parts
  rfl

/-- The text of a duration is a sum of terms in one way only, and the sum is the exact length, so
no other duration has this text. The terms are canonical; a length below a second that is not zero
has a single term, in a smaller unit, with one to three digits before the point. -/
theorem reads_text (duration : Duration) :
    (∃ terms, Reads duration.text terms ∧
      (∀ others, Reads duration.text others → others = terms) ∧
      (terms.map Term.nanoseconds).sum = duration.totalNanoseconds ∧ Canonical terms ∧
      (0 < duration.totalNanoseconds → duration.totalNanoseconds < 1000000000 →
        ∃ term, terms = [term] ∧ term.unit ∈ [.millisecond, .microsecond, .nanosecond] ∧
          1 ≤ Decimal.digitsValue term.whole ∧ Decimal.digitsValue term.whole ≤ 999)) ∧
      (∀ other : Duration, other.text = duration.text → other = duration) ∧
      (duration.totalNanoseconds = 0 → duration.text = "0s") := by
  obtain ⟨terms, composed, reads⟩ := duration.exists_composed
  refine ⟨⟨terms, reads, fun others same => same.unique reads, composed.sum_eq,
    composed.canonical, composed.exists_part⟩, fun other same => ?_, fun nothing => ?_⟩
  · obtain ⟨others, composedOther, readsOther⟩ := other.exists_composed
    rw [same] at readsOther
    obtain rfl := readsOther.unique reads
    have total := composedOther.sum_eq.symm.trans composed.sum_eq
    exact eq_of_totalNanoseconds_eq (by exact_mod_cast total)
  · simp [text, nothing]

end Duration

end MessageTemplate
