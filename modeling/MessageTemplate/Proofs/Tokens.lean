import MessageTemplate.Proofs.Grammar
import MessageTemplate.Proofs.Reading

/-!
# Tokens in closed form

The readers of words go through the text character by character. Here each of them is equal
to a description in terms of runs of characters, faults included, and takes exactly the words
of the grammar.
-/

namespace MessageTemplate

/-! ## Characters -/

theorem isBlank_iff {character : Char} :
    isBlank character = true ↔
      character = ' ' ∨ character = '\t' ∨ character = '\r' ∨ character = '\n' := by
  simp [isBlank, or_assoc]

theorem endsChoiceName_iff {character : Char} :
    endsChoiceName character = true ↔
      character = ':' ∨ character = ',' ∨ character = '}' ∨ character = '{' := by
  simp [endsChoiceName, or_assoc]

/-- A character of a name is neither blank nor structural. -/
theorem isBlank_eq_false_of_isNameCharacter {character : Char}
    (named : isNameCharacter character = true) : isBlank character = false := by
  rw [← Bool.not_eq_true, isBlank_iff]
  rintro (rfl | rfl | rfl | rfl) <;> exact absurd named (by decide)

theorem ne_of_isNameCharacter {character : Char} (other : Char)
    (named : isNameCharacter character = true) (unnamed : isNameCharacter other = false) :
    character ≠ other := by
  rintro rfl
  simp [named] at unnamed

theorem isNameCharacter_eq_false_of_isBlank {character : Char} (blank : isBlank character = true) :
    isNameCharacter character = false := by
  rw [← Bool.not_eq_true]
  intro named
  simp [isBlank_eq_false_of_isNameCharacter named] at blank

namespace Cursor

@[simp] theorem passWhile_nil (property : Char → Bool) (passed : List Char) :
    passWhile property ⟨passed, []⟩ = ⟨passed, []⟩ := rfl

theorem passWhile_cons_of_pos {property : Char → Bool} {passed rest : List Char}
    {character : Char} (holds : property character = true) :
    passWhile property ⟨passed, character :: rest⟩ =
      passWhile property ⟨character :: passed, rest⟩ := by
  simp [passWhile, holds]

theorem passWhile_cons_of_neg {property : Char → Bool} {passed rest : List Char}
    {character : Char} (fails : property character = false) :
    passWhile property ⟨passed, character :: rest⟩ = ⟨passed, character :: rest⟩ := by
  simp [passWhile, fails]

end Cursor

namespace Reader

/-! ## Identifiers -/

/-- What the character at `stop` makes of the identifier `name` read before it. -/
def identifierEnd (name : String) (stop : Cursor) : Reading String :=
  match stop.peek? with
  | none => .fail .unbalancedBraces stop
  | some character =>
    if character = ',' ∨ character = '}' then .done name stop
    else if character = '{' then .fail .invalidExpr stop
    else .fail .invalidFormat stop

/-- After a gap only blanks may follow up to the end of an identifier. -/
theorem identifierFrom_gap (name passed rest : List Char) :
    identifierFrom name true passed rest =
      identifierEnd (String.ofList name.reverse) (Cursor.passWhile isBlank ⟨passed, rest⟩) := by
  induction rest generalizing passed with
  | nil => rfl
  | cons character rest inductionHypothesis =>
    by_cases blank : isBlank character = true
    · have noEnd : ¬(character = ',' ∨ character = '}') := by
        rintro (rfl | rfl) <;> exact absurd blank (by decide)
      have noBrace : character ≠ '{' := by
        rintro rfl
        exact absurd blank (by decide)
      rw [Cursor.passWhile_cons_of_pos blank, ← inductionHypothesis]
      simp [identifierFrom, noEnd, noBrace, blank]
    · rw [Bool.not_eq_true] at blank
      rw [Cursor.passWhile_cons_of_neg blank]
      simp [identifierFrom, identifierEnd, Cursor.peek?, blank]

/-- An identifier goes on as long as its characters do; then blanks may follow. -/
theorem identifierFrom_eq (name passed rest : List Char) :
    identifierFrom name false passed rest =
      identifierEnd (String.ofList (name.reverse ++ rest.takeWhile isNameCharacter))
        ((Cursor.passWhile isNameCharacter ⟨passed, rest⟩).passWhile isBlank) := by
  induction rest generalizing name passed with
  | nil => simp [identifierFrom, identifierEnd, Cursor.peek?]
  | cons character rest inductionHypothesis =>
    by_cases named : isNameCharacter character = true
    · have unblank := isBlank_eq_false_of_isNameCharacter named
      have noEnd : ¬(character = ',' || character = '}') := by
        simp [ne_of_isNameCharacter ',' named (by decide),
          ne_of_isNameCharacter '}' named (by decide)]
      have noBrace : character ≠ '{' := ne_of_isNameCharacter '{' named (by decide)
      rw [Cursor.passWhile_cons_of_pos named, identifierFrom, if_neg noEnd, if_neg noBrace,
        if_neg (by simp [unblank]), if_pos (by simp [named]), inductionHypothesis]
      simp [named]
    · rw [Bool.not_eq_true] at named
      have noName : (character :: rest).takeWhile isNameCharacter = [] := by simp [named]
      rw [Cursor.passWhile_cons_of_neg named, noName, List.append_nil, ← identifierFrom_gap]
      simp [identifierFrom, named]

/-- Blanks, the longest run of name characters, blanks: the character behind them decides. -/
theorem identifier_run (cursor : Cursor) :
    identifier.run cursor =
      identifierEnd (String.ofList ((cursor.passWhile isBlank).rest.takeWhile isNameCharacter))
        (((cursor.passWhile isBlank).passWhile isNameCharacter).passWhile isBlank) := by
  simp only [identifier, Cursor.skipBlanks_eq_passWhile]
  exact identifierFrom_eq [] _ _

/-! ## Choice names -/

/-- Whether a character may belong to a choice name. -/
def isChoiceCharacter (character : Char) : Bool :=
  !isBlank character && !endsChoiceName character

/-- What the character at `stop` makes of the choice name `name` read before it. -/
def choiceNameEnd (name : String) (stop : Cursor) : Reading String :=
  match stop.peek? with
  | none => .fail .unbalancedBraces stop
  | some character =>
    if isBlank character then .done name (stop.passWhile isBlank)
    else if name = "" then .fail .missingChoiceName stop
    else .done name stop

theorem choiceNameFrom_eq (name passed rest : List Char) :
    choiceNameFrom name passed rest =
      choiceNameEnd (String.ofList (name.reverse ++ rest.takeWhile isChoiceCharacter))
        (Cursor.passWhile isChoiceCharacter ⟨passed, rest⟩) := by
  induction rest generalizing name passed with
  | nil => simp [choiceNameFrom, choiceNameEnd, Cursor.peek?]
  | cons character rest inductionHypothesis =>
    by_cases inside : isChoiceCharacter character = true
    · have outside : isBlank character = false ∧ endsChoiceName character = false := by
        simpa [isChoiceCharacter] using inside
      rw [Cursor.passWhile_cons_of_pos inside, choiceNameFrom, if_neg (by simp [outside.1]),
        if_neg (by simp [outside.2]), inductionHypothesis]
      simp [inside]
    · rw [Bool.not_eq_true] at inside
      rw [Cursor.passWhile_cons_of_neg inside]
      by_cases blank : isBlank character = true
      · simp [choiceNameFrom, choiceNameEnd, Cursor.peek?, blank, inside,
          ← Cursor.skipBlanks_eq_passWhile, Cursor.skipBlanks]
      · have ends : endsChoiceName character = true := by
          simpa [isChoiceCharacter, blank] using inside
        simp [choiceNameFrom, choiceNameEnd, Cursor.peek?, blank, ends, inside]

/-- Blanks, then the longest run of choice characters: the character behind it decides. -/
theorem choiceName_run (cursor : Cursor) :
    choiceName.run cursor =
      choiceNameEnd (String.ofList ((cursor.passWhile isBlank).rest.takeWhile isChoiceCharacter))
        ((cursor.passWhile isBlank).passWhile isChoiceCharacter) := by
  simp only [choiceName, Cursor.skipBlanks_eq_passWhile]
  exact choiceNameFrom_eq [] _ _

/-! ## Offsets -/

/-- Whether a character may belong to the numeral of an offset. -/
def isOffsetCharacter (character : Char) : Bool :=
  !(isBlank character || character = '{' || character = '}')

/-- What the end of the text or the character at `stop` makes of the numeral before it. -/
def offsetEnd (numeral : List Char) (stop : Cursor) : Reading UInt64 :=
  match stop.peek? with
  | none => .fail .unbalancedBraces stop
  | some _ =>
    match offsetValue numeral with
    | .ok value => .done value stop
    | .error fault => .fail fault stop

theorem offsetFrom_eq (numeral passed rest : List Char) :
    offsetFrom numeral passed rest =
      offsetEnd (numeral.reverse ++ rest.takeWhile isOffsetCharacter)
        (Cursor.passWhile isOffsetCharacter ⟨passed, rest⟩) := by
  induction rest generalizing numeral passed with
  | nil => simp [offsetFrom, offsetEnd, Cursor.peek?]
  | cons character rest inductionHypothesis =>
    by_cases inside : isOffsetCharacter character = true
    · have outside : ¬(isBlank character || character = '{' || character = '}') := by
        simpa [isOffsetCharacter] using inside
      rw [Cursor.passWhile_cons_of_pos inside, offsetFrom, if_neg outside, inductionHypothesis]
      simp [inside]
    · rw [Bool.not_eq_true] at inside
      have outside : (isBlank character || character = '{' || character = '}') = true := by
        simpa only [isOffsetCharacter, Bool.not_eq_false'] using inside
      have noNumeral : (character :: rest).takeWhile isOffsetCharacter = [] := by simp [inside]
      rw [Cursor.passWhile_cons_of_neg inside, offsetFrom, if_pos outside, noNumeral,
        List.append_nil]
      unfold offsetEnd
      cases offsetValue numeral.reverse <;> rfl

/-- Blanks, then the longest run of offset characters: the numeral decides, unless the text
ends with it. -/
theorem offset_run (cursor : Cursor) :
    offset.run cursor =
      offsetEnd ((cursor.passWhile isBlank).rest.takeWhile isOffsetCharacter)
        ((cursor.passWhile isBlank).passWhile isOffsetCharacter) := by
  simp only [offset, Cursor.skipBlanks_eq_passWhile]
  exact offsetFrom_eq [] _ _

/-! ## The words that are taken -/

theorem identifierEnd_eq_done_iff {name found : String} {place stop : Cursor} :
    identifierEnd name place = .done found stop ↔
      found = name ∧ stop = place ∧ (stop.peek? = some ',' ∨ stop.peek? = some '}') := by
  unfold identifierEnd
  constructor
  · intro taken
    split at taken
    · simp [Reading.fail, Reading.done] at taken
    · rename_i character present
      split at taken
      · rename_i ends
        obtain ⟨rfl, rfl⟩ : name = found ∧ place = stop := by simpa [Reading.done] using taken
        exact ⟨rfl, rfl, by simpa [present] using ends⟩
      · split at taken <;> simp [Reading.fail, Reading.done] at taken
  · rintro ⟨rfl, rfl, ends | ends⟩ <;> simp [ends]

/-- An identifier, possibly empty, is taken with the blanks around it up to `,` or `}`. -/
theorem takes_identifier : identifier.Takes fun text name following =>
    IsPadded name text ∧ (∀ character ∈ name.toList, isNameCharacter character = true) ∧
      (following.head? = some ',' ∨ following.head? = some '}') := by
  intro cursor name stop
  rw [identifier_run, identifierEnd_eq_done_iff, ← String.toList_inj, String.toList_ofList]
  constructor
  · rintro ⟨named, rfl, ends⟩
    have toWord := cursor.spans_passWhile isBlank
    have toGap := (cursor.passWhile isBlank).spans_passWhile isNameCharacter
    have toStop := ((cursor.passWhile isBlank).passWhile isNameCharacter).spans_passWhile isBlank
    refine ⟨_, (toWord.trans toGap).trans toStop, ⟨_, _, ?_, ?_, by rw [named]⟩, ?_, ends⟩
    · exact List.all_eq_true.mp List.all_takeWhile
    · exact List.all_eq_true.mp List.all_takeWhile
    · rw [named]
      exact List.all_eq_true.mp List.all_takeWhile
  · rintro ⟨_, spans, padded, letters, ends⟩
    obtain ⟨before, after, beforeBlank, afterBlank, rfl, tight⟩ := padded.tight
    obtain ⟨gap, toGap, fromGap, -⟩ := spans.split
    obtain ⟨word, toWord, fromWord, -⟩ := toGap.split
    have unblank : ∀ character, stop.peek? = some character → isBlank character = false := by
      rintro character present
      rcases ends with ends | ends <;>
        obtain rfl := Option.some.inj (present.symm.trans ends) <;> decide
    have unnamed : ∀ character, stop.peek? = some character →
        isNameCharacter character = false := by
      rintro character present
      rcases ends with ends | ends <;>
        obtain rfl := Option.some.inj (present.symm.trans ends) <;> decide
    have wordEq : cursor.passWhile isBlank = word := by
      refine Cursor.passWhile_eq_of_spans toWord beforeBlank fun character present => ?_
      rcases fromWord.mem_or_peek? present with inName | ⟨empty, atGap⟩
      · exact isBlank_eq_false_of_isNameCharacter (letters character inName)
      · -- Without a name all blanks stand before it.
        rw [tight empty, Cursor.Spans.nil_iff] at fromGap
        exact unblank character (fromGap ▸ atGap)
    have outside : ∀ character, gap.peek? = some character → isNameCharacter character = false := by
      intro character present
      rcases fromGap.mem_or_peek? present with inGap | ⟨-, atStop⟩
      · exact isNameCharacter_eq_false_of_isBlank (afterBlank character inGap)
      · exact unnamed character atStop
    have gapEq : word.passWhile isNameCharacter = gap :=
      Cursor.passWhile_eq_of_spans fromWord letters outside
    have stopEq : gap.passWhile isBlank = stop :=
      Cursor.passWhile_eq_of_spans fromGap afterBlank unblank
    rw [wordEq, gapEq, stopEq]
    exact ⟨(Cursor.takeWhile_eq_of_spans fromWord letters outside).symm, rfl, ends⟩

theorem choiceNameEnd_eq_done_iff {name found : String} {place stop : Cursor} :
    choiceNameEnd name place = .done found stop ↔
      found = name ∧ ∃ character, place.peek? = some character ∧
        (isBlank character = true ∧ stop = place.passWhile isBlank ∨
          isBlank character = false ∧ name ≠ "" ∧ stop = place) := by
  unfold choiceNameEnd
  constructor
  · intro taken
    split at taken
    · simp [Reading.fail, Reading.done] at taken
    · rename_i character present
      split at taken
      · rename_i blank
        obtain ⟨rfl, rfl⟩ : name = found ∧ place.passWhile isBlank = stop := by
          simpa [Reading.done] using taken
        exact ⟨rfl, character, present, .inl ⟨blank, rfl⟩⟩
      · rename_i unblank
        split at taken
        · simp [Reading.fail, Reading.done] at taken
        · rename_i nonempty
          obtain ⟨rfl, rfl⟩ : name = found ∧ place = stop := by simpa [Reading.done] using taken
          exact ⟨rfl, character, present, .inr ⟨by simpa using unblank, nonempty, rfl⟩⟩
  · rintro ⟨rfl, character, present, ⟨blank, rfl⟩ | ⟨unblank, nonempty, rfl⟩⟩
    · simp [present, blank]
    · simp [present, unblank, nonempty]

/-- A choice name is taken with the blanks around it. Right behind it, unless blanks follow it,
stands a structural character. -/
theorem takes_choiceName : choiceName.Takes fun text name following =>
    IsChoiceName name ∧
      (∀ character, following.head? = some character → isBlank character = false) ∧
      ∃ before after, IsBlankText before ∧ IsBlankText after ∧
        text = before ++ name.toList ++ after ∧
        (after = [] → ∃ character, following.head? = some character ∧
          endsChoiceName character = true) := by
  intro cursor name stop
  rw [choiceName_run, choiceNameEnd_eq_done_iff]
  constructor
  · rintro ⟨nameEq, character, present, ends⟩
    rw [← nameEq] at ends
    have named := String.toList_inj.mpr nameEq
    rw [String.toList_ofList] at named
    have toWord := cursor.spans_passWhile isBlank
    have toPlace := (cursor.passWhile isBlank).spans_passWhile isChoiceCharacter
    rw [← named] at toPlace
    have blanks : IsBlankText (cursor.rest.takeWhile isBlank) :=
      List.all_eq_true.mp List.all_takeWhile
    have plain : ∀ character ∈ name.toList,
        isBlank character = false ∧ endsChoiceName character = false := by
      intro character member
      rw [named] at member
      simpa [isChoiceCharacter] using List.all_eq_true.mp List.all_takeWhile _ member
    rcases ends with ⟨blank, rfl⟩ | ⟨unblank, nonempty, rfl⟩
    · have nonempty : name ≠ "" := by
        rintro rfl
        rw [String.toList_empty, Cursor.Spans.nil_iff] at toPlace
        rw [← toPlace] at present
        simp [Cursor.not_of_peek?_passWhile present] at blank
      refine ⟨_, (toWord.trans toPlace).trans (Cursor.spans_passWhile isBlank _),
        ⟨nonempty, plain⟩, fun _ => Cursor.not_of_peek?_passWhile, _, _, blanks,
        List.all_eq_true.mp List.all_takeWhile, rfl, fun noBlank => ?_⟩
      obtain ⟨rest, restEq⟩ := List.head?_eq_some_iff.mp present
      simp [restEq, blank] at noBlank
    · have inside := Cursor.not_of_peek?_passWhile present
      refine ⟨_, toWord.trans toPlace, ⟨nonempty, plain⟩, ?_, _, [], blanks,
        by simp [IsBlankText], by simp, fun _ => ⟨character, present, ?_⟩⟩
      · intro other same
        obtain rfl := Option.some.inj (present.symm.trans same)
        exact unblank
      · simpa [isChoiceCharacter, unblank] using inside
  · rintro ⟨_, spans, ⟨nonempty, plain⟩, unblank, before, after, beforeBlank, afterBlank, rfl, ends⟩
    obtain ⟨place, toPlace, fromPlace, -⟩ := spans.split
    obtain ⟨word, toWord, fromWord, -⟩ := toPlace.split
    have inside : ∀ character ∈ name.toList, isChoiceCharacter character = true :=
      fun character member => by simp [isChoiceCharacter, plain character member]
    have wordEq : cursor.passWhile isBlank = word := by
      refine Cursor.passWhile_eq_of_spans toWord beforeBlank fun character present => ?_
      rcases fromWord.mem_or_peek? present with inName | ⟨empty, -⟩
      · exact (plain character inName).1
      · exact absurd (String.toList_inj.mp empty) nonempty
    have outside : ∀ character, place.peek? = some character →
        isChoiceCharacter character = false := by
      intro character present
      rcases fromPlace.mem_or_peek? present with inGap | ⟨noGap, atStop⟩
      · simp [isChoiceCharacter, afterBlank character inGap]
      · obtain ⟨next, following, structural⟩ := ends noGap
        obtain rfl := Option.some.inj (atStop.symm.trans following)
        simp [isChoiceCharacter, structural]
    rw [wordEq, Cursor.takeWhile_eq_of_spans fromWord inside outside,
      Cursor.passWhile_eq_of_spans fromWord inside outside, String.ofList_toList]
    refine ⟨rfl, ?_⟩
    cases after with
    | nil =>
      obtain ⟨character, following, _⟩ := ends rfl
      obtain rfl := Cursor.Spans.nil_iff.mp fromPlace
      exact ⟨character, following, .inr ⟨unblank character following, nonempty, rfl⟩⟩
    | cons blank after =>
      exact ⟨blank, by simp [Cursor.peek?, fromPlace.1], .inl ⟨afterBlank blank List.mem_cons_self,
        (Cursor.passWhile_eq_of_spans fromPlace afterBlank unblank).symm⟩⟩

/-- What an offset's numeral is made of ends neither it nor a choice name. -/
theorem isOffsetCharacter_of_isDigit {character : Char} (digit : character.isDigit = true) :
    isOffsetCharacter character = true := by
  have named : isNameCharacter character = true := by
    simp [isNameCharacter, Char.isAlphanum, digit]
  simp [isOffsetCharacter, isBlank_eq_false_of_isNameCharacter named,
    ne_of_isNameCharacter '{' named (by decide), ne_of_isNameCharacter '}' named (by decide)]

theorem isOffsetCharacter_of_choice {character : Char} (unblank : isBlank character = false)
    (plain : endsChoiceName character = false) : isOffsetCharacter character = true := by
  rw [← Bool.not_eq_true, endsChoiceName_iff] at plain
  simp_all [isOffsetCharacter]

theorem isOffsetCharacter_of_natural? {digits : List Char} {value : Nat}
    (natural : Decimal.natural? digits = some value) :
    ∀ character ∈ digits, isOffsetCharacter character = true := by
  obtain ⟨-, digital, -⟩ := Decimal.natural?_eq_some_iff.mp natural
  exact fun character member => isOffsetCharacter_of_isDigit (digital character member)

theorem isOffsetCharacter_of_integer? {numeral : List Char} {value : Int}
    (integer : Decimal.integer? numeral = some value) :
    ∀ character ∈ numeral, isOffsetCharacter character = true := by
  unfold Decimal.integer? at integer
  split at integer
  · obtain ⟨_, magnitude, _⟩ := Option.map_eq_some_iff.mp integer
    obtain ⟨_, natural, _⟩ := Option.bind_eq_some_iff.mp magnitude
    exact List.forall_mem_cons.mpr ⟨by decide, isOffsetCharacter_of_natural? natural⟩
  · obtain ⟨_, natural, _⟩ := Option.map_eq_some_iff.mp integer
    exact List.forall_mem_cons.mpr ⟨by decide, isOffsetCharacter_of_natural? natural⟩
  · obtain ⟨_, natural, _⟩ := Option.map_eq_some_iff.mp integer
    exact isOffsetCharacter_of_natural? natural

/-- A numeral that has a value holds nothing that would end it, and is not empty. -/
theorem isOffsetCharacter_of_offsetValue {numeral : List Char} {value : UInt64}
    (valued : offsetValue numeral = .ok value) :
    numeral ≠ [] ∧ ∀ character ∈ numeral, isOffsetCharacter character = true := by
  unfold offsetValue at valued
  split at valued
  · cases valued
  · rename_i nonempty
    refine ⟨by simpa using nonempty, ?_⟩
    cases word : Decimal.int64? numeral with
    | none => simp [word] at valued
    | some word' =>
      obtain ⟨_, integer, _⟩ := Option.bind_eq_some_iff.mp word
      exact isOffsetCharacter_of_integer? integer

theorem offsetEnd_eq_done_iff {numeral : List Char} {value : UInt64} {place stop : Cursor} :
    offsetEnd numeral place = .done value stop ↔
      offsetValue numeral = .ok value ∧ stop = place ∧
        ∃ character, stop.peek? = some character := by
  unfold offsetEnd
  cases present : place.peek? with
  | none =>
    refine iff_of_false (by simp [Reading.fail, Reading.done]) ?_
    rintro ⟨-, rfl, _, other⟩
    simp [present] at other
  | some character =>
    cases offsetValue numeral with
    | error fault => simp [Reading.fail, Reading.done]
    | ok found =>
      simp only [Reading.done, Prod.mk.injEq, Except.ok.injEq]
      constructor
      · rintro ⟨rfl, rfl⟩
        exact ⟨rfl, rfl, character, present⟩
      · rintro ⟨rfl, rfl, -⟩
        exact ⟨rfl, rfl⟩

/-- The numeral of an offset is taken with the blanks before it, up to a blank or a brace. -/
theorem takes_offset : offset.Takes fun text value following =>
    (∃ gap numeral, text = gap ++ numeral ∧ IsBlankText gap ∧ offsetValue numeral = .ok value) ∧
      ∃ character, following.head? = some character ∧ isOffsetCharacter character = false := by
  intro cursor value stop
  rw [offset_run, offsetEnd_eq_done_iff]
  constructor
  · rintro ⟨valued, rfl, character, present⟩
    exact ⟨_, (cursor.spans_passWhile isBlank).trans (Cursor.spans_passWhile isOffsetCharacter _),
      ⟨_, _, rfl, List.all_eq_true.mp List.all_takeWhile, valued⟩, character, present,
      Cursor.not_of_peek?_passWhile present⟩
  · rintro ⟨_, spans, ⟨gap, numeral, rfl, gapBlank, valued⟩, character, present, ends⟩
    obtain ⟨place, toPlace, fromPlace, -⟩ := spans.split
    obtain ⟨nonempty, inside⟩ := isOffsetCharacter_of_offsetValue valued
    have outside : ∀ other, stop.peek? = some other → isOffsetCharacter other = false := by
      intro other same
      obtain rfl := Option.some.inj (present.symm.trans same)
      exact ends
    have placeEq : cursor.passWhile isBlank = place := by
      refine Cursor.passWhile_eq_of_spans toPlace gapBlank fun first here => ?_
      rcases fromPlace.mem_or_peek? here with inNumeral | ⟨empty, -⟩
      · have unblank := inside first inNumeral
        simp only [isOffsetCharacter, Bool.not_eq_true', Bool.or_eq_false_iff] at unblank
        exact unblank.1.1
      · exact absurd empty nonempty
    rw [placeEq, Cursor.takeWhile_eq_of_spans fromPlace inside outside,
      Cursor.passWhile_eq_of_spans fromPlace inside outside]
    exact ⟨valued, rfl, character, present⟩

end Reader

end MessageTemplate
