import Mathlib
import MessageTemplate.Template.Reader

/-!
# What readers take

A reader that finds a value has passed some text, which `Cursor.Spans` names. `Reader.Takes`
says exactly which values a reader finds in front of which texts. The steps that readers are
made of are inverted here: where a composed reader succeeds, each of its steps has.
-/

namespace MessageTemplate

namespace Cursor

/-- Reading `text` from `earlier` on leads to `later`. -/
def Spans (earlier : Cursor) (text : List Char) (later : Cursor) : Prop :=
  earlier.rest = text ++ later.rest ∧ later.passed = text.reverse ++ earlier.passed

namespace Spans

theorem refl (cursor : Cursor) : cursor.Spans [] cursor := ⟨rfl, rfl⟩

theorem nil_iff {earlier later : Cursor} : earlier.Spans [] later ↔ earlier = later := by
  obtain ⟨passed, rest⟩ := earlier
  obtain ⟨laterPassed, laterRest⟩ := later
  simp only [Spans, List.nil_append, List.reverse_nil, Cursor.mk.injEq]
  constructor
  · rintro ⟨rfl, rfl⟩
    exact ⟨rfl, rfl⟩
  · rintro ⟨rfl, rfl⟩
    exact ⟨rfl, rfl⟩

theorem trans {first second third : Cursor} {near far : List Char}
    (left : first.Spans near second) (right : second.Spans far third) :
    first.Spans (near ++ far) third := by
  obtain ⟨nearRest, nearPassed⟩ := left
  obtain ⟨farRest, farPassed⟩ := right
  exact ⟨by simp [nearRest, farRest], by simp [farPassed, nearPassed]⟩

/-- The place between the two halves of a text. -/
theorem split {first third : Cursor} {near far : List Char}
    (whole : first.Spans (near ++ far) third) :
    ∃ second, first.Spans near second ∧ second.Spans far third ∧
      second.rest = far ++ third.rest := by
  obtain ⟨wholeRest, wholePassed⟩ := whole
  refine ⟨⟨near.reverse ++ first.passed, far ++ third.rest⟩, ⟨?_, rfl⟩, ⟨rfl, ?_⟩, rfl⟩
  · simp [wholeRest]
  · simp [wholePassed]

/-- Two places behind one text are the same place. -/
theorem unique {earlier left right : Cursor} {text : List Char}
    (toLeft : earlier.Spans text left) (toRight : earlier.Spans text right) : left = right := by
  obtain ⟨leftRest, leftPassed⟩ := toLeft
  obtain ⟨rightRest, rightPassed⟩ := toRight
  have sameRest : left.rest = right.rest := List.append_cancel_left (leftRest.symm.trans rightRest)
  have samePassed : left.passed = right.passed := leftPassed.trans rightPassed.symm
  obtain ⟨_, _⟩ := left
  obtain ⟨_, _⟩ := right
  simp_all

/-- What is left behind a text is shorter by that text. -/
theorem length_eq {earlier later : Cursor} {text : List Char} (spans : earlier.Spans text later) :
    earlier.rest.length = text.length + later.rest.length := by
  rw [spans.1, List.length_append]

/-- A position counts the characters before it. -/
theorem position_eq {earlier later : Cursor} {text : List Char}
    (spans : earlier.Spans text later) : later.position = earlier.position + text.length := by
  rw [position, spans.2, List.length_append, List.length_reverse, Nat.add_comm]
  rfl

/-- The next character is one of the text, unless there is no text before it. -/
theorem mem_or_peek? {earlier later : Cursor} {text : List Char} {character : Char}
    (spans : earlier.Spans text later) (present : earlier.peek? = some character) :
    character ∈ text ∨ text = [] ∧ later.peek? = some character := by
  rw [peek?, spans.1] at present
  cases text with
  | nil => exact .inr ⟨rfl, present⟩
  | cons first text =>
    obtain rfl : first = character := by simpa using present
    exact .inl List.mem_cons_self

end Spans

/-- The character behind a place is the one at its position. -/
theorem getElem?_position (cursor : Cursor) :
    cursor.characters[cursor.position]? = cursor.peek? := by
  have length : cursor.position = cursor.passed.reverse.length := List.length_reverse.symm
  rw [characters, length, List.getElem?_append_right le_rfl, Nat.sub_self, peek?,
    List.head?_eq_getElem?]

/-- One character further. -/
theorem spans_advance {cursor : Cursor} {character : Char}
    (present : cursor.peek? = some character) : cursor.Spans [character] cursor.advance := by
  obtain ⟨passed, rest⟩ := cursor
  cases rest with
  | nil => simp [peek?] at present
  | cons first rest =>
    obtain rfl : first = character := by simpa [peek?] using present
    exact ⟨rfl, rfl⟩

/-- A text begins with the next character and goes on behind it. -/
theorem Spans.cons_iff {earlier later : Cursor} {character : Char} {text : List Char} :
    earlier.Spans (character :: text) later ↔
      earlier.peek? = some character ∧ earlier.advance.Spans text later := by
  obtain ⟨passed, rest⟩ := earlier
  cases rest with
  | nil => simp [Spans, peek?]
  | cons first rest =>
    simp only [Spans, peek?, advance, List.cons_append, List.cons.injEq, List.head?_cons,
      Option.some.injEq, List.reverse_cons, List.append_assoc, List.nil_append, and_assoc]
    constructor
    · rintro ⟨rfl, same⟩
      exact ⟨rfl, same⟩
    · rintro ⟨rfl, same⟩
      exact ⟨rfl, same⟩

/-- The place behind the characters that satisfy `property`, up to the first that does not. -/
def passWhile (property : Char → Bool) (cursor : Cursor) : Cursor :=
  ⟨(cursor.rest.takeWhile property).reverse ++ cursor.passed, cursor.rest.dropWhile property⟩

theorem spans_passWhile (property : Char → Bool) (cursor : Cursor) :
    cursor.Spans (cursor.rest.takeWhile property) (cursor.passWhile property) :=
  ⟨List.takeWhile_append_dropWhile.symm, rfl⟩

/-- What stands behind the passed characters is not one of them. -/
theorem not_of_peek?_passWhile {property : Char → Bool} {cursor : Cursor} {character : Char}
    (present : (cursor.passWhile property).peek? = some character) :
    property character = false := by
  have failing := List.head?_dropWhile_not property cursor.rest
  rw [show (cursor.rest.dropWhile property).head? = some character from present] at failing
  simpa using failing

/-- The longest run of characters that satisfy `property` ends before one that does not. -/
theorem takeWhile_eq_of_spans {property : Char → Bool} {cursor later : Cursor}
    {text : List Char} (spans : cursor.Spans text later)
    (inside : ∀ character ∈ text, property character = true)
    (outside : ∀ character, later.peek? = some character → property character = false) :
    cursor.rest.takeWhile property = text := by
  rw [spans.1, List.takeWhile_append_of_pos inside]
  cases rest : later.rest with
  | nil => simp
  | cons character _ => simp [outside character (by simp [peek?, rest])]

/-- Characters that satisfy `property` are passed up to one that does not. -/
theorem passWhile_eq_of_spans {property : Char → Bool} {cursor later : Cursor}
    {text : List Char} (spans : cursor.Spans text later)
    (inside : ∀ character ∈ text, property character = true)
    (outside : ∀ character, later.peek? = some character → property character = false) :
    cursor.passWhile property = later := by
  have toStop := cursor.spans_passWhile property
  rw [takeWhile_eq_of_spans spans inside outside] at toStop
  exact toStop.unique spans

theorem skipBlanks_eq_passWhile (cursor : Cursor) :
    cursor.skipBlanks = cursor.passWhile isBlank := by
  obtain ⟨passed, rest⟩ := cursor
  simp only [skipBlanks, passWhile]
  fun_induction skipBlanksFrom passed rest with
  | case1 passed => rfl
  | case2 passed character rest blank inductionHypothesis =>
    simpa [blank] using inductionHypothesis
  | case3 passed character rest other => simp [other]

end Cursor

namespace Reading

variable {α β : Type}

@[simp] theorem done_inj {value other : α} {cursor place : Cursor} :
    Reading.done value cursor = .done other place ↔ value = other ∧ cursor = place := by
  simp [Reading.done]

@[simp] theorem fail_ne_done {fault : ParseFault} {value : α} {cursor place : Cursor} :
    Reading.fail fault cursor ≠ .done value place := by
  simp [Reading.fail, Reading.done]

theorem map_eq_done_iff {change : α → β} {reading : Reading α} {value : β} {stop : Cursor} :
    reading.map change = .done value stop ↔
      ∃ found, reading = .done found stop ∧ change found = value := by
  obtain ⟨result, place⟩ := reading
  cases result with
  | ok found =>
    constructor
    · intro same
      obtain ⟨rfl, rfl⟩ := done_inj.mp (show Reading.done (change found) place = _ from same)
      exact ⟨found, rfl, rfl⟩
    · rintro ⟨_, same, rfl⟩
      obtain ⟨rfl, rfl⟩ := done_inj.mp (show Reading.done found place = _ from same)
      rfl
  | error error => simp [Reading.map, Reading.done, Except.map]

end Reading

namespace Reader

variable {α β : Type}

/-- What may be read: a text, the value found in it, and the text that follows. -/
abbrev Form (α : Type) := List Char → α → List Char → Prop

/-- A reader finds a value exactly where the form allows it. -/
def Takes (reader : Reader α) (form : Form α) : Prop :=
  ∀ cursor value stop, reader.run cursor = .done value stop ↔
    ∃ text, cursor.Spans text stop ∧ form text value stop.rest

/-- `Takes` for values that `character` follows. -/
def TakesBefore (reader : Reader α) (character : Char) (form : Form α) : Prop :=
  ∀ cursor value stop, stop.peek? = some character →
    (reader.run cursor = .done value stop ↔
      ∃ text, cursor.Spans text stop ∧ form text value stop.rest)

theorem follow_eq_done_iff {reading : Reading α} {next : α → Cursor → Reading β} {value : β}
    {stop : Cursor} :
    follow reading next = .done value stop ↔
      ∃ middle place, reading = .done middle place ∧ next middle place = .done value stop := by
  obtain ⟨result, place⟩ := reading
  cases result with
  | ok middle =>
    constructor
    · intro found
      exact ⟨middle, place, rfl, found⟩
    · rintro ⟨_, _, same, found⟩
      obtain ⟨rfl, rfl⟩ := Reading.done_inj.mp (show Reading.done middle place = _ from same)
      exact found
  | error error => simp [follow, Reading.done]

/-- A value that is only rewrapped. -/
theorem follow_done_iff {reading : Reading α} {change : α → β} {value : β} {stop : Cursor} :
    (follow reading fun found place => .done (change found) place) = .done value stop ↔
      ∃ found, reading = .done found stop ∧ value = change found := by
  rw [follow_eq_done_iff]
  constructor
  · rintro ⟨found, place, read, same⟩
    obtain ⟨rfl, rfl⟩ := Reading.done_inj.mp same
    exact ⟨found, read, rfl⟩
  · rintro ⟨found, read, rfl⟩
    exact ⟨found, stop, read, rfl⟩

@[simp] theorem run_fail (fault : ParseFault) (cursor : Cursor) :
    (fail fault : Reader α).run cursor = .fail fault cursor := rfl

@[simp] theorem run_peek (cursor : Cursor) : peek.run cursor = .done cursor.peek? cursor := rfl

@[simp] theorem run_advance (cursor : Cursor) : advance.run cursor = .done () cursor.advance := rfl

@[simp] theorem run_skipBlanks (cursor : Cursor) :
    skipBlanks.run cursor = .done () cursor.skipBlanks := rfl

@[simp] theorem follow_done_eq (value : α) (cursor : Cursor) (next : α → Cursor → Reading β) :
    follow (.done value cursor) next = next value cursor := rfl

@[simp] theorem follow_fail_eq (fault : ParseFault) (cursor : Cursor)
    (next : α → Cursor → Reading β) : follow (.fail fault cursor) next = .fail fault cursor := rfl

@[simp] theorem run_map (change : α → β) (reader : Reader α) (cursor : Cursor) :
    (change <$> reader).run cursor =
      follow (reader.run cursor) fun value place => .done (change value) place := rfl

theorem expect_eq_done_iff {character : Char} {fault : ParseFault} {cursor stop : Cursor}
    {value : Unit} :
    (expect character fault).run cursor = .done value stop ↔
      cursor.peek? = some character ∧ stop = cursor := by
  by_cases present : cursor.peek? = some character
  · simp [expect, present, eq_comm]
  · simp [expect, present]

/-- The fault of an error does not matter where no error is met. -/
theorem relabel_eq_done_iff {reader : Reader α} {fault : ParseFault} {cursor stop : Cursor}
    {value : α} :
    (reader.relabel fault).run cursor = .done value stop ↔
      reader.run cursor = .done value stop := by
  simp only [Reader.relabel, Reading.done]
  obtain ⟨result, place⟩ := reader.run cursor
  cases result <;> simp

end Reader

end MessageTemplate
