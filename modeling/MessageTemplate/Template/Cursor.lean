import MessageTemplate.Template.Character

/-!
# Cursors

A cursor is a place between two code points of a template. It keeps both sides of the
place, so it can never lie outside the text, and `Cursor.Reaches` says that one cursor is
on the same text as another and not before it.
-/

namespace MessageTemplate

/-- A place in a text. -/
structure Cursor where
  /-- What lies before the place, last character first. -/
  passed : List Char
  /-- What lies after the place. -/
  rest : List Char
  deriving DecidableEq, Repr

namespace Cursor

/-- The place before the first character of `text`. -/
def start (text : String) : Cursor := ⟨[], text.toList⟩

/-- The number of code points before the place. -/
def position (cursor : Cursor) : Nat := cursor.passed.length

/-- All characters of the text. -/
def characters (cursor : Cursor) : List Char := cursor.passed.reverse ++ cursor.rest

/-- The character after the place, absent at the end of the text. -/
def peek? (cursor : Cursor) : Option Char := cursor.rest.head?

/-- Whether nothing is left to read. -/
def atEnd (cursor : Cursor) : Bool := cursor.rest.isEmpty

/-- The next place; the end of the text is its own next place. -/
def advance : Cursor → Cursor
  | ⟨passed, []⟩ => ⟨passed, []⟩
  | ⟨passed, character :: rest⟩ => ⟨character :: passed, rest⟩

/-- The first place, at or after the one between `passed` and `rest`, that no blank follows. -/
def skipBlanksFrom (passed : List Char) : List Char → Cursor
  | [] => ⟨passed, []⟩
  | character :: rest =>
    if isBlank character then skipBlanksFrom (character :: passed) rest
    else ⟨passed, character :: rest⟩

/-- The first place, at or after `cursor`, that no blank follows. -/
def skipBlanks (cursor : Cursor) : Cursor := skipBlanksFrom cursor.passed cursor.rest

/-- The characters from position `first` up to position `last` of the whole text; absent
unless `first ≤ last` and both lie in the text. -/
def slice? (cursor : Cursor) (first last : Nat) : Option String :=
  if first ≤ last ∧ last ≤ cursor.characters.length then
    some (String.ofList ((cursor.characters.take last).drop first))
  else none

/-- The place `later` is one of the same text as `earlier` and does not lie before it. -/
def Reaches (earlier later : Cursor) : Prop :=
  ∃ between, earlier.rest = between ++ later.rest ∧
    later.passed = between.reverse ++ earlier.passed

namespace Reaches

theorem refl (cursor : Cursor) : cursor.Reaches cursor := ⟨[], by simp⟩

theorem trans {first second third : Cursor}
    (left : first.Reaches second) (right : second.Reaches third) : first.Reaches third := by
  obtain ⟨near, nearRest, nearPassed⟩ := left
  obtain ⟨far, farRest, farPassed⟩ := right
  exact ⟨near ++ far, by simp [nearRest, farRest], by simp [farPassed, nearPassed]⟩

/-- Passing one character goes forward by one place. -/
theorem step (passed rest : List Char) (character : Char) :
    Reaches ⟨passed, character :: rest⟩ ⟨character :: passed, rest⟩ :=
  ⟨[character], by simp⟩

/-- What is left does not grow. -/
theorem rest_length_le {earlier later : Cursor} (reached : earlier.Reaches later) :
    later.rest.length ≤ earlier.rest.length := by
  obtain ⟨between, restEq, _⟩ := reached
  simp [restEq]

/-- Positions do not go back. -/
theorem position_le {earlier later : Cursor} (reached : earlier.Reaches later) :
    earlier.position ≤ later.position := by
  obtain ⟨between, _, passedEq⟩ := reached
  simp [position, passedEq]

/-- Both places lie in the same text. -/
theorem characters_eq {earlier later : Cursor} (reached : earlier.Reaches later) :
    later.characters = earlier.characters := by
  obtain ⟨between, restEq, passedEq⟩ := reached
  simp [characters, restEq, passedEq]

end Reaches

theorem reaches_advance (cursor : Cursor) : cursor.Reaches cursor.advance := by
  obtain ⟨passed, rest⟩ := cursor
  cases rest with
  | nil => exact .refl _
  | cons character rest => exact .step passed rest character

/-- Passing a character leaves less to read. -/
theorem advance_rest_lt {cursor : Cursor} {character : Char}
    (present : cursor.peek? = some character) :
    cursor.advance.rest.length < cursor.rest.length := by
  obtain ⟨passed, rest⟩ := cursor
  cases rest with
  | nil => simp [peek?] at present
  | cons _ rest => simp [advance]

/-- Going forward and one further leaves less to read, unless nothing was left before. -/
theorem Reaches.advance_rest_lt {earlier later : Cursor} (reached : earlier.Reaches later)
    (unfinished : ¬earlier.atEnd) : later.advance.rest.length < earlier.rest.length := by
  have shorter := reached.rest_length_le
  obtain ⟨passed, rest⟩ := later
  cases rest with
  | nil =>
    simpa [advance, atEnd, List.isEmpty_iff, List.length_pos_iff] using unfinished
  | cons _ rest =>
    simp [advance] at shorter ⊢
    omega

theorem reaches_skipBlanksFrom (passed rest : List Char) :
    Reaches ⟨passed, rest⟩ (skipBlanksFrom passed rest) := by
  fun_induction skipBlanksFrom passed rest with
  | case1 passed => exact .refl _
  | case2 passed character rest _ ih => exact (Reaches.step passed rest character).trans ih
  | case3 passed character rest _ => exact .refl _

theorem reaches_skipBlanks (cursor : Cursor) : cursor.Reaches cursor.skipBlanks :=
  reaches_skipBlanksFrom cursor.passed cursor.rest

/-- A position never exceeds the length of the text. -/
theorem position_le_length (cursor : Cursor) : cursor.position ≤ cursor.characters.length := by
  simp [position, characters]

end Cursor

end MessageTemplate
