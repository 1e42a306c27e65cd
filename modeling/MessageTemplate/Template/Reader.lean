import MessageTemplate.Template.Cursor
import MessageTemplate.Template.Error

/-!
# Readers

A reader takes a cursor and answers a value or an error, together with the cursor where it
stopped; an error keeps that cursor too. A reader never goes back: that fact is part of its
type, so loops over readers end whatever readers are plugged into them.
-/

namespace MessageTemplate

/-- A value or an error, and where reading stopped. -/
abbrev Reading (α : Type) := Except ParseError α × Cursor

/-- The answer of a reader that finds `fault` at `cursor`. -/
def Reading.fail {α : Type} (fault : ParseFault) (cursor : Cursor) : Reading α :=
  (.error ⟨fault, cursor.position⟩, cursor)

/-- The answer of a reader that finds `value` before `cursor`. -/
def Reading.done {α : Type} (value : α) (cursor : Cursor) : Reading α := (.ok value, cursor)

/-- Change the value of an answer. -/
def Reading.map {α β : Type} (change : α → β) (reading : Reading α) : Reading β :=
  (Except.map change reading.1, reading.2)

@[simp] theorem Reading.map_cursor {α β : Type} (change : α → β) (reading : Reading α) :
    (reading.map change).2 = reading.2 := rfl

@[simp] theorem Reading.fail_cursor {α : Type} (fault : ParseFault) (cursor : Cursor) :
    (Reading.fail fault cursor : Reading α).2 = cursor := rfl

@[simp] theorem Reading.done_cursor {α : Type} (value : α) (cursor : Cursor) :
    (Reading.done value cursor).2 = cursor := rfl

/-- A reader of values. -/
structure Reader (α : Type) where
  /-- Read from a cursor. -/
  run : Cursor → Reading α
  /-- Reading goes forward in the same text, also when it fails. -/
  reaches : ∀ cursor : Cursor, cursor.Reaches (run cursor).2

namespace Reader

/-- Run `next` on the value of an answer; an error is passed on. -/
def follow {α β : Type} (reading : Reading α) (next : α → Cursor → Reading β) : Reading β :=
  match reading with
  | (.ok value, cursor) => next value cursor
  | (.error error, cursor) => (.error error, cursor)

theorem reaches_follow {α β : Type} {start : Cursor} {reading : Reading α}
    {next : α → Cursor → Reading β} (first : start.Reaches reading.2)
    (second : ∀ value cursor, Cursor.Reaches cursor (next value cursor).2) :
    start.Reaches (follow reading next).2 := by
  obtain ⟨result, cursor⟩ := reading
  cases result with
  | ok value => exact first.trans (second value cursor)
  | error error => exact first

@[ext] theorem ext {α : Type} {left right : Reader α}
    (run : ∀ cursor, left.run cursor = right.run cursor) : left = right := by
  obtain ⟨leftRun, _⟩ := left
  obtain ⟨rightRun, _⟩ := right
  obtain rfl : leftRun = rightRun := funext run
  rfl

instance : Monad Reader where
  pure value := ⟨fun cursor => .done value cursor, fun cursor => .refl cursor⟩
  bind reader next :=
    ⟨fun cursor => follow (reader.run cursor) fun value => (next value).run,
      fun cursor => reaches_follow (reader.reaches cursor) fun value => (next value).reaches⟩

@[simp] theorem run_pure {α : Type} (value : α) (cursor : Cursor) :
    (pure value : Reader α).run cursor = .done value cursor := rfl

@[simp] theorem run_bind {α β : Type} (reader : Reader α) (next : α → Reader β)
    (cursor : Cursor) :
    (reader >>= next).run cursor = follow (reader.run cursor) fun value => (next value).run :=
  rfl

/-- Steps of reading may be grouped as one likes. -/
theorem follow_follow {α β γ : Type} (reading : Reading α) (second : α → Cursor → Reading β)
    (third : β → Cursor → Reading γ) :
    follow (follow reading second) third =
      follow reading fun value cursor => follow (second value cursor) third := by
  obtain ⟨result, cursor⟩ := reading
  cases result <;> rfl

/-- Passing a value on unchanged is no step. -/
theorem follow_done {α : Type} (reading : Reading α) : follow reading Reading.done = reading := by
  obtain ⟨result, cursor⟩ := reading
  cases result <;> rfl

instance : LawfulMonad Reader :=
  LawfulMonad.mk' Reader
    (fun reader => ext fun cursor => follow_done (reader.run cursor))
    (fun _ _ => rfl)
    (fun reader _ _ => ext fun cursor => follow_follow (reader.run cursor) _ _)

/-- A reader that is made when it is run. -/
def delay {α : Type} (reader : Unit → Reader α) : Reader α :=
  ⟨fun cursor => (reader ()).run cursor, fun cursor => (reader ()).reaches cursor⟩

@[simp] theorem delay_eq {α : Type} (reader : Unit → Reader α) : delay reader = reader () := rfl

/-- Fail with `fault` where the cursor is. -/
def fail {α : Type} (fault : ParseFault) : Reader α :=
  ⟨fun cursor => .fail fault cursor, fun cursor => .refl cursor⟩

/-- The character under the cursor, absent at the end. -/
def peek : Reader (Option Char) :=
  ⟨fun cursor => .done cursor.peek? cursor, fun cursor => .refl cursor⟩

/-- The cursor itself. -/
def cursor : Reader Cursor := ⟨fun place => .done place place, fun place => .refl place⟩

/-- Pass the character under the cursor. -/
def advance : Reader Unit :=
  ⟨fun cursor => .done () cursor.advance, fun cursor => cursor.reaches_advance⟩

/-- Pass blanks. -/
def skipBlanks : Reader Unit :=
  ⟨fun cursor => .done () cursor.skipBlanks, fun cursor => cursor.reaches_skipBlanks⟩

/-- Require `character` under the cursor, without passing it; else fail with `fault`. -/
def expect (character : Char) (fault : ParseFault) : Reader Unit := do
  if (← peek) = some character then pure () else fail fault

/-- The value of `reader`, and the character before which it leaves the cursor. -/
def withNext {α : Type} (reader : Reader α) : Reader (α × Option Char) := do
  let value ← reader
  return (value, ← peek)

/-- Run `reader`, with `fault` as the fault of any error it meets. -/
def relabel {α : Type} (reader : Reader α) (fault : ParseFault) : Reader α :=
  ⟨fun cursor =>
    match reader.run cursor with
    | (.ok value, stop) => (.ok value, stop)
    | (.error error, stop) => (.error { error with fault }, stop),
    fun cursor => by
      have reached := reader.reaches cursor
      revert reached
      obtain ⟨result, stop⟩ := reader.run cursor
      cases result <;> exact id⟩

/-- The characters, first to last, up to the first one that satisfies `stops`. -/
def takeUntilFrom (stops : Char → Bool) (taken passed : List Char) : List Char → Reading String
  | [] => .done (String.ofList taken.reverse) ⟨passed, []⟩
  | character :: rest =>
    if stops character then .done (String.ofList taken.reverse) ⟨passed, character :: rest⟩
    else takeUntilFrom stops (character :: taken) (character :: passed) rest

theorem reaches_takeUntilFrom (stops : Char → Bool) (taken passed rest : List Char) :
    Cursor.Reaches ⟨passed, rest⟩ (takeUntilFrom stops taken passed rest).2 := by
  fun_induction takeUntilFrom stops taken passed rest with
  | case1 => exact .refl _
  | case2 => exact .refl _
  | case3 taken passed character rest _ ih =>
    exact (Cursor.Reaches.step passed rest character).trans ih

/-- The text up to the first character that satisfies `stops`, or to the end. -/
def takeUntil (stops : Char → Bool) : Reader String :=
  ⟨fun cursor => takeUntilFrom stops [] cursor.passed cursor.rest,
    fun cursor => reaches_takeUntilFrom stops [] cursor.passed cursor.rest⟩

end Reader

end MessageTemplate
