import MessageTemplate.Proofs.IndexedTokens

/-!
# Routines by index

A scan agrees with a reader if from every place of every text it does what the reader does, and no
check of an index fails. The steps of readers and the ways to combine them have scans that agree.
What registered kinds do to read an expression is a routine, which calls the methods of scanning;
as a scan and as a reader it agrees.
-/

namespace MessageTemplate

/-- At the end of a text its length is reached, and not before. -/
theorem Cursor.decide_length_le_position (cursor : Cursor) :
    decide (cursor.characters.length ≤ cursor.position) = cursor.atEnd := by
  obtain ⟨passed, rest⟩ := cursor
  cases rest with
  | nil => simp [characters, position, atEnd]
  | cons character rest => simp [characters, position, atEnd]

namespace Reader

variable {α : Type}

/-- The answer of a reader as a value, be it a value or an error. -/
def attempt (reader : Reader α) : Reader (Except ParseError α) :=
  ⟨fun cursor => .done (reader.run cursor).1 (reader.run cursor).2, reader.reaches⟩

end Reader

namespace Scan

variable {α β : Type} {cursor : Cursor}

/-- Require `character` under the cursor, without passing it; else fail with `fault`. -/
def expect (character : Char) (fault : ParseFault) : Scan Unit := do
  if (← peek) = some character then pure () else fail fault

/-- Run `scan`, with `fault` as the fault of any error it meets. -/
def relabel (scan : Scan α) (fault : ParseFault) : Scan α :=
  ⟨fun characters index =>
    (scan.run characters index).map fun (result, stop) =>
      (result.mapError fun error => { error with fault }, stop)⟩

/-- The value of `scan`, and the character before which it leaves the cursor. -/
def withNext (scan : Scan α) : Scan (α × Option Char) := do
  let value ← scan
  return (value, ← peek)

/-- The answer of a scan as a value, be it a value or an error. -/
def attempt (scan : Scan α) : Scan (Except ParseError α) :=
  ⟨fun characters index =>
    (scan.run characters index).map fun (result, stop) => (.ok result, stop)⟩

/-! ## Agreement -/

/-- From every place of every text a scan does what a reader does, and no check fails. -/
def Agrees (scan : Scan α) (reader : Reader α) : Prop :=
  ∀ cursor, scan.Finds cursor (reader.run cursor)

/-- Steps that agree on the way of a reader make sequences that agree. -/
theorem Finds.bind {first : Scan α} {reader : Reader α} {next : α → Scan β} {other : α → Reader β}
    (found : first.Finds cursor (reader.run cursor))
    (onward : ∀ value stop, reader.run cursor = .done value stop →
      (next value).Finds stop ((other value).run stop)) :
    (first >>= next).Finds cursor ((reader >>= other).run cursor) := by
  rw [Reader.run_bind]
  rcases (reader.run cursor).eq_done_or_error with ⟨value, stop, read⟩ | ⟨error, stop, failed⟩
  · rw [read] at found ⊢
    exact found.step (Reader.reaches_of_done read) (onward value stop read)
  · rw [failed] at found ⊢
    exact found.stuck

theorem Agrees.bind {first : Scan α} {reader : Reader α} {next : α → Scan β}
    {other : α → Reader β} (step : first.Agrees reader)
    (onward : ∀ value, (next value).Agrees (other value)) :
    (first >>= next).Agrees (reader >>= other) :=
  fun cursor => (step cursor).bind fun value stop _ => onward value stop

theorem Agrees.ite {condition : Prop} [Decidable condition] {scan other : Scan α}
    {reader second : Reader α} (positive : scan.Agrees reader) (negative : other.Agrees second) :
    (if condition then scan else other).Agrees (if condition then reader else second) := by
  split
  · exact positive
  · exact negative

theorem agrees_pure (value : α) : (pure value : Scan α).Agrees (pure value) := finds_pure value

theorem agrees_fail (fault : ParseFault) : (fail fault : Scan α).Agrees (.fail fault) :=
  finds_fail fault

theorem agrees_expect (character : Char) (fault : ParseFault) :
    (expect character fault).Agrees (.expect character fault) :=
  Agrees.bind finds_peek fun _ => .ite (agrees_pure ()) (agrees_fail fault)

theorem Agrees.relabel {scan : Scan α} {reader : Reader α} (agrees : scan.Agrees reader)
    (fault : ParseFault) : (scan.relabel fault).Agrees (reader.relabel fault) := by
  intro cursor
  have found := agrees cursor
  rw [Finds] at found
  rw [Finds, Scan.relabel, Reader.relabel]
  dsimp only
  rw [found]
  rcases (reader.run cursor).eq_done_or_error with ⟨value, stop, read⟩ | ⟨error, stop, failed⟩
  · rw [read]
    rfl
  · rw [failed]
    rfl

theorem Agrees.withNext {scan : Scan α} {reader : Reader α} (agrees : scan.Agrees reader) :
    scan.withNext.Agrees reader.withNext :=
  agrees.bind fun _ => Agrees.bind finds_peek fun _ => agrees_pure _

theorem Agrees.attempt {scan : Scan α} {reader : Reader α} (agrees : scan.Agrees reader) :
    scan.attempt.Agrees reader.attempt := by
  intro cursor
  have found := agrees cursor
  rw [Finds] at found
  rw [Finds, Scan.attempt]
  dsimp only
  rw [found]
  rfl

end Scan

/-! ## Routines of registered kinds -/

/-- A method of scanning that a registered kind may call: every one but the cutting of slices. With
the index an error can be told where the cursor is. -/
inductive Call where
  | text
  | index
  | length
  | isEmpty
  | atEnd
  | peek
  | advance
  | skipBlanks
  | identifier
  | choiceName
  | offset

namespace Call

/-- What a method answers. An error is an answer too, which the caller may pass on or not. -/
abbrev Answer : Call → Type
  | text => String
  | index | length => Nat
  | isEmpty | atEnd => Bool
  | peek | skipBlanks => Option Char
  | advance => Unit
  | identifier | choiceName => Except ParseError (String × Option Char)
  | offset => Except ParseError UInt64

/-- A method as a reader. -/
def reader : (call : Call) → Reader call.Answer
  | text => do return String.ofList (← Reader.cursor).characters
  | index => do return (← Reader.cursor).position
  | length => do return (← Reader.cursor).characters.length
  | isEmpty => do return (← Reader.cursor).characters.isEmpty
  | atEnd => do return (← Reader.cursor).atEnd
  | peek => .peek
  | advance => .advance
  | skipBlanks => do
    .skipBlanks
    .peek
  | identifier => Reader.identifier.withNext.attempt
  | choiceName => Reader.choiceName.withNext.attempt
  | offset => Reader.offset.attempt

/-- A method as a scan. -/
def scan : (call : Call) → Scan call.Answer
  | text => do return String.ofList (← Scan.characters)
  | index => Scan.index
  | length => do return (← Scan.characters).length
  | isEmpty => do return (← Scan.characters).isEmpty
  | atEnd => do
    let here ← Scan.index
    return (← Scan.characters).length ≤ here
  | peek => .peek
  | advance => .advance
  | skipBlanks => do
    .skipBlanks
    .peek
  | identifier => Scan.identifier.withNext.attempt
  | choiceName => Scan.choiceName.withNext.attempt
  | offset => Scan.offset.attempt

theorem agrees (call : Call) : call.scan.Agrees call.reader := by
  intro cursor
  cases call with
  | text | length | isEmpty =>
    exact (Scan.finds_characters cursor).step (.refl _) (Scan.finds_pure _ _)
  | index => exact Scan.finds_index cursor
  | atEnd =>
    apply (Scan.finds_index cursor).step (.refl _)
    apply (Scan.finds_characters cursor).step (.refl _)
    rw [cursor.decide_length_le_position]
    exact Scan.finds_pure _ _
  | peek => exact Scan.finds_peek cursor
  | advance => exact Scan.finds_advance cursor
  | skipBlanks =>
    exact (Scan.finds_skipBlanks cursor).step cursor.reaches_skipBlanks (Scan.finds_peek _)
  | identifier => exact Scan.Agrees.attempt (Scan.Agrees.withNext Scan.finds_identifier) cursor
  | choiceName => exact Scan.Agrees.attempt (Scan.Agrees.withNext Scan.finds_choiceName) cursor
  | offset => exact Scan.Agrees.attempt Scan.finds_offset cursor

end Call

/-- What a registered kind does to read an expression: it calls methods, each chosen by the answers
so far, and stops with a payload or an error. A loop is a routine as well, since its rounds can be
counted against the length of the text. -/
inductive Routine (π : Type) where
  | stop (result : Except ParseError π)
  | call (call : Call) (next : call.Answer → Routine π)

namespace Routine

variable {π : Type}

/-- A routine as a reader. -/
def reader : Routine π → Reader π
  | stop result => ⟨fun cursor => (result, cursor), fun cursor => .refl cursor⟩
  | call method next => do
    let answer ← method.reader
    (next answer).reader

/-- A routine as a scan. -/
def scan : Routine π → Scan π
  | stop result => ⟨fun _ index => .ok (result, index)⟩
  | call method next => do
    let answer ← method.scan
    (next answer).scan

theorem agrees (routine : Routine π) : routine.scan.Agrees routine.reader := by
  induction routine with
  | stop result => exact fun _ => rfl
  | call method next inductionHypothesis => exact method.agrees.bind inductionHypothesis

/-! ### A loop -/

/-- Take characters up to one that satisfies `stops`, in at most so many rounds. -/
def takeRounds (stops : Char → Bool) : Nat → List Char → Routine String
  | 0, taken => .stop (.ok (String.ofList taken.reverse))
  | rounds + 1, taken => .call .peek fun
    | none => .stop (.ok (String.ofList taken.reverse))
    | some character =>
      if stops character then .stop (.ok (String.ofList taken.reverse))
      else .call .advance fun _ => takeRounds stops rounds (character :: taken)

/-- Take characters up to one that satisfies `stops`. -/
def takeUntil (stops : Char → Bool) : Routine String :=
  .call .length fun length => takeRounds stops length []

theorem reader_takeRounds (stops : Char → Bool) {rounds : Nat} (taken passed rest : List Char)
    (enough : rest.length ≤ rounds) :
    (takeRounds stops rounds taken).reader.run ⟨passed, rest⟩ =
      Reader.takeUntilFrom stops taken passed rest := by
  induction rest generalizing rounds taken passed with
  | nil =>
    cases rounds with
    | zero => rfl
    | succ rounds => rfl
  | cons character rest inductionHypothesis =>
    obtain ⟨rounds, rfl⟩ := Nat.exists_eq_add_one.mpr (Nat.zero_lt_of_lt enough)
    rw [takeRounds, Reader.takeUntilFrom, reader, Reader.run_bind]
    change (if stops character then _ else _ : Routine String).reader.run _ = _
    by_cases last : stops character = true
    · rw [if_pos last, if_pos last]
      rfl
    · rw [if_neg last, if_neg last]
      exact inductionHypothesis _ _ (Nat.le_of_succ_le_succ enough)

theorem reader_takeUntil (stops : Char → Bool) :
    (takeUntil stops).reader = Reader.takeUntil stops := by
  ext cursor : 1
  exact reader_takeRounds stops [] _ _ (by simp [Cursor.characters])

end Routine

end MessageTemplate
