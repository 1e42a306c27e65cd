import MessageTemplate.Proofs.Steps

/-!
# Scanning by index

A scan goes through the characters of a text by an index that nothing ties to the text. Instead
every use of an index is checked: moving the cursor, cutting a slice, taking one index from
another. A use that is out of range ends the scan and is told, and no step behind it can mend
that. `Scan.Finds` says that from a place on every use is in range and that the answer and the
place where the scan stops are the ones expected; its rules go through a scan step by step.
-/

namespace MessageTemplate

/-- The position is further on exactly where less is left. -/
theorem Cursor.Reaches.position_lt_iff {earlier later : Cursor} (reached : earlier.Reaches later) :
    earlier.position < later.position ↔ later.rest.length < earlier.rest.length := by
  obtain ⟨text, spans⟩ : ∃ text, earlier.Spans text later := reached
  rw [spans.position_eq, spans.length_eq, Nat.lt_add_right_iff_pos, Nat.lt_add_left_iff_pos]

/-- A use of indices into a text. -/
inductive IndexUse where
  /-- The cursor moves. -/
  | cursor (source target : Nat)
  /-- A loop that came to one index goes on at another. -/
  | loop (source target : Nat)
  /-- A slice is cut out. -/
  | slice (first last : Nat)
  /-- The parts of a run of literal text are scanned. -/
  | literal (first last : Nat)
  /-- An index is taken from another. -/
  | difference (minuend subtrahend : Nat)
  deriving DecidableEq, Repr

namespace IndexUse

/-- Whether indices may be used so in a text of a length. The cursor never moves back, nothing
reaches beyond the end or ends before it begins, and no difference is negative. -/
def InRange (length : Nat) : IndexUse → Prop
  | cursor source target => source ≤ target ∧ target ≤ length
  | loop source target => source < target ∧ target ≤ length
  | slice first last | literal first last => first ≤ last ∧ last ≤ length
  | difference minuend subtrahend => subtrahend ≤ minuend

instance (length : Nat) : DecidablePred (InRange length)
  | cursor _ _ | loop _ _ | slice _ _ | literal _ _ => inferInstanceAs (Decidable (_ ∧ _))
  | difference _ _ => inferInstanceAs (Decidable (_ ≤ _))

end IndexUse

/-- A value, or the first use of indices that is out of range. -/
abbrev Checked (α : Type) := Except IndexUse α

namespace Checked

/-- Use indices into a text of a length. -/
def check (length : Nat) (use : IndexUse) : Checked Unit :=
  if use.InRange length then .ok () else .error use

/-- A check is passed exactly by what is in range. -/
theorem check_eq_ok_iff {length : Nat} {use : IndexUse} :
    check length use = .ok () ↔ use.InRange length := by
  unfold check
  split
  · rename_i within
    exact iff_of_true rfl within
  · rename_i beyond
    exact iff_of_false (by simp) beyond

/-- The characters from the index `first` up to the index `last`. -/
def slice (characters : List Char) (first last : Nat) : Checked (List Char) := do
  check characters.length (.slice first last)
  return (characters.take last).drop first

/-- How far one index lies behind another. -/
def difference (characters : List Char) (minuend subtrahend : Nat) : Checked Nat := do
  check characters.length (.difference minuend subtrahend)
  return minuend - subtrahend

/-- In range a check makes no difference. -/
theorem check_bind {α : Type} {length : Nat} {use : IndexUse} (within : use.InRange length)
    (next : Unit → Checked α) : (check length use >>= next) = next () := by
  rw [check_eq_ok_iff.mpr within]
  rfl

theorem slice_append (before text after : List Char) :
    slice (before ++ text ++ after) before.length (before.length + text.length) = .ok text := by
  have within : (IndexUse.slice before.length (before.length + text.length)).InRange
      (before ++ text ++ after).length := by simp [IndexUse.InRange]
  rw [slice, check_bind within, ← List.length_append, List.take_left, List.drop_left]
  rfl

theorem difference_of_le (characters : List Char) {minuend subtrahend : Nat}
    (ordered : subtrahend ≤ minuend) :
    difference characters minuend subtrahend = .ok (minuend - subtrahend) := by
  have within : (IndexUse.difference minuend subtrahend).InRange characters.length := ordered
  exact check_bind within _

end Checked

/-- A scan takes the characters of a text and an index into them, and answers a value or an error,
together with the index where it stopped. -/
structure Scan (α : Type) where
  run : List Char → Nat → Checked (Except ParseError α × Nat)

namespace Scan

variable {α β σ : Type}

instance : Monad Scan where
  pure value := ⟨fun _ index => .ok (.ok value, index)⟩
  bind scan next :=
    ⟨fun characters index =>
      match scan.run characters index with
      | .ok (.ok value, stop) => (next value).run characters stop
      | .ok (.error error, stop) => .ok (.error error, stop)
      | .error fault => .error fault⟩

/-! ## Steps -/

/-- The index of the cursor. -/
def index : Scan Nat := ⟨fun _ index => .ok (.ok index, index)⟩

/-- All characters of the text. -/
def characters : Scan (List Char) := ⟨fun characters index => .ok (.ok characters, index)⟩

/-- A computation that uses indices and does not move the cursor. -/
def lift (checked : Checked α) : Scan α :=
  ⟨fun _ index => checked.map fun value => (.ok value, index)⟩

/-- Fail with `fault` where the cursor is. -/
def fail (fault : ParseFault) : Scan α := ⟨fun _ index => .ok (.error ⟨fault, index⟩, index)⟩

/-- Move the cursor. It neither goes back nor beyond the end of the text. -/
def moveTo (target : Nat) : Scan Unit :=
  ⟨fun characters index => do
    Checked.check characters.length (.cursor index target)
    return (.ok (), target)⟩

/-- The character under the cursor, absent at the end and beyond. -/
def peek : Scan (Option Char) :=
  ⟨fun characters index => .ok (.ok characters[index]?, index)⟩

/-- Pass the character under the cursor. -/
def advance : Scan Unit := do
  let here ← index
  if here < (← characters).length then moveTo (here + 1)

/-- The text from the index `first` up to the index `last`. -/
def slice (first last : Nat) : Scan (List Char) := do
  lift (Checked.slice (← characters) first last)

/-- Run `step`, which may run itself again from further on in the text. -/
def fixFrom (step : (σ → Scan α) → σ → Scan α) (characters : List Char) (state : σ) (index : Nat) :
    Checked (Except ParseError α × Nat) :=
  let again (state : σ) : Scan α :=
    ⟨fun _ next =>
      if _further : (IndexUse.loop index next).InRange characters.length then
        fixFrom step characters state next
      else .error (.loop index next)⟩
  (step again state).run characters index
termination_by characters.length - index
decreasing_by
  simp only [IndexUse.InRange] at _further
  omega

/-- The scan that `step` describes in terms of itself. It runs itself only from further on. -/
def fix (step : (σ → Scan α) → σ → Scan α) (state : σ) : Scan α :=
  ⟨fun characters => fixFrom step characters state⟩

/-- Pass blanks. -/
def skipBlanks : Scan Unit :=
  fix (fun again _ => do
    match ← peek with
    | none => pure ()
    | some character =>
      if isBlank character then
        moveTo ((← index) + 1)
        again ()
      else pure ()) ()

/-! ## What a scan finds -/

variable {cursor stop : Cursor}

/-- From a place on, all indices that a scan uses are in range, and it answers what a reading does
and stops where that stops. -/
def Finds (scan : Scan α) (cursor : Cursor) (reading : Reading α) : Prop :=
  scan.run cursor.characters cursor.position = .ok (reading.1, reading.2.position)

theorem finds_pure (value : α) (cursor : Cursor) :
    (pure value : Scan α).Finds cursor (.done value cursor) := rfl

theorem finds_fail (fault : ParseFault) (cursor : Cursor) :
    (fail fault : Scan α).Finds cursor (.fail fault cursor) := rfl

theorem finds_index (cursor : Cursor) : index.Finds cursor (.done cursor.position cursor) := rfl

theorem finds_characters (cursor : Cursor) :
    characters.Finds cursor (.done cursor.characters cursor) := rfl

theorem finds_peek (cursor : Cursor) : peek.Finds cursor (.done cursor.peek? cursor) := by
  rw [← cursor.getElem?_position]
  rfl

theorem finds_lift {checked : Checked α} {value : α} (within : checked = .ok value)
    (cursor : Cursor) : (lift checked).Finds cursor (.done value cursor) := by
  rw [Finds, lift, within]
  rfl

theorem finds_moveTo (reached : cursor.Reaches stop) :
    (moveTo stop.position).Finds cursor (.done () stop) := by
  have within : (IndexUse.cursor cursor.position stop.position).InRange
      cursor.characters.length := by
    rw [← reached.characters_eq]
    exact ⟨reached.position_le, stop.position_le_length⟩
  exact Checked.check_bind within _

/-- A scan goes on from where its first step stopped. -/
theorem Finds.step {first : Scan α} {next : α → Scan β} {value : α} {reading : Reading β}
    (found : first.Finds cursor (.done value stop)) (reached : cursor.Reaches stop)
    (onward : (next value).Finds stop reading) : (first >>= next).Finds cursor reading := by
  rw [Finds, reached.characters_eq] at onward
  rw [Finds] at found ⊢
  simp only [bind, found]
  exact onward

/-- A step that fails is the last one. -/
theorem Finds.stuck {first : Scan α} {next : α → Scan β} {error : ParseError}
    (found : first.Finds cursor (.error error, stop)) :
    (first >>= next).Finds cursor (.error error, stop) := by
  rw [Finds] at found ⊢
  simp only [bind, found]

theorem finds_advance (cursor : Cursor) : advance.Finds cursor (.done () cursor.advance) := by
  apply (finds_index cursor).step (.refl _)
  apply (finds_characters cursor).step (.refl _)
  obtain ⟨passed, rest⟩ := cursor
  cases rest with
  | nil =>
    rw [if_neg (by simp [Cursor.position, Cursor.characters])]
    exact finds_pure () _
  | cons character rest =>
    rw [if_pos (by simp [Cursor.position, Cursor.characters])]
    exact finds_moveTo (Cursor.reaches_advance _)

/-- The text between two places is cut out wherever the cursor is. -/
theorem finds_slice {first last : Cursor} {text : List Char} (spans : first.Spans text last)
    (reached : first.Reaches cursor) :
    (slice first.position last.position).Finds cursor (.done text cursor) := by
  apply (finds_characters cursor).step (.refl _)
  apply finds_lift
  have whole : cursor.characters = first.passed.reverse ++ text ++ last.rest := by
    rw [reached.characters_eq, Cursor.characters, spans.1, List.append_assoc]
  have before : first.position = first.passed.reverse.length := List.length_reverse.symm
  rw [whole, spans.position_eq, before]
  exact Checked.slice_append _ _ _

/-- A scan that runs itself finds what it is expected to find, if one round of it does so while
from further on it finds what it is expected to find there. -/
theorem finds_fix {step : (σ → Scan α) → σ → Scan α} (Expects : σ → Cursor → Reading α → Prop)
    (round : ∀ (again : σ → Scan α) (state : σ) (cursor : Cursor) (reading : Reading α),
      Expects state cursor reading →
      (∀ state' place reading', cursor.Reaches place → cursor.position < place.position →
        Expects state' place reading' → (again state').Finds place reading') →
      (step again state).Finds cursor reading)
    {state : σ} {reading : Reading α} (expected : Expects state cursor reading) :
    (fix step state).Finds cursor reading := by
  -- A scan runs itself only from further on, where less of the text is left.
  induction size_eq : cursor.rest.length using Nat.strongRecOn
    generalizing state cursor reading with
  | ind size inductionHypothesis =>
  change fixFrom step cursor.characters state cursor.position = _
  rw [fixFrom]
  apply round _ state cursor reading expected
  intro state' place reading' reached further expected'
  have shorter : place.rest.length < size := size_eq ▸ reached.position_lt_iff.mp further
  have within : (IndexUse.loop cursor.position place.position).InRange
      cursor.characters.length := by
    rw [← reached.characters_eq]
    exact ⟨further, place.position_le_length⟩
  have found := inductionHypothesis _ shorter expected' rfl
  rw [Finds, reached.characters_eq] at found
  rw [Finds]
  exact (dif_pos within).trans found

theorem finds_skipBlanks (cursor : Cursor) :
    skipBlanks.Finds cursor (.done () cursor.skipBlanks) := by
  refine finds_fix (fun _ cursor reading => reading = .done () cursor.skipBlanks) ?round rfl
  rintro again _ ⟨passed, rest⟩ _ rfl onward
  apply (finds_peek _).step (.refl _)
  cases rest with
  | nil => exact finds_pure () _
  | cons character rest =>
    have step := Cursor.Reaches.step passed rest character
    by_cases blank : isBlank character = true
    · rw [Cursor.skipBlanks, Cursor.skipBlanksFrom, if_pos blank]
      simp only [Cursor.peek?, List.head?_cons, if_pos blank]
      apply (finds_index _).step (.refl _)
      apply (finds_moveTo step).step step
      exact onward () _ _ step (Nat.lt_succ_self _) rfl
    · rw [Cursor.skipBlanks, Cursor.skipBlanksFrom, if_neg blank]
      simp only [Cursor.peek?, List.head?_cons, if_neg blank]
      exact finds_pure () _

end Scan

end MessageTemplate
