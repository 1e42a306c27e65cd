import MessageTemplate.Proofs.Inversion

/-!
# Readers as steps

The readers that go through a text by recursion, written as sequences of readers: blanks and
runs of characters, a look at what follows, and for bodies and choices the same reader again. A
property that sequences have if their steps have it can be shown from these equations.
-/

namespace MessageTemplate

namespace Reading

variable {α β : Type}

/-- An answer is a value or an error. -/
theorem eq_done_or_error (reading : Reading α) :
    (∃ value stop, reading = .done value stop) ∨ ∃ error stop, reading = (.error error, stop) := by
  obtain ⟨result, stop⟩ := reading
  cases result with
  | ok value => exact .inl ⟨value, stop, rfl⟩
  | error error => exact .inr ⟨error, stop, rfl⟩

theorem map_id_eq (reading : Reading α) : reading.map id = reading := by
  rcases reading.eq_done_or_error with ⟨value, stop, rfl⟩ | ⟨error, stop, rfl⟩
  · rfl
  · rfl

end Reading

namespace Reader

variable {α β : Type}

/-- A reader that finds a value stops at a place further on. -/
theorem reaches_of_done {reader : Reader α} {cursor stop : Cursor} {value : α}
    (read : reader.run cursor = .done value stop) : cursor.Reaches stop := by
  have reached := reader.reaches cursor
  rwa [read] at reached

/-- A last step that only changes the value. -/
theorem follow_done_eq_map (reading : Reading α) (change : α → β) :
    (follow reading fun value place => .done (change value) place) = reading.map change := by
  rcases reading.eq_done_or_error with ⟨value, stop, rfl⟩ | ⟨error, stop, rfl⟩
  · rfl
  · rfl

/-! ## Words -/

/-- The characters with a property, up to the first without it. -/
def span (property : Char → Bool) : Reader (List Char) :=
  ⟨fun cursor => .done (cursor.rest.takeWhile property) (cursor.passWhile property),
    fun cursor => ⟨_, cursor.spans_passWhile property⟩⟩

@[simp] theorem run_span (property : Char → Bool) (cursor : Cursor) :
    (span property).run cursor =
      .done (cursor.rest.takeWhile property) (cursor.passWhile property) := rfl

theorem skipBlanks_eq : skipBlanks = (do let _ ← span isBlank; pure ()) := by
  ext cursor : 1
  rw [run_skipBlanks, Cursor.skipBlanks_eq_passWhile]
  rfl

/-- An identifier as steps: blanks, name characters, blanks, and a look at what follows. -/
theorem identifier_eq : identifier = (do
    skipBlanks
    let name ← span isNameCharacter
    skipBlanks
    match ← peek with
    | none => fail .unbalancedBraces
    | some character =>
      if character = ',' ∨ character = '}' then pure (String.ofList name)
      else if character = '{' then fail .invalidExpr
      else fail .invalidFormat) := by
  ext cursor : 1
  rw [identifier_run]
  simp only [run_bind, run_skipBlanks, run_span, run_peek, follow_done_eq,
    Cursor.skipBlanks_eq_passWhile, identifierEnd]
  generalize Cursor.passWhile isBlank _ = stop
  cases stop.peek? with
  | none => rfl
  | some character =>
    dsimp only
    split_ifs <;> rfl

/-- A choice name as steps: blanks, choice characters, and a look at what follows. -/
theorem choiceName_eq : choiceName = (do
    skipBlanks
    let name ← span isChoiceCharacter
    match ← peek with
    | none => fail .unbalancedBraces
    | some character =>
      if isBlank character then
        skipBlanks
        pure (String.ofList name)
      else if String.ofList name = "" then fail .missingChoiceName
      else pure (String.ofList name)) := by
  ext cursor : 1
  rw [choiceName_run]
  simp only [run_bind, run_skipBlanks, run_span, run_peek, follow_done_eq,
    Cursor.skipBlanks_eq_passWhile, choiceNameEnd]
  generalize Cursor.passWhile isChoiceCharacter _ = stop
  cases stop.peek? with
  | none => rfl
  | some character =>
    dsimp only
    split_ifs
    · rw [run_bind, run_skipBlanks, Cursor.skipBlanks_eq_passWhile]
      rfl
    · rfl
    · rfl

/-- An offset as steps: blanks, the numeral, and a look whether anything follows. -/
theorem offset_eq : offset = (do
    skipBlanks
    let numeral ← span isOffsetCharacter
    match ← peek with
    | none => fail .unbalancedBraces
    | some _ =>
      match offsetValue numeral with
      | .ok value => pure value
      | .error fault => fail fault) := by
  ext cursor : 1
  rw [offset_run]
  simp only [run_bind, run_skipBlanks, run_span, run_peek, follow_done_eq,
    Cursor.skipBlanks_eq_passWhile, offsetEnd]
  generalize Cursor.passWhile isOffsetCharacter _ = stop
  cases stop.peek? with
  | none => rfl
  | some character =>
    generalize offsetValue _ = value
    cases value <;> rfl

end Reader

theorem Cursor.atEnd_iff (cursor : Cursor) : cursor.atEnd = true ↔ cursor.peek? = none := by
  rw [atEnd, List.isEmpty_iff, peek?, List.head?_eq_none_iff]

namespace Parser

variable {π : Type}

/-! ## Bodies and choices -/

/-- A run of literal text as a reader. -/
def literal : Reader (List Char) :=
  ⟨fun cursor => .done (literalRun cursor).1 (literalRun cursor).2, reaches_literalRun⟩

@[simp] theorem run_literal (cursor : Cursor) :
    literal.run cursor = .done (literalRun cursor).1 (literalRun cursor).2 := rfl

/-- Behind an expression of a body less is left than before the body. -/
theorem rest_length_lt_of_expression {reader : Reader (Node π)} {cursor stop : Cursor}
    {node : Node π} {next : Char} (present : (literalRun cursor).2.peek? = some next)
    (read : reader.run (literalRun cursor).2.advance = .done node stop) :
    stop.advance.rest.length < cursor.rest.length := by
  have toBrace := (reaches_literalRun cursor).rest_length_le
  have pastBrace := Cursor.advance_rest_lt present
  have toStop := (Reader.reaches_of_done read).rest_length_le
  have toNext := stop.reaches_advance.rest_length_le
  omega

/-- Behind a choice less is left than before it. -/
theorem rest_length_lt_of_choice {body : Reader (Tree π × BodyEnd)} {offsetAllowed : Bool}
    {seen : List String} {cursor brace place : Cursor} {head : String × UInt64} {tree : Tree π}
    (unfinished : ¬cursor.atEnd)
    (found : (choiceHead offsetAllowed seen).run cursor = .done head brace)
    (read : (choiceBody body).run brace.advance = .done tree place) :
    place.rest.length < cursor.rest.length := by
  have toPlace := (Reader.reaches_of_done read).rest_length_le
  exact Nat.lt_of_le_of_lt toPlace ((Reader.reaches_of_done found).advance_rest_lt unfinished)

/-- A body as steps: a run of literal text, and behind an opening brace an expression, its
closing brace and the rest of the body. -/
theorem bodyOf_eq (expression : Option (Reader (Node π))) :
    bodyOf expression = (do
      let run ← literal
      match ← Reader.peek with
      | none => pure (Literal.nodes run, .input)
      | some next =>
        if next = '}' then pure (Literal.nodes run, .close)
        else
          match expression with
          | none => .fail .maxDepthExceeded
          | some reader =>
            .advance
            let node ← reader
            .expect '}' .unbalancedBraces
            .advance
            let (nodes, bodyEnd) ← bodyOf expression
            pure (Literal.nodes run ++ node :: nodes, bodyEnd)) := by
  ext cursor : 1
  change bodyFrom expression cursor = _
  rw [bodyFrom_eq]
  simp only [Reader.run_bind, run_literal, Reader.run_peek, Reader.follow_done_eq]
  generalize literalRun cursor = read
  obtain ⟨run, brace⟩ := read
  cases brace.peek? with
  | none => rfl
  | some next =>
    dsimp only
    split_ifs
    · rfl
    · cases expression with
      | none => rfl
      | some reader =>
        simp only [Reader.run_bind, Reader.run_advance, Reader.follow_done_eq]
        congr 1
        funext node place
        by_cases close : place.peek? = some '}'
        · simp [Reader.expect, close, Reader.follow_done_eq_map]
          rfl
        · simp [Reader.expect, close]

/-- What choices amount to, as a reader. -/
def finish (seen : List String) : Reader (Choices π × UInt64) :=
  ⟨finishChoices seen, reaches_finishChoices seen⟩

/-- The choices behind those whose names are in `seen`, as a reader. -/
def choicesOf (body : Reader (Tree π × BodyEnd)) (offsetAllowed : Bool) (seen : List String) :
    Reader (Choices π × UInt64) :=
  ⟨choicesFrom body offsetAllowed seen, reaches_choicesFrom body offsetAllowed seen⟩

theorem finish_eq (seen : List String) :
    finish (π := π) seen =
      if seen.contains otherChoice then pure ([], 0) else .fail .missingMandatoryChoice := by
  ext cursor : 1
  change finishChoices seen cursor = _
  unfold finishChoices
  split <;> rfl

/-- Choices as steps: none at the end of the text, and else a choice, behind which the closing
brace of the expression or more choices stand. -/
theorem choicesOf_eq (body : Reader (Tree π × BodyEnd)) (offsetAllowed : Bool)
    (seen : List String) :
    choicesOf body offsetAllowed seen = (do
      if (← Reader.peek) = none then finish seen
      else
        let (name, offset) ← choiceHead offsetAllowed seen
        .advance
        let tree ← choiceBody body
        let (others, _) ←
          if (← Reader.peek) = some '}' then finish (name :: seen)
          else choicesOf body offsetAllowed (name :: seen)
        pure ((name, tree) :: others, offset)) := by
  ext cursor : 1
  change choicesFrom body offsetAllowed seen cursor = _
  rw [choicesFrom_eq]
  simp only [Reader.run_bind, Reader.run_peek, Reader.follow_done_eq]
  have atEnd := cursor.atEnd_iff
  by_cases empty : cursor.peek? = none
  · rw [if_pos (atEnd.mpr empty), if_pos empty]
    rfl
  · rw [if_neg (mt atEnd.mp empty), if_neg empty]
    rw [Reader.run_bind]
    congr 1
    funext head brace
    rw [Reader.run_bind, Reader.run_advance, Reader.follow_done_eq, Reader.run_bind]
    congr 1
    funext tree place
    rw [Reader.run_bind, Reader.run_peek, Reader.follow_done_eq]
    split
    · exact (Reader.follow_done_eq_map (finishChoices (head.1 :: seen) place) _).symm
    · exact (Reader.follow_done_eq_map (choicesFrom body offsetAllowed (head.1 :: seen) place) _).symm

end Parser

end MessageTemplate
