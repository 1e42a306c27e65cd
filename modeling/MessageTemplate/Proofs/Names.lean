import MessageTemplate.Proofs.Tokens

/-!
# Names and what follows them

Identifiers and choice names in closed form, together with the character that the cursor is left
on. Where such a reader stops, and with what answer, is a matter of the runs of characters in
front of it, wherever in a text it starts.
-/

namespace MessageTemplate.Reader

variable {α : Type}

theorem run_withNext_of_done {reader : Reader α} {cursor stop : Cursor} {value : α}
    (read : reader.run cursor = .done value stop) :
    reader.withNext.run cursor = .done (value, stop.peek?) stop := by
  rw [withNext, run_bind, read]
  rfl

theorem run_withNext_of_fail {reader : Reader α} {cursor stop : Cursor} {fault : ParseFault}
    (read : reader.run cursor = .fail fault stop) :
    reader.withNext.run cursor = .fail fault stop := by
  rw [withNext, run_bind, read]
  rfl

/-- An identifier and the character that ends it, in closed form: blanks, the longest run of name
characters and blanks are passed, and the character behind them decides. -/
def identifierBefore (cursor : Cursor) : Reading (String × Option Char) :=
  let start := cursor.passWhile isBlank
  let name := start.rest.takeWhile isNameCharacter
  let stop := (start.passWhile isNameCharacter).passWhile isBlank
  match stop.peek? with
  | none => .fail .unbalancedBraces stop
  | some next =>
    if next = ',' ∨ next = '}' then .done (String.ofList name, some next) stop
    else if next = '{' then .fail .invalidExpr stop
    else .fail .invalidFormat stop

/-- A choice name and the character behind it and its blanks, in closed form: blanks and the
longest run of choice characters are passed, and the character behind them decides. -/
def choiceNameBefore (cursor : Cursor) : Reading (String × Option Char) :=
  let start := cursor.passWhile isBlank
  let name := start.rest.takeWhile isChoiceCharacter
  let stop := start.passWhile isChoiceCharacter
  match stop.peek? with
  | none => .fail .unbalancedBraces stop
  | some next =>
    if name = [] then .fail .missingChoiceName stop
    else if isBlank next then
      .done (String.ofList name, (stop.passWhile isBlank).peek?) (stop.passWhile isBlank)
    else .done (String.ofList name, some next) stop

theorem identifier_withNext_run (cursor : Cursor) :
    identifier.withNext.run cursor = identifierBefore cursor := by
  unfold identifierBefore
  extract_lets start name stop
  have read : identifier.run cursor = identifierEnd (String.ofList name) stop :=
    identifier_run cursor
  unfold identifierEnd at read
  cases present : stop.peek? with
  | none =>
    rw [present] at read
    exact run_withNext_of_fail read
  | some next =>
    rw [present] at read
    dsimp only at read ⊢
    split_ifs at read ⊢
    · rw [run_withNext_of_done read, present]
    · exact run_withNext_of_fail read
    · exact run_withNext_of_fail read

/-- Behind blanks no choice name is empty because a blank follows it. -/
theorem isBlank_eq_false_of_empty_run {cursor : Cursor} {next : Char}
    (empty : (cursor.passWhile isBlank).rest.takeWhile isChoiceCharacter = [])
    (present : ((cursor.passWhile isBlank).passWhile isChoiceCharacter).peek? = some next) :
    isBlank next = false := by
  have stay := (cursor.passWhile isBlank).spans_passWhile isChoiceCharacter
  rw [empty, Cursor.Spans.nil_iff] at stay
  rw [← stay] at present
  exact Cursor.not_of_peek?_passWhile present

theorem choiceName_withNext_run (cursor : Cursor) :
    choiceName.withNext.run cursor = choiceNameBefore cursor := by
  unfold choiceNameBefore
  extract_lets start name stop
  have read : choiceName.run cursor = choiceNameEnd (String.ofList name) stop :=
    choiceName_run cursor
  unfold choiceNameEnd at read
  cases present : stop.peek? with
  | none =>
    rw [present] at read
    exact run_withNext_of_fail read
  | some next =>
    rw [present] at read
    dsimp only at read ⊢
    by_cases empty : name = []
    · have unblank : isBlank next = false := isBlank_eq_false_of_empty_run empty present
      rw [if_neg (by simp [unblank]), if_pos (by simp [empty])] at read
      rw [if_pos empty]
      exact run_withNext_of_fail read
    · rw [if_neg empty]
      split_ifs at read ⊢ with blank unnamed
      · exact run_withNext_of_done read
      · exact absurd (by simpa using unnamed) empty
      · rw [run_withNext_of_done read, present]

/-- From every place of every text, identifiers and choice names are read as the closed forms say:
with that name and that next character or with that fault, and in either case the cursor is left,
and an error points, where the closed form stops. -/
theorem run_withNext_eq_closed (cursor : Cursor) :
    identifier.withNext.run cursor = identifierBefore cursor ∧
      choiceName.withNext.run cursor = choiceNameBefore cursor :=
  ⟨identifier_withNext_run cursor, choiceName_withNext_run cursor⟩

end MessageTemplate.Reader
