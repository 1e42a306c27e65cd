import MessageTemplate.Proofs.Exactness
import MessageTemplate.Proofs.Locality

/-!
# Where faults show

A parser with the built-in kinds stops where it finds a fault, and the fault tells which characters
may stand there. A sequence of readers keeps to this if its steps do, where a step may use what the
steps before it have found.
-/

namespace MessageTemplate

/-- What may stand where a fault shows; nothing does at the end of the text. -/
def ParseFault.ShowsAt : ParseFault → Option Char → Prop
  | unbalancedBraces, next => next = none ∨ next = some ',' ∨ next = some '}'
  | missingVarName, next | unknownType _, next | invalidDateFormat, next =>
    next = some ',' ∨ next = some '}'
  | malformedOption, next => next = some '}'
  | missingMandatoryChoice, next => next = none ∨ next = some '}'
  | invalidExpr, next | duplicateChoice _, next | maxDepthExceeded, next => next = some '{'
  | unexpectedExtension, next | unsupportedExtension _, next => next = some ':'
  | missingChoiceName, next =>
    ∀ character, next = some character → endsChoiceName character = true
  | missingOffsetValue, next => next = some '{' ∨ next = some '}'
  | badCast, next | invalidOffsetValue, next =>
    ∃ character, next = some character ∧ Reader.isOffsetCharacter character = false
  | missingChoiceContent, next =>
    ∀ character, next = some character → isBlank character = false ∧ character ≠ '{'
  | invalidFormat, next =>
    ∃ character, next = some character ∧ isBlank character = false ∧
      character ≠ ',' ∧ character ≠ '{' ∧ character ≠ '}'
  | undefinedParseFunc _, _ | custom _, _ => False

namespace ParseFault

/-- Which characters a fault may show at. -/
def PointsAt : ParseFault → Char → Prop
  | unbalancedBraces, character | missingVarName, character | unknownType _, character
  | invalidDateFormat, character => character = ',' ∨ character = '}'
  | malformedOption, character | missingMandatoryChoice, character => character = '}'
  | invalidExpr, character | duplicateChoice _, character | maxDepthExceeded, character =>
    character = '{'
  | unexpectedExtension, character | unsupportedExtension _, character => character = ':'
  | missingChoiceName, character =>
    character = ':' ∨ character = ',' ∨ character = '}' ∨ character = '{'
  | missingOffsetValue, character => character = '{' ∨ character = '}'
  | badCast, character | invalidOffsetValue, character =>
    isBlank character = true ∨ character = '{' ∨ character = '}'
  | missingChoiceContent, character => isBlank character = false ∧ character ≠ '{'
  | invalidFormat, character =>
    isBlank character = false ∧ character ≠ ',' ∧ character ≠ '{' ∧ character ≠ '}'
  | undefinedParseFunc _, _ | custom _, _ => False

theorem showsAt_some_iff {fault : ParseFault} {character : Char} :
    fault.ShowsAt (some character) ↔ fault.PointsAt character := by
  have unread : Reader.isOffsetCharacter character = false ↔
      isBlank character = true ∨ character = '{' ∨ character = '}' := by
    rw [Reader.isOffsetCharacter, Bool.not_eq_false']
    simp [or_assoc]
  cases fault <;> simp [ShowsAt, PointsAt, endsChoiceName, unread, or_assoc]

/-- The faults that may show at the end of the text. -/
theorem showsAt_none_iff {fault : ParseFault} :
    fault.ShowsAt none ↔ fault = .unbalancedBraces ∨ fault = .missingMandatoryChoice ∨
      fault = .missingChoiceName ∨ fault = .missingChoiceContent := by
  cases fault <;> simp [ShowsAt]

end ParseFault

/-- What stands at a place of a text is the character at its position. -/
theorem Cursor.Reaches.peek?_eq_getElem? {text : String} {stop : Cursor}
    (reached : (start text).Reaches stop) : stop.peek? = text.toList[stop.position]? := by
  rw [← stop.getElem?_position, reached.characters_eq]
  rfl

namespace Reader

variable {α β : Type} {cursor : Cursor}

/-- A fault that a reader finds from a place on shows where the reader stops. -/
def ShowsFaultAt (reader : Reader α) (cursor : Cursor) : Prop :=
  ∀ error stop, reader.run cursor = (.error error, stop) → error.fault.ShowsAt stop.peek?

/-- Every fault that a reader finds shows where the reader stops. -/
def ShowsFaults (reader : Reader α) : Prop := ∀ cursor, reader.ShowsFaultAt cursor

theorem showsFaultAt_of_done {reader : Reader α} {value : α} {stop : Cursor}
    (read : reader.run cursor = .done value stop) : reader.ShowsFaultAt cursor := by
  intro error place failed
  rw [read] at failed
  cases failed

theorem showsFaultAt_pure (value : α) (cursor : Cursor) :
    (pure value : Reader α).ShowsFaultAt cursor :=
  showsFaultAt_of_done rfl

theorem showsFaultAt_fail {fault : ParseFault} (shows : fault.ShowsAt cursor.peek?) :
    (fail fault : Reader α).ShowsFaultAt cursor := by
  intro error stop failed
  cases failed
  exact shows

theorem ShowsFaultAt.bind {reader : Reader α} {next : α → Reader β}
    (first : reader.ShowsFaultAt cursor)
    (second : ∀ value stop, reader.run cursor = .done value stop →
      (next value).ShowsFaultAt stop) :
    (reader >>= next).ShowsFaultAt cursor := by
  intro error stop failed
  rw [run_bind] at failed
  rcases (reader.run cursor).eq_done_or_error with ⟨value, place, read⟩ | ⟨_, _, read⟩
  · rw [read, follow_done_eq] at failed
    exact second value place read error stop failed
  · rw [read] at failed
    cases failed
    exact first _ _ read

/-- A first step without faults. -/
theorem ShowsFaultAt.onward {reader : Reader α} {next : α → Reader β} {value : α} {stop : Cursor}
    (read : reader.run cursor = .done value stop) (second : (next value).ShowsFaultAt stop) :
    (reader >>= next).ShowsFaultAt cursor := by
  apply (showsFaultAt_of_done read).bind
  intro other place same
  obtain ⟨rfl, rfl⟩ := Reading.done_inj.mp (read.symm.trans same)
  exact second

theorem ShowsFaultAt.ite {condition : Prop} [Decidable condition] {left right : Reader α}
    (positive : condition → left.ShowsFaultAt cursor)
    (negative : ¬condition → right.ShowsFaultAt cursor) :
    (if condition then left else right).ShowsFaultAt cursor := by
  split
  · exact positive ‹_›
  · exact negative ‹_›

/-- A required character that is missing. -/
theorem showsFaultAt_expect {character : Char} {fault : ParseFault}
    (shows : cursor.peek? ≠ some character → fault.ShowsAt cursor.peek?) :
    (expect character fault).ShowsFaultAt cursor :=
  .onward rfl (.ite (fun _ => showsFaultAt_pure () cursor) fun missing =>
    showsFaultAt_fail (shows missing))

/-- An error under another name. -/
theorem exists_of_relabel_eq_error {reader : Reader α} {fault : ParseFault} {error : ParseError}
    {stop : Cursor} (failed : (reader.relabel fault).run cursor = (.error error, stop)) :
    ∃ inner, reader.run cursor = (.error inner, stop) ∧ error = { inner with fault } := by
  simp only [relabel] at failed
  split at failed
  · cases failed
  · rename_i inner place read
    cases failed
    exact ⟨inner, read, rfl⟩

/-! ## Words -/

theorem showsFaults_identifier : identifier.ShowsFaults := by
  intro cursor
  rw [identifier_eq]
  refine .onward rfl (.onward rfl (.onward rfl (.onward rfl ?_)))
  generalize Cursor.passWhile isNameCharacter _ = gap
  rw [Cursor.skipBlanks_eq_passWhile]
  cases present : (gap.passWhile isBlank).peek? with
  | none => exact showsFaultAt_fail (.inl present)
  | some character =>
    refine .ite (fun _ => showsFaultAt_pure _ _) fun unended => ?_
    refine .ite (fun brace => ?_) fun plain => ?_
    · exact showsFaultAt_fail (present.trans (congrArg some brace))
    · obtain ⟨noComma, noClose⟩ := not_or.mp unended
      exact showsFaultAt_fail
        ⟨character, present, Cursor.not_of_peek?_passWhile present, noComma, plain, noClose⟩

/-- A choice name is cut off by the end of the text, or missing in front of a character that ends
it. -/
theorem fault_of_choiceName {error : ParseError} {stop : Cursor}
    (failed : choiceName.run cursor = (.error error, stop)) :
    error.fault = .unbalancedBraces ∧ stop.peek? = none ∨
      error.fault = .missingChoiceName ∧
        ∃ character, stop.peek? = some character ∧ endsChoiceName character = true := by
  rw [choiceName_run, choiceNameEnd] at failed
  generalize (cursor.passWhile isBlank) = first at failed
  split at failed
  · rename_i atEnd
    cases failed
    exact .inl ⟨rfl, atEnd⟩
  · rename_i character present
    have outside := Cursor.not_of_peek?_passWhile present
    split at failed
    · cases failed
    · rename_i unblank
      split at failed
      · cases failed
        exact .inr ⟨rfl, character, present, by simpa [isChoiceCharacter, unblank] using outside⟩
      · cases failed

theorem showsFaults_choiceName : choiceName.ShowsFaults := by
  intro cursor error stop failed
  rcases fault_of_choiceName failed with ⟨fault, atEnd⟩ | ⟨fault, character, present, ends⟩
  · rw [fault]
    exact .inl atEnd
  · rw [fault]
    intro other same
    obtain rfl := Option.some.inj (present.symm.trans same)
    exact ends

/-- Where no choice name is found, it is missing. -/
theorem showsFaults_relabel_choiceName :
    (choiceName.relabel .missingChoiceName).ShowsFaults := by
  intro cursor error stop failed
  obtain ⟨inner, read, rfl⟩ := exists_of_relabel_eq_error failed
  intro character present
  rcases fault_of_choiceName read with ⟨-, atEnd⟩ | ⟨-, other, same, ends⟩
  · rw [atEnd] at present
    cases present
  · obtain rfl := Option.some.inj (same.symm.trans present)
    exact ends

theorem fault_of_offsetValue {numeral : List Char} {fault : ParseFault}
    (failed : offsetValue numeral = .error fault) :
    fault = .missingOffsetValue ∧ numeral = [] ∨ fault = .badCast ∨
      fault = .invalidOffsetValue := by
  unfold offsetValue at failed
  split at failed
  · rename_i empty
    cases failed
    exact .inl ⟨rfl, List.isEmpty_iff.mp empty⟩
  · split at failed
    · cases failed
      exact .inr (.inl rfl)
    · split at failed
      · cases failed
        exact .inr (.inr rfl)
      · cases failed

theorem showsFaults_offset : offset.ShowsFaults := by
  intro cursor
  rw [offset_eq]
  refine .onward rfl (.onward rfl (.onward rfl ?_))
  rw [Cursor.skipBlanks_eq_passWhile]
  generalize first_eq : cursor.passWhile isBlank = first
  cases present : (first.passWhile isOffsetCharacter).peek? with
  | none => exact showsFaultAt_fail (.inl present)
  | some character =>
    have outside := Cursor.not_of_peek?_passWhile present
    dsimp only
    split
    · exact showsFaultAt_pure _ _
    · rename_i fault failed
      apply showsFaultAt_fail
      rcases fault_of_offsetValue failed with ⟨rfl, empty⟩ | rfl | rfl
      · -- No numeral: the character behind the blanks ends it at once.
        have here : first.passWhile isOffsetCharacter = first := by
          have spans := first.spans_passWhile isOffsetCharacter
          rw [empty, Cursor.Spans.nil_iff] at spans
          exact spans.symm
        have unblank : isBlank character = false := by
          rw [here, ← first_eq] at present
          exact Cursor.not_of_peek?_passWhile present
        have brace : character = '{' ∨ character = '}' := by
          simpa [isOffsetCharacter, unblank, imp_iff_not_or] using outside
        rw [present]
        exact brace.imp (congrArg some) (congrArg some)
      · exact ⟨character, present, outside⟩
      · exact ⟨character, present, outside⟩

end Reader

namespace Parser

variable {π : Type}

/-! ## Bodies -/

/-- A run of literal text that ends neither with the text nor before a closing brace. -/
theorem eq_open_of_literalRun {cursor : Cursor} {next : Char}
    (present : (literalRun cursor).2.peek? = some next) (unclosed : next ≠ '}') : next = '{' := by
  have run : literalRun cursor = ((literalRun cursor).1, (literalRun cursor).2) := rfl
  have ends := (literalRun_eq_iff.mp run).2.2
  rw [Cursor.peek?] at present
  rcases ends with nothing | ⟨opening | closing, -⟩
  · simp [nothing] at present
  · exact Option.some.inj (present.symm.trans opening)
  · exact absurd (Option.some.inj (present.symm.trans closing)) unclosed

/-- Faults of a body show if those of its expressions do, and if behind an expression stands what
may stand where a brace is missing. -/
theorem showsFaults_bodyOf {expression : Option (Reader (Node π))}
    (inner : ∀ reader, expression = some reader → reader.ShowsFaults)
    (behind : ∀ reader cursor node stop, expression = some reader →
      reader.run cursor = .done node stop → ParseFault.unbalancedBraces.ShowsAt stop.peek?) :
    (bodyOf expression).ShowsFaults := by
  intro cursor
  induction size_eq : cursor.rest.length using Nat.strongRecOn generalizing cursor with
  | ind size inductionHypothesis =>
  rw [bodyOf_eq]
  refine .onward rfl (.onward rfl ?_)
  cases present : (literalRun cursor).2.peek? with
  | none => exact Reader.showsFaultAt_pure _ _
  | some character =>
    refine .ite (fun _ => Reader.showsFaultAt_pure _ _) fun unclosed => ?_
    obtain rfl := eq_open_of_literalRun present unclosed
    cases expression with
    | none => exact Reader.showsFaultAt_fail present
    | some reader =>
      refine .onward rfl ((inner reader rfl _).bind fun node stop found => ?_)
      refine (Reader.showsFaultAt_expect fun _ => behind reader _ node stop rfl found).bind
        fun _ close closed => ?_
      obtain ⟨-, rfl⟩ := Reader.expect_eq_done_iff.mp closed
      have shorter := rest_length_lt_of_expression present found
      have behind := inductionHypothesis _ (size_eq ▸ shorter) close.advance rfl
      exact .onward rfl (behind.bind fun _ _ _ => Reader.showsFaultAt_pure _ _)

/-! ## Choices -/

section Choices

variable {body : Reader (Tree π × BodyEnd)} {depth : Nat}

/-- A choice body that the end of the text cuts off. -/
theorem showsFaults_choiceBody (takes : body.Takes (bodyForm depth)) (bodies : body.ShowsFaults) :
    (choiceBody body).ShowsFaults := by
  intro cursor
  refine (bodies cursor).bind fun found stop read => ?_
  obtain ⟨tree, bodyEnd⟩ := found
  obtain ⟨_, -, -, -, ends⟩ := (takes _ _ _).mp read
  cases bodyEnd with
  | input => exact Reader.showsFaultAt_fail (.inl (List.head?_eq_none_iff.mpr ends))
  | close => exact .onward rfl (.onward rfl (Reader.showsFaultAt_pure tree _))

theorem showsFaultAt_headEnd (seen : List String) (name : String) (offset : UInt64)
    {cursor : Cursor}
    (unblank : ∀ character, cursor.peek? = some character → isBlank character = false) :
    (do
      Reader.expect '{' .missingChoiceContent
      if seen.contains name then Reader.fail (.duplicateChoice name)
      else pure (name, offset) : Reader (String × UInt64)).ShowsFaultAt cursor := by
  have missing (absent : cursor.peek? ≠ some '{') :
      ParseFault.missingChoiceContent.ShowsAt cursor.peek? := by
    intro character present
    refine ⟨unblank character present, ?_⟩
    rintro rfl
    exact absent present
  refine (Reader.showsFaultAt_expect missing).bind fun _ place expected => ?_
  obtain ⟨brace, rfl⟩ := Reader.expect_eq_done_iff.mp expected
  exact .ite (fun _ => Reader.showsFaultAt_fail brace) fun _ => Reader.showsFaultAt_pure _ _

/-- Behind a choice name stands no blank. -/
theorem unblank_of_choiceName {cursor stop : Cursor} {name : String}
    (read : Reader.choiceName.run cursor = .done name stop) :
    ∀ character, stop.peek? = some character → isBlank character = false := by
  obtain ⟨_, -, -, unblank, -⟩ := (Reader.takes_choiceName _ _ _).mp read
  exact unblank

theorem showsFaults_choiceHead (offsetAllowed : Bool) (seen : List String) :
    (choiceHead offsetAllowed seen).ShowsFaults := by
  intro cursor
  refine (Reader.showsFaults_choiceName cursor).bind fun first place read => .onward rfl ?_
  refine .ite (fun colon => ?_) fun _ =>
    .onward rfl (showsFaultAt_headEnd seen first 0 (unblank_of_choiceName read))
  have refused {fault : ParseFault} {next : String × UInt64 → Reader (String × UInt64)}
      (shows : fault.ShowsAt place.peek?) : (Reader.fail fault >>= next).ShowsFaultAt place :=
    (Reader.showsFaultAt_fail shows).bind fun _ _ read => by cases read
  refine .ite (fun _ => refused colon) fun _ => .ite (fun _ => refused colon) fun _ =>
    .ite (fun _ => refused colon) fun _ => .onward rfl ?_
  refine (Reader.showsFaults_offset _).bind fun offset numeral _ => ?_
  refine (Reader.showsFaults_relabel_choiceName numeral).bind fun name stop named => .onward rfl ?_
  exact showsFaultAt_headEnd seen name offset
    (unblank_of_choiceName (Reader.relabel_eq_done_iff.mp named))

theorem showsFaultAt_finish (seen : List String) {cursor : Cursor}
    (ends : cursor.peek? = none ∨ cursor.peek? = some '}') :
    (finish (π := π) seen).ShowsFaultAt cursor := by
  rw [finish_eq]
  exact .ite (fun _ => Reader.showsFaultAt_pure _ _) fun _ => Reader.showsFaultAt_fail ends

theorem showsFaults_choicesOf (takes : body.Takes (bodyForm depth)) (bodies : body.ShowsFaults)
    (offsetAllowed : Bool) (seen : List String) :
    (choicesOf body offsetAllowed seen).ShowsFaults := by
  intro cursor
  induction size_eq : cursor.rest.length using Nat.strongRecOn generalizing seen cursor with
  | ind size inductionHypothesis =>
  rw [choicesOf_eq]
  refine .onward rfl (.ite (fun atEnd => showsFaultAt_finish seen (.inl atEnd)) fun more => ?_)
  refine (showsFaults_choiceHead offsetAllowed seen cursor).bind fun head brace found => ?_
  obtain ⟨name, offset⟩ := head
  refine .onward rfl ((showsFaults_choiceBody takes bodies _).bind fun tree place read => ?_)
  have shorter := rest_length_lt_of_choice (mt cursor.atEnd_iff.mp more) found read
  refine .onward rfl (.ite (fun close => ?_) fun _ => ?_)
  · exact (showsFaultAt_finish (name :: seen) (.inr close)).bind fun _ _ _ =>
      Reader.showsFaultAt_pure _ _
  · exact (inductionHypothesis _ (size_eq ▸ shorter) (name :: seen) place rfl).bind fun _ _ _ =>
      Reader.showsFaultAt_pure _ _

/-- Choices end before the brace that closes their expression, or with the text. -/
theorem peek?_of_choicesFrom {offsetAllowed : Bool} {seen : List String} {cursor stop : Cursor}
    {found : Choices π × UInt64}
    (read : choicesFrom body offsetAllowed seen cursor = .done found stop) :
    stop.peek? = none ∨ stop.peek? = some '}' := by
  induction size_eq : cursor.rest.length using Nat.strongRecOn
    generalizing seen cursor found with
  | ind size inductionHypothesis =>
  obtain ⟨choices, offset⟩ := found
  rcases choicesFrom_eq_done_iff.mp read with ⟨atEnd, -, -, -, rfl⟩ |
    ⟨unfinished, name, tree, others, brace, place, head, chosen, rfl, rest⟩
  · exact .inl (List.head?_eq_none_iff.mpr atEnd)
  · rcases rest with ⟨close, -, -, rfl⟩ | ⟨-, ignored, rest⟩
    · exact .inr close
    · have more : ¬cursor.atEnd := by rwa [Cursor.atEnd, List.isEmpty_iff]
      have shorter := rest_length_lt_of_choice more head chosen
      exact inductionHypothesis _ (size_eq ▸ shorter) rest rfl

theorem showsFaultAt_choices (takes : body.Takes (bodyForm depth)) (bodies : body.ShowsFaults)
    (offsetAllowed : Bool) {cursor : Cursor}
    (next : cursor.peek? = some ',' ∨ cursor.peek? = some '}') :
    (choices body offsetAllowed).ShowsFaultAt cursor := by
  refine (Reader.showsFaultAt_expect next.resolve_left).bind fun _ place _ => .onward rfl ?_
  exact showsFaults_choicesOf takes bodies offsetAllowed [] _

end Choices

/-! ## Expressions and templates -/

/-- What ends an identifier. -/
theorem peek?_of_identifier {cursor stop : Cursor} {name : String}
    (read : Reader.identifier.run cursor = .done name stop) :
    stop.peek? = some ',' ∨ stop.peek? = some '}' := by
  obtain ⟨_, -, -, -, ends⟩ := (Reader.takes_identifier _ _ _).mp read
  exact ends

theorem showsFaultAt_dateWidth {cursor : Cursor}
    (next : cursor.peek? = some ',' ∨ cursor.peek? = some '}') :
    dateWidth.ShowsFaultAt cursor := by
  refine (Reader.showsFaultAt_expect next.resolve_left).bind fun _ place _ => .onward rfl ?_
  refine (Reader.showsFaults_identifier _).bind fun name stop read => ?_
  cases DateWidth.ofName? name with
  | none => exact Reader.showsFaultAt_fail (peek?_of_identifier read)
  | some width => exact Reader.showsFaultAt_pure width stop

section Builtin

variable {parser : Parser π} (builtin : parser.kinds = .empty)

include builtin

/-- No kind but the built-in ones is known. -/
theorem customNode_eq (key kind : String) :
    parser.customNode key kind = .fail (.unknownType kind) := by
  simp [customNode, builtin, KindRegistry.empty, KindRegistry.get?]

theorem showsFaults_expressionOf {body : Reader (Tree π × BodyEnd)} {depth : Nat}
    (takes : body.Takes (bodyForm depth)) (bodies : body.ShowsFaults) :
    (parser.expressionOf body).ShowsFaults := by
  intro cursor
  refine (Reader.showsFaults_identifier cursor).bind fun key place keyed => ?_
  have keyEnds := peek?_of_identifier keyed
  refine .ite (fun _ => Reader.showsFaultAt_fail keyEnds) fun _ => .onward rfl ?_
  refine .ite (fun _ => Reader.showsFaultAt_pure _ _) fun _ => .onward rfl ?_
  refine (Reader.showsFaults_identifier _).bind fun kind tail kinded => ?_
  have kindEnds := peek?_of_identifier kinded
  have choices (offsetAllowed : Bool) (node : Choices π × UInt64 → Node π) :
      (do pure (node (← choices body offsetAllowed)) : Reader (Node π)).ShowsFaultAt tail :=
    (showsFaultAt_choices takes bodies offsetAllowed kindEnds).bind fun _ _ _ =>
      Reader.showsFaultAt_pure _ _
  refine .ite (fun _ => choices true fun found => .plural key found.1 found.2) fun _ => ?_
  refine .ite (fun _ => choices false fun found => .select key found.1) fun _ => ?_
  refine .ite (fun _ => choices false fun found => .selectOrdinal key found.1) fun _ => ?_
  refine .ite (fun _ => ?_) fun _ => ?_
  · exact (showsFaultAt_dateWidth kindEnds).bind fun _ _ _ => Reader.showsFaultAt_pure _ _
  · rw [customNode_eq builtin]
    exact Reader.showsFaultAt_fail kindEnds

/-- Behind an expression its brace stands or is missing. -/
theorem peek?_of_expressionOf {body : Reader (Tree π × BodyEnd)} {cursor stop : Cursor}
    {node : Node π} (read : (parser.expressionOf body).run cursor = .done node stop) :
    ParseFault.unbalancedBraces.ShowsAt stop.peek? := by
  obtain ⟨key, place, -, -, rest⟩ := expressionOf_eq_done_iff.mp read
  rcases rest with ⟨close, -, rfl⟩ | ⟨-, kind, tail, -, rest⟩
  · exact .inr (.inr close)
  · rcases rest with ⟨_, found, offset, -, read, -⟩ | ⟨width, -, read, -⟩ | ⟨-, custom⟩
    · exact (peek?_of_choicesFrom (choices_eq_done_iff.mp read).2).imp_right .inr
    · exact .inr (peek?_of_identifier (dateWidth_eq_done_iff.mp read).2)
    · rw [customNode_eq builtin, Reader.run_fail] at custom
      exact absurd custom Reading.fail_ne_done

theorem showsFaults_body (depth : Nat) : (parser.body depth).ShowsFaults := by
  induction depth with
  | zero => exact showsFaults_bodyOf (by simp) (by simp)
  | succ depth inductionHypothesis =>
    refine showsFaults_bodyOf (fun reader same => ?_) fun reader cursor node stop same read => ?_
    · obtain rfl := Option.some.inj same
      exact showsFaults_expressionOf builtin (takes_body builtin depth) inductionHypothesis
    · obtain rfl := Option.some.inj same
      exact peek?_of_expressionOf builtin read

/-- With the built-in kinds only, every fault shows where the parser stops. -/
theorem showsFaults_message : parser.message.ShowsFaults := by
  intro cursor
  refine (showsFaults_body builtin parser.maxDepth cursor).bind fun found stop read => ?_
  obtain ⟨tree, bodyEnd⟩ := found
  obtain ⟨_, -, -, -, ends⟩ := (takes_body builtin _ _ _ _).mp read
  cases bodyEnd with
  | input => exact Reader.showsFaultAt_pure _ _
  | close => exact Reader.showsFaultAt_fail (.inr (.inr ends.1))

end Builtin

/-- With the built-in kinds only, a fault shows at its position in the template. -/
theorem showsAt_of_parse {maxDepth : Nat} {template : String} {error : ParseError}
    (failed : (Parser.parse { maxDepth } template : Except ParseError (Tree π)) = .error error) :
    error.fault.ShowsAt template.toList[error.position]? := by
  obtain ⟨stop, read, positioned⟩ := (parse_eq_error_iff KindRegistry.isLocal_empty).mp failed
  have shows := showsFaults_message rfl (.start template) _ stop read
  have reached := (message ({ maxDepth } : Parser π)).reaches (.start template)
  rw [read, Reading.fail_cursor] at reached
  rwa [reached.peek?_eq_getElem?, positioned] at shows

/-- With the built-in kinds only, an error points at a character that its fault may show at, or at
the end of the text, where only four faults may show. -/
theorem pointsAt_of_parse {maxDepth : Nat} {template : String} {error : ParseError}
    (failed : (Parser.parse { maxDepth } template : Except ParseError (Tree π)) = .error error) :
    error.position ≤ template.toList.length ∧
      (error.position = template.toList.length →
        error.fault = .unbalancedBraces ∨ error.fault = .missingMandatoryChoice ∨
          error.fault = .missingChoiceName ∨ error.fault = .missingChoiceContent) ∧
      (∀ inside : error.position < template.toList.length,
        error.fault.PointsAt template.toList[error.position]) ∧
      (∀ name, error.fault ≠ .undefinedParseFunc name) ∧ ∀ text, error.fault ≠ .custom text := by
  have shows := showsAt_of_parse failed
  refine ⟨?_, ?_, ?_, ?_, ?_⟩
  · rw [String.length_toList]
    exact position_le_of_parse KindRegistry.isLocal_empty failed
  · intro atEnd
    rw [atEnd, List.getElem?_eq_none le_rfl] at shows
    exact ParseFault.showsAt_none_iff.mp shows
  · intro inside
    rw [List.getElem?_eq_getElem inside] at shows
    exact ParseFault.showsAt_some_iff.mp shows
  · intro name same
    rw [same] at shows
    exact shows
  · intro text same
    rw [same] at shows
    exact shows

/-- A negative offset, at the blank behind it. -/
theorem pointsAt_negativeOffset :
    (Parser.parse { maxDepth := 64 } "\x7bn, plural, offset:-1 other\x7b\x7d\x7d" :
        Except ParseError (Tree Unit)) = .error ⟨.invalidOffsetValue, 21⟩ ∧
      ParseFault.invalidOffsetValue.PointsAt ' ' := by
  have failed : (Parser.parse { maxDepth := 64 } "\x7bn, plural, offset:-1 other\x7b\x7d\x7d" :
      Except ParseError (Tree Unit)) = .error ⟨.invalidOffsetValue, 21⟩ := by
    with_unfolding_all rfl
  exact ⟨failed, (pointsAt_of_parse failed).2.2.1 (by decide)⟩

end Parser

end MessageTemplate
