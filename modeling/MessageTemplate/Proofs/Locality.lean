import MessageTemplate.Proofs.Steps

/-!
# Locality of reading

What a reader of the parser answers depends on the text that it passes and on the character
behind that text. What lies before its start moves the position of a fault and changes nothing
else; what lies behind the next character changes nothing at all. A sequence of readers is local
if its steps are. For bodies and choices the induction is on what is left of the text, for the
nesting of bodies it is on the limit.
-/

namespace MessageTemplate

/-! ## Ways through two texts -/

namespace Cursor

/-- Only one text lies between two places. -/
theorem Spans.text_eq {earlier later : Cursor} {left right : List Char}
    (throughLeft : earlier.Spans left later) (throughRight : earlier.Spans right later) :
    left = right :=
  List.append_cancel_right (throughLeft.1.symm.trans throughRight.1)

@[simp] theorem position_start (text : String) : (start text).position = 0 := rfl

/-- The way from `cursor` to `stop` and the way from `other` to `place` lead through the same
text, and end before the same character or both at the end of their texts. -/
def Parallel (cursor stop other place : Cursor) : Prop :=
  ∃ text, cursor.Spans text stop ∧ other.Spans text place ∧ place.peek? = stop.peek?

namespace Parallel

variable {cursor stop other place : Cursor}

/-- A way is parallel to itself. -/
theorem self (reached : cursor.Reaches stop) : cursor.Parallel stop cursor stop := by
  obtain ⟨text, spans⟩ := reached
  exact ⟨text, spans, spans, rfl⟩

/-- A way through no text is parallel to such ways only. -/
theorem eq_of_stay (same : cursor.Parallel cursor other place) : place = other := by
  obtain ⟨text, spans, otherSpans, -⟩ := same
  obtain rfl := spans.text_eq (.refl cursor)
  exact (Spans.nil_iff.mp otherSpans).symm

/-- Parallel ways begin before the same character. -/
theorem peek?_eq (same : cursor.Parallel stop other place) : other.peek? = cursor.peek? := by
  obtain ⟨text, spans, otherSpans, next⟩ := same
  cases text with
  | nil =>
    obtain rfl := Spans.nil_iff.mp spans
    obtain rfl := Spans.nil_iff.mp otherSpans
    exact next
  | cons character text =>
    rw [(Spans.cons_iff.mp spans).1, (Spans.cons_iff.mp otherSpans).1]

/-- A way may be cut at any place on it, and each part is parallel to one of the other way. -/
theorem split {middle : Cursor} (same : cursor.Parallel stop other place)
    (near : cursor.Reaches middle) (far : middle.Reaches stop) :
    ∃ between, cursor.Parallel middle other between ∧ middle.Parallel stop between place := by
  obtain ⟨nearText, toMiddle⟩ : ∃ text, cursor.Spans text middle := near
  obtain ⟨farText, toStop⟩ : ∃ text, middle.Spans text stop := far
  obtain ⟨text, spans, otherSpans, next⟩ := same
  obtain rfl := spans.text_eq (toMiddle.trans toStop)
  obtain ⟨between, toBetween, toPlace, -⟩ := otherSpans.split
  have onward : middle.Parallel stop between place := ⟨farText, toStop, toPlace, next⟩
  exact ⟨between, ⟨nearText, toMiddle, toBetween, onward.peek?_eq⟩, onward⟩

/-- Parallel ways are equally long. -/
theorem position_eq (same : cursor.Parallel stop other place) :
    place.position + cursor.position = stop.position + other.position := by
  obtain ⟨text, spans, otherSpans, -⟩ := same
  rw [spans.position_eq, otherSpans.position_eq]
  omega

/-- One character further, the ways are parallel. -/
theorem advance_eq (same : cursor.Parallel cursor.advance other place) :
    other.advance = place := by
  have next := same.peek?_eq
  obtain ⟨text, spans, otherSpans, -⟩ := same
  cases present : cursor.peek? with
  | none =>
    obtain ⟨passed, rest⟩ := cursor
    obtain rfl : rest = [] := List.head?_eq_none_iff.mp present
    obtain rfl := spans.text_eq (.refl _)
    obtain rfl := Spans.nil_iff.mp otherSpans
    obtain ⟨otherPassed, otherRest⟩ := other
    obtain rfl : otherRest = [] := List.head?_eq_none_iff.mp (next.trans present)
    rfl
  | some character =>
    obtain rfl := spans.text_eq (spans_advance present)
    exact (spans_advance (next.trans present)).unique otherSpans

/-- Characters with a property are passed on both ways. -/
theorem passWhile_eq {property : Char → Bool}
    (same : cursor.Parallel (cursor.passWhile property) other place) :
    other.rest.takeWhile property = cursor.rest.takeWhile property ∧
      other.passWhile property = place := by
  obtain ⟨text, spans, otherSpans, next⟩ := same
  obtain rfl := spans.text_eq (cursor.spans_passWhile property)
  have inside : ∀ character ∈ cursor.rest.takeWhile property, property character = true :=
    List.all_eq_true.mp List.all_takeWhile
  have outside : ∀ character, place.peek? = some character → property character = false := by
    intro character present
    exact not_of_peek?_passWhile (next.symm.trans present)
  exact ⟨takeWhile_eq_of_spans otherSpans inside outside,
    passWhile_eq_of_spans otherSpans inside outside⟩

end Parallel

/-- A way is parallel to one of another text that begins with the same text and character. -/
theorem parallel_of_isPrefix {cursor stop other : Cursor} {text : List Char} {next : Char}
    (spans : cursor.Spans text stop) (present : stop.peek? = some next)
    (begins : text ++ [next] <+: other.rest) : ∃ place, cursor.Parallel stop other place := by
  obtain ⟨behind, whole⟩ := begins
  refine ⟨⟨text.reverse ++ other.passed, next :: behind⟩, text, spans, ⟨?_, rfl⟩, ?_⟩
  · rw [← whole]
    simp
  · rw [present]
    rfl

/-- The same place in a text that `front` stands before. -/
def after (front : List Char) (cursor : Cursor) : Cursor :=
  ⟨cursor.passed ++ front.reverse, cursor.rest⟩

@[simp] theorem position_after (front : List Char) (cursor : Cursor) :
    (cursor.after front).position = cursor.position + front.length := by
  simp [position, after]

/-- Text in front of a whole text leaves each way in it parallel to what it was. -/
theorem parallel_after {cursor stop : Cursor} (reached : cursor.Reaches stop)
    (front : List Char) : cursor.Parallel stop (cursor.after front) (stop.after front) := by
  obtain ⟨text, restEq, passedEq⟩ := reached
  exact ⟨text, ⟨restEq, passedEq⟩, ⟨restEq, by simp [after, passedEq]⟩, rfl⟩

end Cursor

/-! ## Local readers -/

/-- The same answer at another place: a fault shows where reading stopped. -/
def Reading.movedTo {α : Type} (reading : Reading α) (place : Cursor) : Reading α :=
  match reading.1 with
  | .ok value => .done value place
  | .error error => .fail error.fault place

namespace Reading

variable {α β : Type}

@[simp] theorem movedTo_done (value : α) (cursor place : Cursor) :
    (Reading.done value cursor).movedTo place = .done value place := rfl

@[simp] theorem movedTo_fail (fault : ParseFault) (cursor place : Cursor) :
    (Reading.fail fault cursor : Reading α).movedTo place = .fail fault place := rfl

end Reading

namespace Reader

variable {α β : Type}

/-- The way that a reader takes from `cursor` tells its answer wherever a parallel way begins. -/
def LocalAt (reader : Reader α) (cursor : Cursor) : Prop :=
  ∀ other place, cursor.Parallel (reader.run cursor).2 other place →
    reader.run other = (reader.run cursor).movedTo place

/-- A reader whose answer depends on the text that it passes and on the next character only. -/
def Local (reader : Reader α) : Prop := ∀ cursor, reader.LocalAt cursor

/-- A fault of a local reader shows where the reader stopped. -/
theorem LocalAt.run_eq_movedTo {reader : Reader α} {cursor : Cursor}
    (atCursor : reader.LocalAt cursor) :
    reader.run cursor = (reader.run cursor).movedTo (reader.run cursor).2 :=
  atCursor cursor _ (.self (reader.reaches cursor))

/-- Behind more text a local reader answers the same, at the shifted place. -/
theorem Local.run_after {reader : Reader α} (plain : reader.Local) (front : List Char)
    (cursor : Cursor) :
    reader.run (cursor.after front) =
      (reader.run cursor).movedTo ((reader.run cursor).2.after front) :=
  plain cursor _ _ (Cursor.parallel_after (reader.reaches cursor) front)

/-- Steps that are local on the way make a reader that is local on the whole way. -/
theorem LocalAt.bind {reader : Reader α} {next : α → Reader β} {cursor : Cursor}
    (first : reader.LocalAt cursor)
    (second : ∀ value stop, reader.run cursor = .done value stop → (next value).LocalAt stop) :
    (reader >>= next).LocalAt cursor := by
  intro other place same
  have reached := reader.reaches cursor
  have moved := first other
  rcases (reader.run cursor).eq_done_or_error with ⟨value, stop, read⟩ | ⟨error, stop, read⟩
  · rw [read] at reached moved
    have run : (reader >>= next).run cursor = (next value).run stop := by
      rw [run_bind, read, follow_done_eq]
    rw [run] at same ⊢
    obtain ⟨between, near, far⟩ := same.split reached ((next value).reaches stop)
    rw [run_bind, moved between near, Reading.movedTo_done, follow_done_eq]
    exact second value stop read between place far
  · rw [read] at moved
    have run : (reader >>= next).run cursor = (.error error, stop) := by
      rw [run_bind, read]
      rfl
    rw [run] at same ⊢
    rw [run_bind, moved place same]
    rfl

theorem Local.bind {reader : Reader α} {next : α → Reader β} (first : reader.Local)
    (second : ∀ value, (next value).Local) : (reader >>= next).Local := by
  intro cursor
  exact (first cursor).bind fun value stop _ => second value stop

theorem local_pure (value : α) : (pure value : Reader α).Local := by
  intro cursor other place same
  obtain rfl := same.eq_of_stay
  rfl

theorem local_fail (fault : ParseFault) : (fail fault : Reader α).Local := by
  intro cursor other place same
  obtain rfl := same.eq_of_stay
  rfl

theorem local_peek : peek.Local := by
  intro cursor other place same
  have next := same.peek?_eq
  obtain rfl := same.eq_of_stay
  rw [run_peek, run_peek, next]
  rfl

theorem local_advance : advance.Local := by
  intro cursor other place same
  rw [run_advance, run_advance, same.advance_eq]
  rfl

theorem Local.ite {condition : Prop} [Decidable condition] {left right : Reader α}
    (positive : left.Local) (negative : right.Local) :
    (if condition then left else right).Local := by
  split
  · exact positive
  · exact negative

theorem local_expect (character : Char) (fault : ParseFault) : (expect character fault).Local := by
  refine local_peek.bind fun next => ?_
  exact (local_pure ()).ite (local_fail fault)

theorem Local.relabel {reader : Reader α} (plain : reader.Local) (fault : ParseFault) :
    (reader.relabel fault).Local := by
  intro cursor other place same
  have stopped : ((reader.relabel fault).run cursor).2 = (reader.run cursor).2 := by
    unfold Reader.relabel
    dsimp only
    split <;> rename_i read <;> rw [read]
  rw [stopped] at same
  have moved := plain cursor other place same
  simp only [Reader.relabel, moved]
  rcases (reader.run cursor).eq_done_or_error with ⟨value, stop, read⟩ | ⟨error, stop, read⟩
  · rw [read]
    rfl
  · rw [read]
    rfl

theorem local_span (property : Char → Bool) : (span property).Local := by
  intro cursor other place same
  obtain ⟨taken, passed⟩ := same.passWhile_eq
  rw [run_span, run_span, taken, passed]
  rfl

/-! ## Words -/

theorem local_skipBlanks : skipBlanks.Local := by
  rw [skipBlanks_eq]
  exact (local_span isBlank).bind fun _ => local_pure ()

theorem local_identifier : identifier.Local := by
  rw [identifier_eq]
  refine local_skipBlanks.bind fun _ => (local_span _).bind fun name =>
    local_skipBlanks.bind fun _ => local_peek.bind fun next => ?_
  cases next with
  | none => exact local_fail _
  | some character => exact (local_pure _).ite ((local_fail _).ite (local_fail _))

theorem local_choiceName : choiceName.Local := by
  rw [choiceName_eq]
  refine local_skipBlanks.bind fun _ => (local_span _).bind fun name =>
    local_peek.bind fun next => ?_
  cases next with
  | none => exact local_fail _
  | some character =>
    exact (local_skipBlanks.bind fun _ => local_pure _).ite ((local_fail _).ite (local_pure _))

theorem local_offset : offset.Local := by
  rw [offset_eq]
  refine local_skipBlanks.bind fun _ => (local_span _).bind fun numeral =>
    local_peek.bind fun next => ?_
  cases next with
  | none => exact local_fail _
  | some character =>
    cases offsetValue numeral with
    | ok value => exact local_pure _
    | error fault => exact local_fail _

end Reader

/-- Registered kinds whose expressions are read by local readers. -/
def KindRegistry.IsLocal {π : Type} (kinds : KindRegistry π) : Prop :=
  ∀ kind registered parse, kinds.get? kind = some registered → registered.parse? = some parse →
    ∀ key, (parse key).Local

theorem KindRegistry.isLocal_empty {π : Type} : (empty : KindRegistry π).IsLocal := by
  intro kind registered parse found
  simp [empty, get?] at found

namespace Parser

variable {π : Type}

/-! ## Bodies -/

theorem local_literal : literal.Local := by
  intro cursor other place same
  obtain ⟨text, spans, otherSpans, next⟩ := same
  obtain ⟨toBrace, proper, ends⟩ :=
    literalRun_eq_iff.mp (show literalRun cursor = (_, (literalRun cursor).2) from rfl)
  obtain rfl := spans.text_eq toBrace
  have otherEnds : EndsRun (literalRun cursor).1 place.rest := by
    rcases ends with nothing | ⟨brace, unescaped⟩
    · refine .inl (List.head?_eq_none_iff.mp (next.trans ?_))
      rw [run_literal, Reading.done_cursor, Cursor.peek?, nothing]
      rfl
    · refine .inr ⟨?_, unescaped⟩
      rw [show place.rest.head? = (literalRun cursor).2.rest.head? from next]
      exact brace
  rw [run_literal, run_literal, literalRun_eq_iff.mpr ⟨otherSpans, proper, otherEnds⟩]
  rfl

theorem local_bodyOf {expression : Option (Reader (Node π))}
    (inner : ∀ reader, expression = some reader → reader.Local) : (bodyOf expression).Local := by
  intro cursor
  induction size_eq : cursor.rest.length using Nat.strongRecOn generalizing cursor with
  | ind size inductionHypothesis =>
  rw [bodyOf_eq]
  refine (local_literal cursor).bind fun run brace read => ?_
  obtain ⟨-, rfl⟩ := Reading.done_inj.mp read
  refine (Reader.local_peek _).bind fun next place peeked => ?_
  obtain ⟨rfl, rfl⟩ := Reading.done_inj.mp peeked
  cases present : (literalRun cursor).2.peek? with
  | none => exact Reader.local_pure _ _
  | some character =>
    dsimp only
    split
    · exact Reader.local_pure _ _
    · cases expression with
      | none => exact Reader.local_fail _ _
      | some reader =>
        refine (Reader.local_advance _).bind fun _ start advanced => ?_
        obtain ⟨-, rfl⟩ := Reading.done_inj.mp advanced
        refine (inner reader rfl _).bind fun node stop found => ?_
        refine (Reader.local_expect _ _ stop).bind fun _ close closed => ?_
        obtain ⟨-, rfl⟩ := Reader.expect_eq_done_iff.mp closed
        refine (Reader.local_advance close).bind fun _ rest advanced => ?_
        obtain ⟨-, rfl⟩ := Reading.done_inj.mp advanced
        have shorter := rest_length_lt_of_expression present found
        exact (inductionHypothesis _ (size_eq ▸ shorter) close.advance rfl).bind fun _ _ _ =>
          Reader.local_pure _ _

/-! ## Choices -/

theorem local_choiceBody {body : Reader (Tree π × BodyEnd)} (bodies : body.Local) :
    (choiceBody body).Local := by
  refine bodies.bind fun found => ?_
  obtain ⟨tree, bodyEnd⟩ := found
  cases bodyEnd with
  | input => exact Reader.local_fail _
  | close =>
    exact Reader.local_advance.bind fun _ => Reader.local_skipBlanks.bind fun _ =>
      Reader.local_pure tree

theorem local_headEnd (seen : List String) (name : String) (offset : UInt64) :
    (do
      Reader.expect '{' .missingChoiceContent
      if seen.contains name then Reader.fail (.duplicateChoice name)
      else pure (name, offset) : Reader (String × UInt64)).Local := by
  refine (Reader.local_expect _ _).bind fun _ => ?_
  exact (Reader.local_fail _).ite (Reader.local_pure _)

theorem local_choiceHead (offsetAllowed : Bool) (seen : List String) :
    (choiceHead offsetAllowed seen).Local := by
  refine Reader.local_choiceName.bind fun first => Reader.local_peek.bind fun next => ?_
  have refused (fault : ParseFault) {next : String × UInt64 → Reader (String × UInt64)}
      (onward : ∀ found, (next found).Local) : (Reader.fail fault >>= next).Local :=
    (Reader.local_fail fault).bind onward
  have tail := fun found : String × UInt64 => local_headEnd seen found.1 found.2
  refine Reader.Local.ite ?_ ((Reader.local_pure (first, 0)).bind tail)
  refine (refused _ tail).ite ((refused _ tail).ite ((refused _ tail).ite ?_))
  exact Reader.local_advance.bind fun _ => Reader.local_offset.bind fun offset =>
    (Reader.local_choiceName.relabel _).bind fun name =>
      (Reader.local_pure (name, offset)).bind tail

theorem local_finish (seen : List String) : (finish (π := π) seen).Local := by
  rw [finish_eq]
  exact (Reader.local_pure _).ite (Reader.local_fail _)

theorem local_choicesOf {body : Reader (Tree π × BodyEnd)} (bodies : body.Local)
    (offsetAllowed : Bool) (seen : List String) : (choicesOf body offsetAllowed seen).Local := by
  intro cursor
  induction size_eq : cursor.rest.length using Nat.strongRecOn generalizing seen cursor with
  | ind size inductionHypothesis =>
  rw [choicesOf_eq]
  refine (Reader.local_peek cursor).bind fun next start peeked => ?_
  obtain ⟨rfl, rfl⟩ := Reading.done_inj.mp peeked
  split
  · exact local_finish seen cursor
  rename_i more
  have unfinished := mt cursor.atEnd_iff.mp more
  refine (local_choiceHead offsetAllowed seen cursor).bind fun head brace found => ?_
  obtain ⟨name, offset⟩ := head
  refine (Reader.local_advance brace).bind fun _ start advanced => ?_
  obtain ⟨-, rfl⟩ := Reading.done_inj.mp advanced
  refine (local_choiceBody bodies brace.advance).bind fun tree place read => ?_
  refine (Reader.local_peek place).bind fun next stop peeked => ?_
  obtain ⟨rfl, rfl⟩ := Reading.done_inj.mp peeked
  have shorter := rest_length_lt_of_choice unfinished found read
  dsimp only
  split
  · exact (local_finish (name :: seen) place).bind fun _ _ _ => Reader.local_pure _ _
  · exact (inductionHypothesis _ (size_eq ▸ shorter) (name :: seen) place rfl).bind fun _ _ _ =>
      Reader.local_pure _ _

theorem local_choices {body : Reader (Tree π × BodyEnd)} (bodies : body.Local)
    (offsetAllowed : Bool) : (choices body offsetAllowed).Local :=
  (Reader.local_expect _ _).bind fun _ => Reader.local_advance.bind fun _ =>
    local_choicesOf bodies offsetAllowed []

/-! ## Expressions and templates -/

theorem local_dateWidth : dateWidth.Local := by
  refine (Reader.local_expect _ _).bind fun _ => Reader.local_advance.bind fun _ =>
    Reader.local_identifier.bind fun name => ?_
  cases DateWidth.ofName? name with
  | none => exact Reader.local_fail _
  | some width => exact Reader.local_pure width

theorem local_customNode {parser : Parser π} (kinds : parser.kinds.IsLocal) (key kind : String) :
    (parser.customNode key kind).Local := by
  unfold customNode
  cases found : parser.kinds.get? kind with
  | none => exact Reader.local_fail _
  | some registered =>
    dsimp only
    cases parsing : registered.parse? with
    | none => exact Reader.local_fail _
    | some parse =>
      exact (kinds kind registered parse found parsing key).bind fun _ => Reader.local_pure _

theorem local_expressionOf {parser : Parser π} (kinds : parser.kinds.IsLocal)
    {body : Reader (Tree π × BodyEnd)} (bodies : body.Local) :
    (parser.expressionOf body).Local := by
  refine Reader.local_identifier.bind fun key => ?_
  refine (Reader.local_fail _).ite (Reader.local_peek.bind fun next => ?_)
  refine (Reader.local_pure _).ite (Reader.local_advance.bind fun _ =>
    Reader.local_identifier.bind fun kind => ?_)
  refine ((local_choices bodies true).bind fun _ => Reader.local_pure _).ite ?_
  refine ((local_choices bodies false).bind fun _ => Reader.local_pure _).ite ?_
  refine ((local_choices bodies false).bind fun _ => Reader.local_pure _).ite ?_
  exact (local_dateWidth.bind fun _ => Reader.local_pure _).ite (local_customNode kinds key kind)

/-- The expressions of a body, where it may hold any, are read by a local reader. -/
theorem exists_expression {parser : Parser π} (kinds : parser.kinds.IsLocal) (depth : Nat) :
    ∃ expression, (∀ reader, expression = some reader → reader.Local) ∧
      parser.body depth = bodyOf expression := by
  induction depth with
  | zero => exact ⟨none, by simp, rfl⟩
  | succ depth inductionHypothesis =>
    obtain ⟨expression, readers, bodyEq⟩ := inductionHypothesis
    refine ⟨some (parser.expressionOf (parser.body depth)), fun reader same => ?_, rfl⟩
    obtain rfl := Option.some.inj same
    rw [bodyEq]
    exact local_expressionOf kinds (local_bodyOf readers)

theorem local_body {parser : Parser π} (kinds : parser.kinds.IsLocal) (depth : Nat) :
    (parser.body depth).Local := by
  obtain ⟨expression, readers, bodyEq⟩ := exists_expression kinds depth
  rw [bodyEq]
  exact local_bodyOf readers

/-- The parser is local if the readers of its registered kinds are. -/
theorem local_message {parser : Parser π} (kinds : parser.kinds.IsLocal) :
    parser.message.Local := by
  refine (local_body kinds parser.maxDepth).bind fun found => ?_
  obtain ⟨tree, bodyEnd⟩ := found
  cases bodyEnd with
  | input => exact Reader.local_pure tree
  | close => exact Reader.local_fail _

/-- An error of a parse is a fault that shows where reading stopped. -/
theorem parse_eq_error_iff {parser : Parser π} (kinds : parser.kinds.IsLocal) {template : String}
    {error : ParseError} :
    parser.parse template = .error error ↔
      ∃ stop, parser.message.run (.start template) = .fail error.fault stop ∧
        stop.position = error.position := by
  constructor
  · intro failed
    have moved := (local_message kinds (.start template)).run_eq_movedTo
    rw [Reading.movedTo, show (parser.message.run (.start template)).1 = .error error from failed]
      at moved
    refine ⟨_, moved, ?_⟩
    have same := congrArg Prod.fst moved
    rw [show (parser.message.run (.start template)).1 = .error error from failed] at same
    exact (congrArg ParseError.position (Except.error.inj same)).symm
  · rintro ⟨stop, failed, positioned⟩
    rw [parse, failed, Reading.fail, positioned]

/-- The position of an error is one of the template, or the one at its end. -/
theorem position_le_of_parse {parser : Parser π} (kinds : parser.kinds.IsLocal)
    {template : String} {error : ParseError} (failed : parser.parse template = .error error) :
    error.position ≤ template.length := by
  obtain ⟨stop, read, positioned⟩ := (parse_eq_error_iff kinds).mp failed
  have reached := parser.message.reaches (.start template)
  rw [read, Reading.fail_cursor] at reached
  have inside := stop.position_le_length
  rw [reached.characters_eq, positioned] at inside
  rw [← String.length_toList]
  simpa [Cursor.characters, Cursor.start] using inside

/-- A reader that stops before the end of a text has a character in front of it. -/
theorem exists_next {α : Type} {reader : Reader α} {text : String} {reading : Reading α}
    (read : reader.run (.start text) = reading) (inside : reading.2.position < text.length) :
    ∃ passed next behind, (Cursor.start text).Spans passed reading.2 ∧
      reading.2.rest = next :: behind := by
  have reached := reader.reaches (.start text)
  rw [read] at reached
  obtain ⟨passed, spans⟩ : ∃ passed, (Cursor.start text).Spans passed reading.2 := reached
  have whole : text.toList = passed ++ reading.2.rest := spans.1
  have length : reading.2.position = passed.length := by simpa using spans.position_eq
  have remains : reading.2.rest ≠ [] := by
    intro nothing
    rw [← String.length_toList, whole, nothing, length] at inside
    simp at inside
  obtain ⟨next, behind, more⟩ := List.exists_cons_of_ne_nil remains
  exact ⟨passed, next, behind, spans, more⟩

/-- What a parser finds at fault before the end of a text, it finds at fault in every text that
is the same up to there. -/
theorem parse_eq_error_of_isLocal {parser : Parser π} (kinds : parser.kinds.IsLocal)
    {template other : String} {error : ParseError}
    (failed : parser.parse template = .error error) (inside : error.position < template.length)
    (same : other.toList.take (error.position + 1) = template.toList.take (error.position + 1)) :
    parser.parse other = .error error := by
  obtain ⟨stop, read, positioned⟩ := (parse_eq_error_iff kinds).mp failed
  rw [← positioned] at inside
  obtain ⟨text, next, behind, spans, more⟩ := exists_next read inside
  change stop.rest = next :: behind at more
  have length : error.position = text.length := by
    simpa [positioned] using spans.position_eq
  have whole : template.toList = text ++ stop.rest := spans.1
  have begins : text ++ [next] <+: (Cursor.start other).rest := by
    have agreed : other.toList.take (text.length + 1) = text ++ [next] := by
      rw [← length, same, length, whole, more, List.take_length_add_append]
      rfl
    exact agreed ▸ List.take_prefix _ _
  obtain ⟨place, parallel⟩ := Cursor.parallel_of_isPrefix spans (by simp [Cursor.peek?, more]) begins
  have moved := local_message kinds (.start template) (.start other) place
  rw [read] at moved
  have placed : place.position = error.position := by
    simpa [positioned] using parallel.position_eq
  exact (parse_eq_error_iff kinds).mpr ⟨place, moved parallel, placed⟩

/-- With the built-in kinds only, an error before the end of a template depends on the text up to
its position and on the character there: every text that begins in the same way has the same
error, with the same name in it and at the same position. -/
theorem parse_eq_error_of_take_eq (maxDepth : Nat) (template other : String) (fault : ParseFault)
    (position : Nat)
    (failed : (Parser.parse { maxDepth } template : Except ParseError (Tree π)) =
      .error ⟨fault, position⟩)
    (inside : position < template.length)
    (same : other.toList.take (position + 1) = template.toList.take (position + 1)) :
    (Parser.parse { maxDepth } other : Except ParseError (Tree π)) = .error ⟨fault, position⟩ :=
  parse_eq_error_of_isLocal KindRegistry.isLocal_empty failed inside same

/-- A choice that is there twice is at fault, however the text goes on behind the second name. -/
theorem parse_eq_error_of_take_eq_duplicateChoice :
    (Parser.parse { maxDepth := 1 } "\x7bn, select, é\x7bx\x7d é\x7b\x7d other\x7b\x7d\x7d" :
        Except ParseError (Tree Unit)) = .error ⟨.duplicateChoice "é", 18⟩ ∧
      18 < "\x7bn, select, é\x7bx\x7d é\x7b\x7d other\x7b\x7d\x7d".length ∧
      "\x7bn, select, é\x7bx\x7d é\x7b\x7bm".toList.take 19 =
        "\x7bn, select, é\x7bx\x7d é\x7b\x7d other\x7b\x7d\x7d".toList.take 19 ∧
      (Parser.parse { maxDepth := 1 } "\x7bn, select, é\x7bx\x7d é\x7b\x7bm" :
        Except ParseError (Tree Unit)) = .error ⟨.duplicateChoice "é", 18⟩ := by
  have failed : (Parser.parse { maxDepth := 1 }
      "\x7bn, select, é\x7bx\x7d é\x7b\x7d other\x7b\x7d\x7d" : Except ParseError (Tree Unit)) =
      .error ⟨.duplicateChoice "é", 18⟩ := by with_unfolding_all rfl
  have inside : 18 < "\x7bn, select, é\x7bx\x7d é\x7b\x7d other\x7b\x7d\x7d".length := by decide
  have same : "\x7bn, select, é\x7bx\x7d é\x7b\x7bm".toList.take 19 =
      "\x7bn, select, é\x7bx\x7d é\x7b\x7d other\x7b\x7d\x7d".toList.take 19 := by decide
  exact ⟨failed, inside, same, parse_eq_error_of_take_eq 1 _ _ _ 18 failed inside same⟩

end Parser

end MessageTemplate
