import MessageTemplate.Proofs.Inversion

/-!
# Exactness of the parser

With the built-in kinds only, the parser reads exactly the templates of the grammar whose
expressions are nested within its limit, and it reads them as the grammar does. Each reader
of the parser is shown to take exactly the texts of one notion of the grammar; the induction
is on the nesting limit, and within one body on what is left of the text.
-/

namespace MessageTemplate

/-! ## Bodies -/

/-- What ends a body: the end of the text, or a brace that no backslash of the body escapes. -/
def EndsBody (text : List Char) : BodyEnd → List Char → Prop
  | .input, following => following = []
  | .close, following => following.head? = some '}' ∧ text.getLast? ≠ some '\\'

/-- What ends the body behind an expression ends the whole body. -/
theorem endsBody_expression_iff {run inside text following : List Char} {bodyEnd : BodyEnd} :
    EndsBody (run ++ '{' :: (inside ++ '}' :: text)) bodyEnd following ↔
      EndsBody text bodyEnd following := by
  have last : (run ++ '{' :: (inside ++ '}' :: text)).getLast? = some '\\' ↔
      text.getLast? = some '\\' := by
    rw [← List.cons_append, ← List.append_assoc, List.getLast?_append, List.getLast?_cons]
    cases text.getLast? <;> simp
  cases bodyEnd with
  | input => exact Iff.rfl
  | close => exact and_congr_right fun _ => not_congr last

namespace Node

variable {π : Type}

@[simp] theorem treeNesting_append (before after : Tree π) :
    treeNesting (before ++ after) = max (treeNesting before) (treeNesting after) := by
  induction before with
  | nil => simp [treeNesting]
  | cons node before inductionHypothesis =>
    simp [treeNesting, inductionHypothesis, Nat.max_assoc]

@[simp] theorem treeNesting_nodes (run : List Char) :
    treeNesting (Literal.nodes run : Tree π) = 0 := by
  unfold Literal.nodes
  split <;> simp [treeNesting, nesting]

@[simp] theorem nesting_node (kind : ChoiceKind) (key : String) (choices : Choices π)
    (offset : UInt64) : (kind.node key choices offset).nesting = 1 + choicesNesting choices := by
  cases kind <;> simp [ChoiceKind.node, nesting]

end Node

namespace Parser

variable {π : Type}

/-- A reader of expressions takes those that are nested within a depth; without a reader there
is no depth left. -/
def TakesExpressions (expression : Option (Reader (Node π))) (depth : Nat) : Prop :=
  match expression with
  | none => depth = 0
  | some reader => reader.TakesBefore '}' fun text node _ =>
      IsExpression text node ∧ node.nesting ≤ depth

theorem one_le_nesting {inside : List Char} {node : Node π}
    (expression : IsExpression inside node) :
    1 ≤ node.nesting := by
  cases expression with
  | var | date => simp [Node.nesting]
  | choices => simp

/-- A message whose expressions are nested within a depth, and what ends it. -/
abbrev bodyForm (depth : Nat) : Reader.Form (Tree π × BodyEnd) := fun text found following =>
  IsMessage text found.1 ∧ Node.treeNesting found.1 ≤ depth ∧ EndsBody text found.2 following

/-- A body that is read is a message. -/
theorem bodyForm_of_bodyFrom {expression : Option (Reader (Node π))} {depth : Nat}
    (takes : TakesExpressions expression depth) {cursor stop : Cursor} {tree : Tree π}
    {bodyEnd : BodyEnd} (found : bodyFrom expression cursor = .done (tree, bodyEnd) stop) :
    ∃ text, cursor.Spans text stop ∧ bodyForm depth text (tree, bodyEnd) stop.rest := by
  induction size_eq : cursor.rest.length using Nat.strongRecOn generalizing cursor tree with
  | ind size inductionHypothesis =>
  obtain ⟨run, brace, read⟩ : ∃ run brace, literalRun cursor = (run, brace) := ⟨_, _, rfl⟩
  obtain ⟨toBrace, proper, ends⟩ := literalRun_eq_iff.mp read
  rcases (bodyFrom_eq_done_iff read).mp found with ⟨atEnd, rfl, rfl, rfl⟩ |
    ⟨closing, rfl, rfl, rfl⟩ |
    ⟨opening, reader, node, place, nodes, rfl, inner, close, following, rfl⟩
  · exact ⟨run, toBrace, .literal proper, by simp, atEnd⟩
  · exact ⟨run, toBrace, .literal proper, by simp, closing, ends.unescaped closing⟩
  · obtain ⟨inside, toClose, expression, shallow⟩ := (takes _ _ _ close).mp inner
    have toRest : cursor.Spans (run ++ '{' :: (inside ++ ['}'])) place.advance :=
      toBrace.trans (Cursor.Spans.cons_iff.mpr
        ⟨opening, toClose.trans (Cursor.spans_advance close)⟩)
    have shorter : place.advance.rest.length < size := by
      rw [← size_eq, toRest.length_eq]
      simp only [List.length_append, List.length_cons, List.length_nil]
      omega
    obtain ⟨rest, toStop, message, nested, bodyEnds⟩ :=
      inductionHypothesis _ shorter following rfl
    have whole := toRest.trans toStop
    refine ⟨run ++ '{' :: (inside ++ '}' :: rest), by simpa using whole,
      .expression proper (ends.unescaped opening) expression message, ?_, ?_⟩
    · simpa [Node.treeNesting, Nat.max_le] using And.intro shallow nested
    · exact endsBody_expression_iff.mpr bodyEnds

/-- A message is read as a body. -/
theorem bodyFrom_of_bodyForm {expression : Option (Reader (Node π))} {depth : Nat}
    (takes : TakesExpressions expression depth) {cursor stop : Cursor} {tree : Tree π}
    {bodyEnd : BodyEnd} {text : List Char} (spans : cursor.Spans text stop)
    (form : bodyForm depth text (tree, bodyEnd) stop.rest) :
    bodyFrom expression cursor = .done (tree, bodyEnd) stop := by
  induction size_eq : cursor.rest.length using Nat.strongRecOn generalizing cursor tree text with
  | ind size inductionHypothesis =>
  obtain ⟨message, nested, bodyEnds⟩ := form
  cases message with
  | literal escaped =>
    have runEnds : EndsRun text stop.rest := by
      cases bodyEnd with
      | input => exact .inl bodyEnds
      | close => exact .inr ⟨.inr bodyEnds.1, bodyEnds.2⟩
    refine (bodyFrom_eq_done_iff (literalRun_eq_iff.mpr ⟨spans, escaped, runEnds⟩)).mpr ?_
    cases bodyEnd with
    | input => exact .inl ⟨bodyEnds, rfl, rfl, rfl⟩
    | close => exact .inr (.inl ⟨bodyEnds.1, rfl, rfl, rfl⟩)
  | @expression run inside rest node nodes escaped unescaped inner following =>
    obtain ⟨brace, toBrace, fromBrace, -⟩ := spans.split
    obtain ⟨opening, fromInside⟩ := Cursor.Spans.cons_iff.mp fromBrace
    obtain ⟨place, toClose, fromClose, -⟩ := fromInside.split
    obtain ⟨close, toStop⟩ := Cursor.Spans.cons_iff.mp fromClose
    have read : literalRun cursor = (run, brace) :=
      literalRun_eq_iff.mpr ⟨toBrace, escaped, .inr ⟨.inl opening, unescaped⟩⟩
    have shallow : node.nesting ≤ depth ∧ Node.treeNesting nodes ≤ depth := by
      simpa [Node.treeNesting, Nat.max_le] using nested
    refine (bodyFrom_eq_done_iff read).mpr (.inr (.inr ⟨opening, ?_⟩))
    match expression, takes with
    | none, noDepth =>
      have enough := one_le_nesting inner
      have noDepth : depth = 0 := noDepth
      omega
    | some reader, takes =>
      have shorter : place.advance.rest.length < size := by
        have consumed := spans.length_eq
        have remaining := toStop.length_eq
        simp only [List.length_append, List.length_cons] at consumed
        omega
      refine ⟨reader, node, place, nodes, rfl,
        (takes _ _ _ close).mpr ⟨inside, toClose, inner, shallow.1⟩, close, ?_, rfl⟩
      exact inductionHypothesis _ shorter toStop
        ⟨following, shallow.2, endsBody_expression_iff.mp bodyEnds⟩ rfl

/-- A body takes the messages whose expressions are nested within its depth. -/
theorem takes_bodyOf {expression : Option (Reader (Node π))} {depth : Nat}
    (takes : TakesExpressions expression depth) :
    (bodyOf expression).Takes (bodyForm depth) := by
  rintro cursor ⟨tree, bodyEnd⟩ stop
  constructor
  · intro found
    exact bodyForm_of_bodyFrom takes found
  · rintro ⟨text, spans, form⟩
    exact bodyFrom_of_bodyForm takes spans form

/-! ## Choices -/

/-- A choice body is a message and its closing brace, with the blanks behind it. -/
theorem takes_choiceBody {body : Reader (Tree π × BodyEnd)} {depth : Nat}
    (takes : body.Takes (bodyForm depth)) :
    (choiceBody body).Takes fun text tree following => ∃ bodyText gap,
      text = bodyText ++ '}' :: gap ∧ IsMessage bodyText tree ∧ Node.treeNesting tree ≤ depth ∧
        bodyText.getLast? ≠ some '\\' ∧ IsBlankText gap ∧
        ∀ character, following.head? = some character → isBlank character = false := by
  intro cursor tree stop
  rw [choiceBody_eq_done_iff]
  constructor
  · rintro ⟨place, read, rfl⟩
    obtain ⟨bodyText, toClose, message, nested, close, closing⟩ := (takes _ _ _).mp read
    have toStop := Cursor.spans_passWhile isBlank place.advance
    rw [← Cursor.skipBlanks_eq_passWhile] at toStop
    exact ⟨_, toClose.trans (Cursor.Spans.cons_iff.mpr ⟨close, toStop⟩), bodyText, _, rfl, message,
      nested, closing, List.all_eq_true.mp List.all_takeWhile, fun _ present =>
        Cursor.not_of_peek?_passWhile (Cursor.skipBlanks_eq_passWhile _ ▸ present)⟩
  · rintro ⟨_, spans, bodyText, gap, rfl, message, nested, closing, gapBlank, unblank⟩
    obtain ⟨place, toClose, fromClose, -⟩ := spans.split
    obtain ⟨close, toStop⟩ := Cursor.Spans.cons_iff.mp fromClose
    refine ⟨place, (takes _ _ _).mpr ⟨bodyText, toClose, message, nested, close, closing⟩, ?_⟩
    rw [Cursor.skipBlanks_eq_passWhile]
    exact (Cursor.passWhile_eq_of_spans toStop gapBlank unblank).symm

/-- In front of a brace or a colon a choice name is taken with the blanks around it. -/
theorem choiceName_eq_done_iff {cursor stop : Cursor} {name : String} {next : Char}
    (present : stop.peek? = some next) (ends : endsChoiceName next = true) :
    Reader.choiceName.run cursor = .done name stop ↔
      ∃ text, cursor.Spans text stop ∧ IsChoiceName name ∧ IsPadded name text := by
  rw [Reader.takes_choiceName cursor name stop]
  refine exists_congr fun text => and_congr_right fun _ => and_congr_right fun _ => ?_
  constructor
  · rintro ⟨-, before, after, beforeBlank, afterBlank, rfl, -⟩
    exact ⟨before, after, beforeBlank, afterBlank, rfl⟩
  · rintro ⟨before, after, beforeBlank, afterBlank, rfl⟩
    refine ⟨fun character same => ?_, before, after, beforeBlank, afterBlank, rfl, fun _ =>
      ⟨next, present, ends⟩⟩
    obtain rfl := Option.some.inj (present.symm.trans same)
    rw [← Bool.not_eq_true, isBlank_iff]
    rintro (rfl | rfl | rfl | rfl) <;> exact absurd ends (by decide)

/-- The value of an offset and the name behind it, which a blank separates. -/
theorem offset_choiceName_iff {cursor stop : Cursor} {name : String} {offset : UInt64}
    (brace : stop.peek? = some '{') :
    (∃ place, Reader.offset.run cursor = .done offset place ∧
        Reader.choiceName.run place = .done name stop) ↔
      ∃ gap numeral blanks nameText, cursor.Spans (gap ++ numeral ++ blanks ++ nameText) stop ∧
        IsBlankText gap ∧ Reader.offsetValue numeral = .ok offset ∧ IsBlankText blanks ∧
        blanks ≠ [] ∧ IsChoiceName name ∧ IsPadded name nameText := by
  constructor
  · rintro ⟨place, valued, named⟩
    obtain ⟨_, toPlace, ⟨gap, numeral, rfl, gapBlank, value⟩, next, present, ends⟩ :=
      (Reader.takes_offset _ _ _).mp valued
    obtain ⟨_, toStop, proper, before, after, beforeBlank, afterBlank, rfl⟩ :=
      (choiceName_eq_done_iff brace (by decide)).mp named
    refine ⟨gap, numeral, before, name.toList ++ after, by simpa using toPlace.trans toStop,
      gapBlank, value, beforeBlank, ?_, proper, [], after, by simp [IsBlankText], afterBlank,
        by simp⟩
    rintro rfl
    -- The name would go on where the numeral ends.
    rw [List.nil_append] at toStop
    obtain ⟨gapPlace, toGap, fromGap, -⟩ := toStop.split
    rcases toGap.mem_or_peek? present with inName | ⟨empty, -⟩
    · have plain := proper.2 next inName
      simp [Reader.isOffsetCharacter_of_choice plain.1 plain.2] at ends
    · exact proper.1 (String.toList_inj.mp empty)
  · rintro ⟨gap, numeral, blanks, nameText, spans, gapBlank, value, blanksBlank, separated, proper,
      before, after, beforeBlank, afterBlank, rfl⟩
    rw [List.append_assoc] at spans
    obtain ⟨place, toPlace, toStop, -⟩ := spans.split
    refine ⟨place, (Reader.takes_offset _ _ _).mpr ⟨_, toPlace,
      ⟨gap, numeral, rfl, gapBlank, value⟩,
      ?_⟩, (choiceName_eq_done_iff brace (by decide)).mpr ⟨_, toStop, proper, blanks ++ before,
        after, List.forall_mem_append.mpr ⟨blanksBlank, beforeBlank⟩, afterBlank, by simp⟩⟩
    obtain ⟨first, others, rfl⟩ := List.exists_cons_of_ne_nil separated
    refine ⟨first, by simp [toStop.1], ?_⟩
    simp [Reader.isOffsetCharacter, blanksBlank first List.mem_cons_self]

/-- A choice's head is an offset, if one may stand there, and a new name. -/
theorem takes_choiceHead {offsetAllowed : Bool} {seen : List String} :
    (choiceHead offsetAllowed seen).Takes fun text found following => ∃ offsetText nameText,
      text = offsetText ++ nameText ∧ IsOffset (offsetAllowed && seen.isEmpty) offsetText found.2 ∧
        IsChoiceName found.1 ∧ IsPadded found.1 nameText ∧ following.head? = some '{' ∧
        found.1 ∉ seen := by
  rintro cursor ⟨name, offset⟩ stop
  rw [choiceHead_eq_done_iff]
  constructor
  · rintro ⟨first, place, read, ⟨-, rfl, rfl, rfl⟩ | ⟨colon, rfl, rfl, rfl, valued⟩, brace, fresh⟩
    · obtain ⟨text, toStop, proper, padded⟩ := (choiceName_eq_done_iff brace (by decide)).mp read
      exact ⟨text, toStop, [], text, rfl, .absent, proper, padded, brace, fresh⟩
    · obtain ⟨word, toPlace, -, named⟩ := (choiceName_eq_done_iff colon (by decide)).mp read
      obtain ⟨gap, numeral, blanks, nameText, toStop, gapBlank, value, blanksBlank, separated,
        proper, padded⟩ := (offset_choiceName_iff brace).mp valued
      exact ⟨_, toPlace.trans (Cursor.Spans.cons_iff.mpr ⟨colon, toStop⟩),
        word ++ ':' :: (gap ++ numeral ++ blanks), nameText, by simp,
        .present named gapBlank value blanksBlank separated, proper, padded, brace, fresh⟩
  · rintro ⟨_, spans, offsetText, nameText, rfl, shifted, proper, padded, brace, fresh⟩
    generalize flag : (offsetAllowed && seen.isEmpty) = allowed at shifted
    cases shifted with
    | absent =>
      have plain : stop.peek? ≠ some ':' := by
        rw [show stop.peek? = some '{' from brace]
        decide
      exact ⟨name, stop, (choiceName_eq_done_iff brace (by decide)).mpr ⟨_, spans, proper, padded⟩,
        .inl ⟨plain, rfl, rfl, rfl⟩, brace, fresh⟩
    | @present word gap numeral blanks _ named gapBlank value blanksBlank separated =>
      obtain ⟨rfl, empty⟩ := Bool.and_eq_true_iff.mp flag
      rw [List.append_assoc, List.cons_append] at spans
      obtain ⟨place, toColon, fromColon, -⟩ := spans.split
      obtain ⟨colon, toStop⟩ := Cursor.Spans.cons_iff.mp fromColon
      exact ⟨"offset", place,
        (choiceName_eq_done_iff colon (by decide)).mpr ⟨_, toColon, isChoiceName_offset, named⟩,
        .inr ⟨colon, rfl, rfl, List.isEmpty_iff.mp empty, (offset_choiceName_iff brace).mpr
          ⟨gap, numeral, blanks, nameText, toStop, gapBlank, value, blanksBlank, separated, proper,
            padded⟩⟩, brace, fresh⟩

/-- The blanks in front of choices may be told apart from them. -/
theorem trim_choices {text : List Char} {choices : Choices π} (listed : AreChoices text choices) :
    ∃ blanks rest, text = blanks ++ rest ∧ IsBlankText blanks ∧ AreChoices rest choices ∧
      (choices = [] ∧ rest = [] ∨ choices ≠ [] ∧ ∃ character, rest.head? = some character ∧
        isBlank character = false ∧ endsChoiceName character = false) := by
  cases listed with
  | nil => exact ⟨[], [], rfl, by simp [IsBlankText], .nil, .inl ⟨rfl, rfl⟩⟩
  | @cons name body choices _ bodyText gap choicesText proper named message closing gapBlank
      listed =>
    obtain ⟨before, after, beforeBlank, afterBlank, rfl⟩ := named
    obtain ⟨first, others, letters⟩ := List.exists_cons_of_ne_nil
      (fun empty => proper.1 (String.toList_inj.mp empty) : name.toList ≠ [])
    have named : IsPadded name (name.toList ++ after) :=
      ⟨[], after, by simp [IsBlankText], afterBlank, by simp⟩
    refine ⟨before, _, by simp, beforeBlank,
      .cons proper named message closing gapBlank listed, .inr ⟨by simp, first, ?_, ?_⟩⟩
    · simp [letters]
    · exact proper.2 first (by simp [letters])

/-- Names that are new, each among the names before it. -/
def AreFresh (seen names : List String) : Prop := names.Nodup ∧ ∀ name ∈ names, name ∉ seen

theorem areFresh_cons {seen names : List String} {name : String} :
    AreFresh seen (name :: names) ↔ name ∉ seen ∧ AreFresh (name :: seen) names := by
  simp only [AreFresh, List.nodup_cons, List.mem_cons, forall_eq_or_imp, not_or]
  constructor
  · rintro ⟨⟨apart, distinct⟩, fresh, others⟩
    exact ⟨fresh, distinct, fun other member =>
      ⟨fun same => apart (same ▸ member), others other member⟩⟩
  · rintro ⟨fresh, distinct, others⟩
    exact ⟨⟨fun member => (others name member).1 rfl, distinct⟩, fresh, fun other member =>
      (others other member).2⟩

/-- Choices that are new behind those whose names are in `seen` and complete with them, and the
offset before them. -/
abbrev choicesForm (depth : Nat) (offsetAllowed : Bool) (seen : List String) (text : List Char)
    (found : Choices π × UInt64) : Prop :=
  ∃ offsetText choicesText, text = offsetText ++ choicesText ∧
    IsOffset (offsetAllowed && seen.isEmpty) offsetText found.2 ∧
    AreChoices choicesText found.1 ∧ Node.choicesNesting found.1 ≤ depth ∧ found.1 ≠ [] ∧
    AreFresh seen (found.1.map (·.1)) ∧ otherChoice ∈ found.1.map (·.1) ++ seen

/-- Choices that are read up to a closing brace are choices. -/
theorem choicesForm_of_choicesFrom {body : Reader (Tree π × BodyEnd)} {depth : Nat}
    {offsetAllowed : Bool} (takes : body.Takes (bodyForm depth)) {seen : List String}
    {cursor stop : Cursor} {choices : Choices π} {offset : UInt64} (close : stop.peek? = some '}')
    (found : choicesFrom body offsetAllowed seen cursor = .done (choices, offset) stop) :
    ∃ text, cursor.Spans text stop ∧
      choicesForm depth offsetAllowed seen text (choices, offset) := by
  induction size_eq : cursor.rest.length using Nat.strongRecOn
    generalizing seen cursor choices offset with
  | ind size inductionHypothesis =>
  rcases choicesFrom_eq_done_iff.mp found with ⟨atEnd, -, -, -, rfl⟩ |
    ⟨unfinished, name, tree, others, brace, place, head, read, rfl, rest⟩
  · simp [Cursor.peek?, atEnd] at close
  obtain ⟨_, toBrace, offsetText, nameText, rfl, shifted, proper, named, opening, fresh⟩ :=
    (takes_choiceHead _ _ _).mp head
  obtain ⟨_, toPlace, bodyText, gap, rfl, message, nested, closing, gapBlank, -⟩ :=
    (takes_choiceBody takes _ _ _).mp read
  have whole := toBrace.trans (Cursor.Spans.cons_iff.mpr ⟨opening, toPlace⟩)
  rcases rest with ⟨-, complete, rfl, rfl⟩ | ⟨more, ignored, rest⟩
  · refine ⟨_, whole, offsetText, nameText ++ '{' :: (bodyText ++ '}' :: (gap ++ [])), by simp,
      shifted, .cons proper named message closing gapBlank .nil, ?_, by simp, ?_,
      by simpa using complete⟩
    · simpa [Node.choicesNesting] using nested
    · exact areFresh_cons.mpr ⟨fresh, List.nodup_nil, by simp⟩
  · have shorter : place.rest.length < size := by
      have consumed := whole.length_eq
      simp only [List.length_append, List.length_cons] at consumed
      omega
    obtain ⟨_, toStop, noOffset, choicesText, rfl, unshifted, listed, nestedOthers, -, freshOthers,
      complete⟩ := inductionHypothesis _ shorter rest rfl
    rw [List.isEmpty_cons, Bool.and_false, isOffset_false_iff] at unshifted
    obtain ⟨rfl, rfl⟩ := unshifted
    exact ⟨_, whole.trans toStop, offsetText,
      nameText ++ '{' :: (bodyText ++ '}' :: (gap ++ choicesText)), by simp, shifted,
      .cons proper named message closing gapBlank listed, Nat.max_le.mpr ⟨nested, nestedOthers⟩,
      by simp, areFresh_cons.mpr ⟨fresh, freshOthers⟩, by simpa [or_left_comm] using complete⟩

/-- Choices are read up to the closing brace behind them. -/
theorem choicesFrom_of_choicesForm {body : Reader (Tree π × BodyEnd)} {depth : Nat}
    {offsetAllowed : Bool} (takes : body.Takes (bodyForm depth)) {seen : List String}
    {cursor stop : Cursor} {choices : Choices π} {offset : UInt64} {text : List Char}
    (close : stop.peek? = some '}') (spans : cursor.Spans text stop)
    (form : choicesForm depth offsetAllowed seen text (choices, offset)) :
    choicesFrom body offsetAllowed seen cursor = .done (choices, offset) stop := by
  induction size_eq : cursor.rest.length using Nat.strongRecOn
    generalizing seen cursor choices offset text with
  | ind size inductionHypothesis =>
  obtain ⟨offsetText, _, rfl, shifted, listed, nested, nonempty, fresh, complete⟩ := form
  cases listed with
  | nil => exact absurd rfl nonempty
  | @cons name tree others nameText bodyText gap othersText proper named message closing gapBlank
      listed =>
    obtain ⟨blanks, rest, rfl, blanksBlank, listed, begins⟩ := trim_choices listed
    obtain ⟨nestedBody, nestedOthers⟩ := Nat.max_le.mp nested
    obtain ⟨new, freshOthers⟩ := areFresh_cons.mp fresh
    have regrouped : cursor.Spans ((offsetText ++ nameText) ++
        '{' :: ((bodyText ++ '}' :: (gap ++ blanks)) ++ rest)) stop := by simpa using spans
    obtain ⟨brace, toBrace, fromBrace, -⟩ := regrouped.split
    obtain ⟨opening, fromBody⟩ := Cursor.Spans.cons_iff.mp fromBrace
    obtain ⟨place, toPlace, toStop, placeRest⟩ := fromBody.split
    have unfinished : cursor.rest ≠ [] := by
      rw [spans.1]
      simp
    have head : (choiceHead offsetAllowed seen).run cursor = .done (name, offset) brace :=
      (takes_choiceHead _ _ _).mpr
        ⟨_, toBrace, offsetText, nameText, rfl, shifted, proper, named, opening, new⟩
    have read : (∀ character, place.peek? = some character → isBlank character = false) →
        (choiceBody body).run brace.advance = .done tree place := fun unblank =>
      (takes_choiceBody takes _ _ _).mpr ⟨_, toPlace, bodyText, gap ++ blanks, rfl, message,
        nestedBody, closing, List.forall_mem_append.mpr ⟨gapBlank, blanksBlank⟩, unblank⟩
    rcases begins with ⟨rfl, rfl⟩ | ⟨more, character, first, unblank, plain⟩
    · -- The last choice: the brace that closes the expression follows.
      obtain rfl := Cursor.Spans.nil_iff.mp toStop
      have closed : ∀ character, place.peek? = some character → isBlank character = false := by
        intro character present
        obtain rfl := Option.some.inj (present.symm.trans close)
        decide
      exact choicesFrom_eq_done_iff.mpr (.inr ⟨unfinished, name, tree, [], brace, place, head,
        read closed, rfl, .inl ⟨close, by simpa using complete, rfl, rfl⟩⟩)
    · have present : place.peek? = some character := by simp [Cursor.peek?, placeRest, first]
      have apart : ∀ other, place.peek? = some other → isBlank other = false := by
        intro other here
        obtain rfl := Option.some.inj (present.symm.trans here)
        exact unblank
      have unclosed : place.peek? ≠ some '}' := by
        intro closed
        obtain rfl := Option.some.inj (present.symm.trans closed)
        exact absurd plain (by decide)
      have shorter : place.rest.length < size := by
        have consumed := regrouped.length_eq
        have remaining := toStop.length_eq
        simp only [List.length_append, List.length_cons] at consumed
        omega
      have following : choicesFrom body offsetAllowed (name :: seen) place =
          .done (others, 0) stop :=
        inductionHypothesis _ shorter toStop ⟨[], rest, rfl, by simpa using IsOffset.absent, listed,
          nestedOthers, more, freshOthers, by simpa [or_left_comm] using complete⟩ rfl
      exact choicesFrom_eq_done_iff.mpr (.inr ⟨unfinished, name, tree, others, brace, place, head,
        read apart, rfl, .inr ⟨unclosed, 0, following⟩⟩)

/-- The choices of an expression behind their comma. -/
theorem takesBefore_choices {body : Reader (Tree π × BodyEnd)} {depth : Nat} {offsetAllowed : Bool}
    (takes : body.Takes (bodyForm depth)) :
    (choices body offsetAllowed).TakesBefore '}' fun text found _ => ∃ offsetText choicesText,
      text = ',' :: (offsetText ++ choicesText) ∧ IsOffset offsetAllowed offsetText found.2 ∧
        AreChoices choicesText found.1 ∧ Node.choicesNesting found.1 ≤ depth ∧
        (found.1.map (·.1)).Nodup ∧ otherChoice ∈ found.1.map (·.1) := by
  rintro cursor ⟨choices, offset⟩ stop close
  rw [choices_eq_done_iff]
  constructor
  · rintro ⟨comma, found⟩
    obtain ⟨_, spans, offsetText, choicesText, rfl, shifted, listed, nested, -, fresh, complete⟩ :=
      choicesForm_of_choicesFrom takes close found
    exact ⟨_, Cursor.Spans.cons_iff.mpr ⟨comma, spans⟩, offsetText, choicesText, rfl,
      by simpa using shifted, listed, nested, fresh.1, by simpa using complete⟩
  · rintro ⟨_, spans, offsetText, choicesText, rfl, shifted, listed, nested, distinct, complete⟩
    obtain ⟨comma, spans⟩ := Cursor.Spans.cons_iff.mp spans
    have nonempty : choices ≠ [] := by
      rintro rfl
      simp at complete
    exact ⟨comma, choicesFrom_of_choicesForm takes close spans ⟨offsetText, choicesText, rfl,
      by simpa using shifted, listed, nested, nonempty, ⟨distinct, by simp⟩,
      by simpa using complete⟩⟩

/-! ## Expressions and templates -/

/-- An identifier that is not empty, in front of `,` or `}`. -/
theorem identifier_eq_done_iff {cursor stop : Cursor} {name : String}
    (ends : stop.peek? = some ',' ∨ stop.peek? = some '}') :
    Reader.identifier.run cursor = .done name stop ↔
      ∃ text, cursor.Spans text stop ∧ IsPadded name text ∧
        ∀ character ∈ name.toList, isNameCharacter character = true := by
  rw [Reader.takes_identifier cursor name stop]
  refine exists_congr fun text => and_congr_right fun _ => and_congr_right fun _ => ?_
  exact and_iff_left ends

/-- With the built-in kinds only, an expression that is read is an expression of the grammar. -/
theorem isExpression_of_expressionOf {parser : Parser π} {body : Reader (Tree π × BodyEnd)}
    {depth : Nat} (builtin : parser.kinds = .empty) (takes : body.Takes (bodyForm depth))
    {cursor stop : Cursor} {node : Node π} (close : stop.peek? = some '}')
    (found : (parser.expressionOf body).run cursor = .done node stop) :
    ∃ text, cursor.Spans text stop ∧ IsExpression text node ∧ node.nesting ≤ depth + 1 := by
  obtain ⟨key, place, keyed, nonempty, rest⟩ := expressionOf_eq_done_iff.mp found
  obtain ⟨keyText, toPlace, padded, letters, keyEnds⟩ := (Reader.takes_identifier _ _ _).mp keyed
  have identifier : IsIdentifier key := ⟨nonempty, letters⟩
  rcases rest with ⟨-, rfl, rfl⟩ | ⟨unclosed, kind, tail, kinded, rest⟩
  · exact ⟨keyText, toPlace, .var identifier padded, by simp [Node.nesting]⟩
  have comma : place.peek? = some ',' := keyEnds.resolve_right unclosed
  obtain ⟨kindText, toTail, kindPadded, -, -⟩ := (Reader.takes_identifier _ _ _).mp kinded
  have whole := toPlace.trans (Cursor.Spans.cons_iff.mpr ⟨comma, toTail⟩)
  rcases rest with ⟨kind, found, offset, rfl, read, rfl⟩ | ⟨width, rfl, read, rfl⟩ | ⟨-, custom⟩
  · obtain ⟨_, toStop, offsetText, choicesText, rfl, shifted, listed, nested, distinct,
      complete⟩ := (takesBefore_choices takes _ _ _ close).mp read
    refine ⟨_, by simpa using whole.trans toStop, .choices identifier padded kindPadded shifted
      listed distinct complete, ?_⟩
    rw [Node.nesting_node, Nat.add_comm]
    exact Nat.succ_le_succ nested
  · obtain ⟨comma, sized⟩ := dateWidth_eq_done_iff.mp read
    obtain ⟨widthText, toStop, sized, -⟩ := (identifier_eq_done_iff (.inr close)).mp sized
    exact ⟨_, by simpa using whole.trans (Cursor.Spans.cons_iff.mpr ⟨comma, toStop⟩),
      .date identifier padded kindPadded sized, by simp [Node.nesting]⟩
  · obtain ⟨_, _, _, known, -⟩ := customNode_eq_done_iff.mp custom
    simp [builtin, KindRegistry.empty, KindRegistry.get?] at known

/-- A key and a kind, from which the expression goes on. -/
theorem expressionOf_of_kind {parser : Parser π} {body : Reader (Tree π × BodyEnd)}
    {cursor stop : Cursor} {node : Node π} {key kind : String} {keyText kindText rest : List Char}
    (keyIdentifier : IsIdentifier key) (kindIdentifier : IsIdentifier kind)
    (keyed : IsPadded key keyText) (kinded : IsPadded kind kindText)
    (spans : cursor.Spans (keyText ++ ',' :: (kindText ++ ',' :: rest)) stop)
    (onward : ∀ tail : Cursor, tail.Spans (',' :: rest) stop →
      (∃ (choiceKind : ChoiceKind) (found : Choices π) (offset : UInt64),
          kind = choiceKind.name ∧
          (choices body choiceKind.takesOffset).run tail = .done (found, offset) stop ∧
          node = choiceKind.node key found offset) ∨
        ∃ width, kind = "date" ∧ dateWidth.run tail = .done width stop ∧ node = .date key width) :
    (parser.expressionOf body).run cursor = .done node stop := by
  obtain ⟨place, toPlace, fromPlace, -⟩ := spans.split
  obtain ⟨comma, fromKind⟩ := Cursor.Spans.cons_iff.mp fromPlace
  obtain ⟨tail, toTail, fromTail, -⟩ := fromKind.split
  obtain ⟨kindComma, -⟩ := Cursor.Spans.cons_iff.mp fromTail
  have unclosed : place.peek? ≠ some '}' := by
    rw [comma]
    decide
  refine expressionOf_eq_done_iff.mpr ⟨key, place, ?_, keyIdentifier.1,
    .inr ⟨unclosed, kind, tail, ?_, ?_⟩⟩
  · exact (identifier_eq_done_iff (.inl comma)).mpr ⟨_, toPlace, keyed, keyIdentifier.2⟩
  · exact (identifier_eq_done_iff (.inl kindComma)).mpr ⟨_, toTail, kinded, kindIdentifier.2⟩
  · rcases onward tail fromTail with choices | date
    · exact .inl choices
    · exact .inr (.inl date)

/-- An expression of the grammar is read, whatever kinds are registered. -/
theorem expressionOf_of_isExpression {parser : Parser π} {body : Reader (Tree π × BodyEnd)}
    {depth : Nat} (takes : body.Takes (bodyForm depth)) {cursor stop : Cursor} {node : Node π}
    {text : List Char} (close : stop.peek? = some '}') (spans : cursor.Spans text stop)
    (expression : IsExpression text node) (nested : node.nesting ≤ depth + 1) :
    (parser.expressionOf body).run cursor = .done node stop := by
  cases expression with
  | @var key _ identifier padded =>
    have keyed : Reader.identifier.run cursor = .done key stop :=
      (identifier_eq_done_iff (.inr close)).mpr ⟨_, spans, padded, identifier.2⟩
    exact expressionOf_eq_done_iff.mpr ⟨key, stop, keyed, identifier.1, .inl ⟨close, rfl, rfl⟩⟩
  | @date key width keyText kindText widthText identifier padded kindPadded sized =>
    refine expressionOf_of_kind identifier isIdentifier_date padded kindPadded spans ?_
    intro tail fromTail
    obtain ⟨comma, toStop⟩ := Cursor.Spans.cons_iff.mp fromTail
    have found : Reader.identifier.run tail.advance = .done width.name stop :=
      (identifier_eq_done_iff (.inr close)).mpr ⟨_, toStop, sized, (isIdentifier_width width).2⟩
    exact .inr ⟨width, rfl, dateWidth_eq_done_iff.mpr ⟨comma, found⟩, rfl⟩
  | @choices kind key offset found keyText kindText offsetText choicesText identifier padded
      kindPadded shifted listed distinct complete =>
    refine expressionOf_of_kind identifier kind.isIdentifier_name padded kindPadded spans ?_
    intro tail fromTail
    rw [Node.nesting_node, Nat.add_comm] at nested
    have shallow : Node.choicesNesting found ≤ depth := Nat.le_of_succ_le_succ nested
    exact .inl ⟨kind, found, offset, rfl, (takesBefore_choices takes _ _ _ close).mpr
      ⟨_, fromTail, offsetText, choicesText, rfl, shifted, listed, shallow, distinct, complete⟩,
      rfl⟩

/-- Within a depth, the parser reads the expressions that are nested within the next depth. -/
theorem takesBefore_expressionOf {parser : Parser π} {body : Reader (Tree π × BodyEnd)}
    {depth : Nat} (builtin : parser.kinds = .empty) (takes : body.Takes (bodyForm depth)) :
    (parser.expressionOf body).TakesBefore '}' fun text node _ =>
      IsExpression text node ∧ node.nesting ≤ depth + 1 := by
  intro cursor node stop close
  constructor
  · intro found
    exact isExpression_of_expressionOf builtin takes close found
  · rintro ⟨text, spans, expression, nested⟩
    exact expressionOf_of_isExpression takes close spans expression nested

/-- With the built-in kinds only, a body takes the messages nested within its depth. -/
theorem takes_body {parser : Parser π} (builtin : parser.kinds = .empty) (depth : Nat) :
    (parser.body depth).Takes (bodyForm depth) := by
  induction depth with
  | zero =>
    have closed : TakesExpressions (none : Option (Reader (Node π))) 0 := rfl
    exact takes_bodyOf closed
  | succ depth inductionHypothesis =>
    have opened : TakesExpressions (some (parser.expressionOf (parser.body depth))) (depth + 1) :=
      takesBefore_expressionOf builtin inductionHypothesis
    exact takes_bodyOf opened

/-- What is parsed is a message. -/
theorem isMessage_of_parse {maxDepth : Nat} {template : String} {tree : Tree π}
    (parsed : Parser.parse { maxDepth } template = .ok tree) :
    IsMessage template.toList tree ∧ Node.treeNesting tree ≤ maxDepth := by
  obtain ⟨stop, read⟩ := parse_eq_ok_iff_body.mp parsed
  obtain ⟨text, spans, message, nested, atEnd⟩ := (takes_body rfl maxDepth _ _ _).mp read
  obtain rfl : template.toList = text := by
    simpa [Cursor.start, show stop.rest = [] from atEnd] using spans.1
  exact ⟨message, nested⟩

/-- A message is parsed if the limit leaves room for its expressions. -/
theorem parse_of_isMessage {maxDepth : Nat} {template : String} {tree : Tree π}
    (message : IsMessage template.toList tree) (nested : Node.treeNesting tree ≤ maxDepth) :
    Parser.parse { maxDepth } template = .ok tree := by
  have whole : (Cursor.start template).Spans template.toList ⟨template.toList.reverse, []⟩ :=
    ⟨by simp [Cursor.start], by simp [Cursor.start]⟩
  exact parse_eq_ok_iff_body.mpr ⟨_, (takes_body rfl maxDepth _ _ _).mpr
    ⟨template.toList, whole, message, nested, rfl⟩⟩

/-- With the built-in kinds only, a template has a tree exactly if the grammar derives the tree
from it and no expression of the tree is enclosed by as many others as the limit allows. -/
theorem parse_eq_ok_iff (maxDepth : Nat) (template : String) (tree : Tree π) :
    Parser.parse { maxDepth } template = .ok tree ↔
      IsMessage template.toList tree ∧ Node.treeNesting tree ≤ maxDepth := by
  constructor
  · intro parsed
    exact isMessage_of_parse parsed
  · rintro ⟨message, nested⟩
    exact parse_of_isMessage message nested

end Parser

end MessageTemplate
