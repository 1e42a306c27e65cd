import MessageTemplate.Proofs.Exactness
import MessageTemplate.Proofs.Locality

/-!
# Templates as bodies of choices

A template that does not end with a backslash may stand as the body of a choice, and there it is
read as it is read alone with a limit that is lower by one. What is a template is so by the
grammar; what is none fails by locality, since the reader of bodies runs into the same fault at
its place inside the braces.
-/

namespace MessageTemplate

/-- An expression whose first choice has a body that is left open. -/
structure Enclosure where
  key : String
  kind : ChoiceKind
  /-- The name of the choice. -/
  name : String
  identifier : IsIdentifier key
  named : IsChoiceName name

namespace Enclosure

variable {π : Type}

/-- The text in front of the body. -/
def front (enclosure : Enclosure) : String :=
  "\x7b" ++ enclosure.key ++ ", " ++ enclosure.kind.name ++ ", " ++ enclosure.name ++ "\x7b"

/-- The text behind the body: its closing brace, an empty body for `other` unless the choice is
itself called so, and the closing brace of the expression. -/
def back (enclosure : Enclosure) : String :=
  "\x7d" ++ (if enclosure.name = otherChoice then "" else " other\x7b\x7d") ++ "\x7d"

/-- The whole text with a given body. -/
def text (enclosure : Enclosure) (body : String) : String :=
  enclosure.front ++ body ++ enclosure.back

/-- The choices of the expression. -/
def choices (enclosure : Enclosure) (body : Tree π) : Choices π :=
  (enclosure.name, body) :: if enclosure.name = otherChoice then [] else [(otherChoice, [])]

/-- The expression with a given body. -/
def node (enclosure : Enclosure) (body : Tree π) : Node π :=
  enclosure.kind.node enclosure.key (enclosure.choices body) 0

theorem get?_choices (enclosure : Enclosure) (body : Tree π) :
    (enclosure.choices body).get? enclosure.name = some body := by
  simp [choices, Choices.get?]

/-! ## Bodies that are templates -/

/-- The choices of the expression in the grammar. -/
theorem areChoices (enclosure : Enclosure) {body : List Char} {tree : Tree π}
    (message : IsMessage body tree) (closing : body.getLast? ≠ some '\\') :
    AreChoices (' ' :: enclosure.name.toList ++ '{' :: (body ++ '}' :: ([] ++
        (if enclosure.name = otherChoice then [] else " other\x7b\x7d".toList))))
      (enclosure.choices tree) := by
  refine .cons enclosure.named (isPadded_blank _) message closing (by simp [IsBlankText]) ?_
  split
  · exact .nil
  · have empty : IsMessage [] ([] : Tree π) := .literal isLiteralRun_nil
    have listed : AreChoices (' ' :: otherChoice.toList ++ '{' :: ([] ++ '}' :: ([] ++ [])))
        [(otherChoice, ([] : Tree π))] :=
      .cons isChoiceName_otherChoice (isPadded_blank otherChoice) empty (by simp)
        (by simp [IsBlankText]) .nil
    exact listed

theorem names_choices (enclosure : Enclosure) (body : Tree π) :
    ((enclosure.choices body).map (·.1)).Nodup ∧
      otherChoice ∈ (enclosure.choices body).map (·.1) := by
  unfold choices
  by_cases other : enclosure.name = otherChoice
  · simp [other]
  · simp [other]

/-- A message between the braces of the choice makes a message. -/
theorem isMessage (enclosure : Enclosure) {body : String} {tree : Tree π}
    (message : IsMessage body.toList tree) (closing : body.toList.getLast? ≠ some '\\') :
    IsMessage (enclosure.text body).toList [enclosure.node tree] := by
  obtain ⟨distinct, complete⟩ := enclosure.names_choices tree
  have inner := IsExpression.choices enclosure.identifier (isPadded_self enclosure.key)
    (isPadded_blank enclosure.kind.name) (.absent : IsOffset enclosure.kind.takesOffset [] 0)
    (enclosure.areChoices message closing) distinct complete
  have whole := IsMessage.expression isLiteralRun_nil (by simp) inner
    (.literal isLiteralRun_nil : IsMessage [] (Literal.nodes [] : Tree π))
  rw [show (Literal.nodes [] : Tree π) = [] from rfl] at whole
  by_cases other : enclosure.name = otherChoice
  · simpa [text, front, back, node, other] using whole
  · simpa [text, front, back, node, other] using whole

theorem treeNesting_node (enclosure : Enclosure) (body : Tree π) :
    Node.treeNesting [enclosure.node body] = Node.treeNesting body + 1 := by
  by_cases other : enclosure.name = otherChoice
  · simp [node, choices, other, Node.treeNesting, Node.choicesNesting, Nat.add_comm]
  · simp [node, choices, other, Node.treeNesting, Node.choicesNesting, Nat.add_comm]

end Enclosure

namespace Parser

variable {π : Type}

/-! ## Bodies that are none -/

/-- How bodies are read depends on the kinds and on the depth, not on the limit of the parser. -/
theorem body_eq_of_kinds (kinds : KindRegistry π) (limit otherLimit depth : Nat) :
    body ⟨kinds, limit⟩ depth = body ⟨kinds, otherLimit⟩ depth := by
  induction depth with
  | zero => rfl
  | succ depth inductionHypothesis =>
    simp only [body_succ, expressionOf, customNode, inductionHypothesis]

/-- Behind a key and the name of a kind of choices, an expression is its choices. -/
theorem expressionOf_run_choices {parser : Parser π} {body : Reader (Tree π × BodyEnd)}
    {cursor place tail : Cursor} {key : String} {kind : ChoiceKind}
    (keyed : Reader.identifier.run cursor = .done key place) (nonempty : key ≠ "")
    (more : place.peek? ≠ some '}')
    (kinded : Reader.identifier.run place.advance = .done kind.name tail) :
    (parser.expressionOf body).run cursor =
      ((choices body kind.takesOffset).run tail).map fun found =>
        kind.node key found.1 found.2 := by
  have filled : key.isEmpty = false := by simpa [String.isEmpty_iff] using nonempty
  simp only [expressionOf, Reader.run_bind, keyed, Reader.follow_done_eq, filled,
    Bool.false_eq_true, if_false, Reader.run_peek, if_neg more, Reader.run_advance, kinded]
  cases kind with
  | select | selectOrdinal | plural => exact Reader.follow_done_eq_map _ _

/-- Choices fail where the first of their bodies fails. -/
theorem choicesFrom_eq_fail {body : Reader (Tree π × BodyEnd)} {offsetAllowed : Bool}
    {seen : List String} {cursor brace stop : Cursor} {head : String × UInt64} {fault : ParseFault}
    (unfinished : cursor.rest ≠ [])
    (read : (choiceHead offsetAllowed seen).run cursor = .done head brace)
    (failed : body.run brace.advance = .fail fault stop) :
    choicesFrom body offsetAllowed seen cursor = .fail fault stop := by
  have more : ¬cursor.atEnd = true := by simpa [Cursor.atEnd] using unfinished
  rw [choicesFrom_eq, if_neg more, read, Reader.follow_done_eq, choiceBody, Reader.run_bind,
    failed]
  rfl

/-- A closing brace that closes nothing: what stands before it is a template of its own and does
not end with a backslash, which would escape the brace. -/
def IsUnmatchedBrace (parser : Parser π) (template : String) (position : Nat) : Prop :=
  ∃ before after tree, template.toList = before ++ '}' :: after ∧ before.length = position ∧
    before.getLast? ≠ some '\\' ∧ parser.parse (String.ofList before) = .ok tree

theorem IsUnmatchedBrace.getElem? {parser : Parser π} {template : String} {position : Nat}
    (unmatched : parser.IsUnmatchedBrace template position) :
    template.toList[position]? = some '}' := by
  obtain ⟨before, after, tree, whole, rfl, -⟩ := unmatched
  simp [whole]

/-- Where a template fails, its body fails, unless a brace in it closes nothing. -/
theorem body_eq_fail {limit : Nat} {template : String} {error : ParseError}
    (failed : (Parser.parse { maxDepth := limit } template : Except ParseError (Tree π)) =
      .error error)
    (matched : ¬IsUnmatchedBrace ({ maxDepth := limit } : Parser π) template error.position) :
    ∃ stop, (body ({ maxDepth := limit } : Parser π) limit).run (.start template) =
        .fail error.fault stop ∧ stop.position = error.position := by
  have builtin : ({ maxDepth := limit } : Parser π).kinds.IsLocal := KindRegistry.isLocal_empty
  obtain ⟨stop, read, positioned⟩ := (parse_eq_error_iff builtin).mp failed
  refine ⟨stop, ?_, positioned⟩
  rw [message, Reader.run_bind] at read
  rcases ((body ({ maxDepth := limit } : Parser π) limit).run (.start template)).eq_done_or_error
    with ⟨⟨tree, bodyEnd⟩, place, found⟩ | ⟨inner, place, found⟩
  · rw [found, Reader.follow_done_eq] at read
    cases bodyEnd with
    | input => simp [Reading.fail, Reading.done] at read
    | close =>
      obtain rfl : place = stop := congrArg Prod.snd read
      obtain ⟨text, spans, isMessage, nested, close, unescaped⟩ :=
        (takes_body rfl limit _ _ _).mp found
      obtain ⟨behind, more⟩ := List.head?_eq_some_iff.mp close
      have whole : template.toList = text ++ '}' :: behind := by
        rw [← more]
        exact spans.1
      have length : text.length = error.position := by
        simpa [positioned] using spans.position_eq.symm
      have parsed : Parser.parse { maxDepth := limit } (String.ofList text) = .ok tree :=
        parse_of_isMessage (by simpa using isMessage) nested
      exact absurd ⟨text, behind, tree, whole, length, unescaped, parsed⟩ matched
  · rw [found] at read ⊢
    obtain ⟨same, rfl⟩ := Prod.mk.inj read
    rw [Except.error.inj same]
    rfl

/-- A template fails where a body fails that the front of an enclosure leads to. -/
theorem message_eq_fail (enclosure : Enclosure) {limit : Nat}
    {cursor place stop : Cursor} {fault : ParseFault}
    (spans : cursor.Spans enclosure.front.toList place)
    (failed : (body ({ maxDepth := limit } : Parser π) limit).run place = .fail fault stop) :
    (message ({ maxDepth := limit + 1 } : Parser π)).run cursor = .fail fault stop := by
  have front : enclosure.front.toList = '{' :: (enclosure.key.toList ++ ',' ::
      (' ' :: enclosure.kind.name.toList ++ ',' :: (' ' :: enclosure.name.toList ++ ['{']))) := by
    simp [Enclosure.front]
  rw [front] at spans
  obtain ⟨opening, fromKey⟩ := Cursor.Spans.cons_iff.mp spans
  obtain ⟨keyEnd, toKeyEnd, fromKeyEnd, -⟩ := fromKey.split
  obtain ⟨keyComma, fromKind⟩ := Cursor.Spans.cons_iff.mp fromKeyEnd
  obtain ⟨kindEnd, toKindEnd, fromKindEnd, -⟩ := fromKind.split
  obtain ⟨kindComma, fromName⟩ := Cursor.Spans.cons_iff.mp fromKindEnd
  obtain ⟨brace, toBrace, fromBrace, -⟩ := fromName.split
  obtain ⟨bodyOpening, toPlace⟩ := Cursor.Spans.cons_iff.mp fromBrace
  obtain rfl := Cursor.Spans.nil_iff.mp toPlace
  have keyed : Reader.identifier.run cursor.advance = .done enclosure.key keyEnd :=
    (identifier_eq_done_iff (.inl keyComma)).mpr ⟨_, toKeyEnd, isPadded_self _,
      enclosure.identifier.2⟩
  have kinded : Reader.identifier.run keyEnd.advance = .done enclosure.kind.name kindEnd :=
    (identifier_eq_done_iff (.inl kindComma)).mpr ⟨_, toKindEnd, isPadded_blank _,
      enclosure.kind.isIdentifier_name.2⟩
  have named : (choiceHead enclosure.kind.takesOffset []).run kindEnd.advance =
      .done (enclosure.name, 0) brace :=
    (takes_choiceHead _ _ _).mpr ⟨_, toBrace, [], _, rfl, .absent, enclosure.named,
      isPadded_blank _, bodyOpening, by simp⟩
  have unfinished : kindEnd.advance.rest ≠ [] := by
    rw [fromName.1]
    simp
  have listed : (choices (body ({ maxDepth := limit } : Parser π) limit)
      enclosure.kind.takesOffset).run kindEnd = .fail fault stop := by
    rw [run_choices, if_pos kindComma]
    exact choicesFrom_eq_fail unfinished named failed
  have inner : (expressionOf ({ maxDepth := limit + 1 } : Parser π)
      (body { maxDepth := limit } limit)).run cursor.advance = .fail fault stop := by
    have more : keyEnd.peek? ≠ some '}' := by
      rw [keyComma]
      decide
    rw [expressionOf_run_choices keyed enclosure.identifier.1 more kinded, listed]
    rfl
  have nothing : literalRun cursor = ([], cursor) :=
    literalRun_eq_iff.mpr ⟨.refl cursor, isLiteralRun_nil, .inr ⟨.inl opening, by simp⟩⟩
  rw [message, Reader.run_bind, body_succ, body_eq_of_kinds .empty (limit + 1) limit limit]
  change Reader.follow (bodyFrom _ cursor) _ = _
  rw [bodyFrom_eq, nothing]
  simp only [opening, Char.reduceEq, if_false, inner, Reader.follow_fail_eq]

/-- A fault inside a template is found inside the body that the template is made. -/
theorem parse_text_eq_error (enclosure : Enclosure) {limit : Nat} {body : String}
    {error : ParseError}
    (failed : (Parser.parse { maxDepth := limit } body : Except ParseError (Tree π)) =
      .error error)
    (inside : error.position < body.length)
    (matched : ¬IsUnmatchedBrace ({ maxDepth := limit } : Parser π) body error.position) :
    (Parser.parse { maxDepth := limit + 1 } (enclosure.text body) : Except ParseError (Tree π)) =
      .error ⟨error.fault, error.position + enclosure.front.length⟩ := by
  have builtin (limit : Nat) : ({ maxDepth := limit } : Parser π).kinds.IsLocal :=
    KindRegistry.isLocal_empty
  obtain ⟨stop, read, positioned⟩ := body_eq_fail failed matched
  rw [← positioned] at inside
  obtain ⟨text, next, behind, spans, more⟩ := exists_next read inside
  change stop.rest = next :: behind at more
  have whole : body.toList = text ++ stop.rest := spans.1
  let place : Cursor := (Cursor.start (body ++ enclosure.back)).after enclosure.front.toList
  have toPlace : (Cursor.start (enclosure.text body)).Spans enclosure.front.toList place := by
    constructor
    · simp [place, Cursor.start, Cursor.after, Enclosure.text]
    · simp [place, Cursor.start, Cursor.after]
  have begins : text ++ [next] <+: place.rest := by
    refine ⟨behind ++ enclosure.back.toList, ?_⟩
    simp [place, Cursor.start, Cursor.after, whole, more]
  obtain ⟨otherStop, parallel⟩ :=
    Cursor.parallel_of_isPrefix spans (by simp [Cursor.peek?, more]) begins
  have moved := local_body (builtin limit) limit (.start body) place otherStop
  rw [read] at moved
  have enclosed := message_eq_fail enclosure toPlace (moved parallel)
  refine (parse_eq_error_iff (builtin (limit + 1))).mpr ⟨otherStop, enclosed, ?_⟩
  have shifted := parallel.position_eq
  simpa [place, positioned, String.length_toList] using shifted

end Parser

/-- With the built-in kinds only, a text that does not end with a backslash is read as the body of
a choice as it is read alone with a limit that is lower by one. If it is a template, the whole is
parsed to one expression whose choice has its tree; if it is at fault before its end, and not for
a brace that closes nothing, the whole is at fault there for the same reason. -/
theorem parse_enclosed {π : Type} (enclosure : Enclosure) (limit : Nat) (body : String)
    (closing : body.toList.getLast? ≠ some '\\') :
    (∀ tree : Tree π, Parser.parse { maxDepth := limit } body = .ok tree →
        Parser.parse { maxDepth := limit + 1 } (enclosure.front ++ body ++ enclosure.back) =
            .ok [enclosure.node tree] ∧
          (enclosure.choices tree).get? enclosure.name = some tree) ∧
      ∀ fault position,
        (Parser.parse { maxDepth := limit } body : Except ParseError (Tree π)) =
          .error ⟨fault, position⟩ →
        position < body.length →
        ¬Parser.IsUnmatchedBrace ({ maxDepth := limit } : Parser π) body position →
        (Parser.parse { maxDepth := limit + 1 } (enclosure.front ++ body ++ enclosure.back) :
            Except ParseError (Tree π)) =
          .error ⟨fault, position + enclosure.front.length⟩ := by
  constructor
  · intro tree parsed
    obtain ⟨message, nested⟩ := Parser.isMessage_of_parse parsed
    refine ⟨Parser.parse_of_isMessage (enclosure.isMessage message closing) ?_,
      enclosure.get?_choices tree⟩
    rw [enclosure.treeNesting_node]
    exact Nat.succ_le_succ nested
  · intro fault position failed inside matched
    exact Parser.parse_text_eq_error enclosure failed inside matched

/-- A plural with a choice for 1 and an empty one for the rest. -/
def Enclosure.plural : Enclosure where
  key := "count"
  kind := .plural
  name := "=1"
  identifier := by decide
  named := by decide

/-- A template, and a text in which a comma stands where the brace of a date belongs, each alone
and as the body of a choice. -/
theorem parse_enclosed_plural :
    "\x7bm\x7d#".toList.getLast? ≠ some '\\' ∧
      (Parser.parse { maxDepth := 1 } "\x7bm\x7d#" : Except ParseError (Tree Unit)) =
        .ok [.var "m", .literal [.pound]] ∧
      (Parser.parse { maxDepth := 2 } "\x7bcount, plural, =1\x7b\x7bm\x7d#\x7d other\x7b\x7d\x7d" :
          Except ParseError (Tree Unit)) =
        .ok [.plural "count" [("=1", [.var "m", .literal [.pound]]), ("other", [])] 0] ∧
      "a\x7bm, date, long,\x7d".toList.getLast? ≠ some '\\' ∧
      (Parser.parse { maxDepth := 1 } "a\x7bm, date, long,\x7d" : Except ParseError (Tree Unit)) =
        .error ⟨.unbalancedBraces, 15⟩ ∧
      15 < "a\x7bm, date, long,\x7d".length ∧
      ¬Parser.IsUnmatchedBrace ({ maxDepth := 1 } : Parser Unit) "a\x7bm, date, long,\x7d" 15 ∧
      (Parser.parse { maxDepth := 2 }
          "\x7bcount, plural, =1\x7ba\x7bm, date, long,\x7d\x7d other\x7b\x7d\x7d" :
          Except ParseError (Tree Unit)) =
        .error ⟨.unbalancedBraces, 34⟩ := by
  have closing : "\x7bm\x7d#".toList.getLast? ≠ some '\\' := by decide
  have parsed : (Parser.parse { maxDepth := 1 } "\x7bm\x7d#" : Except ParseError (Tree Unit)) =
      .ok [.var "m", .literal [.pound]] := by cbv
  have faultyClosing : "a\x7bm, date, long,\x7d".toList.getLast? ≠ some '\\' := by decide
  have failed : (Parser.parse { maxDepth := 1 } "a\x7bm, date, long,\x7d" :
      Except ParseError (Tree Unit)) = .error ⟨.unbalancedBraces, 15⟩ := by cbv
  have inside : 15 < "a\x7bm, date, long,\x7d".length := by decide
  have matched :
      ¬Parser.IsUnmatchedBrace ({ maxDepth := 1 } : Parser Unit) "a\x7bm, date, long,\x7d" 15 :=
    fun unmatched => absurd unmatched.getElem? (by decide)
  exact ⟨closing, parsed, ((parse_enclosed .plural 1 _ closing).1 _ parsed).1, faultyClosing,
    failed, inside, matched, (parse_enclosed .plural 1 _ faultyClosing).2 _ _ failed inside matched⟩

end MessageTemplate
