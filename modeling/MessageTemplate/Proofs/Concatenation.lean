import MessageTemplate.Proofs.Locality
import MessageTemplate.Proofs.Trees

/-!
# One template behind another

A template may be continued where its last run of literal text is empty, or where an expression
ends that run. The continuation is then read as a template of its own, and an error in it is
found where it stands. The parser is cut at the end of the last expression of the first
template: up to there the two readings of the first template are parallel.
-/

namespace MessageTemplate

/-! ## Runs that are some constituent -/

namespace Literal

theorem prepend_eq_nil_iff {text : List Char} {parts : List LiteralPart} :
    prepend text parts = [] ↔ text = [] ∧ parts = [] := by
  unfold prepend
  split
  · rename_i empty
    simpa using fun _ => List.isEmpty_iff.mp empty
  · rename_i nonempty
    refine iff_of_false ?_ fun both => nonempty (List.isEmpty_iff.mpr both.1)
    split <;> simp

theorem partsFrom_eq_nil_iff {segment : List Char} {escapes : Nat} {rest : List Char} :
    partsFrom segment escapes rest = [] ↔ segment = [] ∧ rest = [] := by
  fun_induction partsFrom segment escapes rest with
  | case1 segment escapes => simp [prepend_eq_nil_iff]
  | case2 segment escapes rest inductionHypothesis => simp [inductionHypothesis]
  | case3 segment escapes character rest _ _ inductionHypothesis => simp [inductionHypothesis]
  | case4 segment character rest _ _ inductionHypothesis => simp [prepend_eq_nil_iff]
  | case5 segment escapes character rest _ _ _ inductionHypothesis =>
    simp [prepend_eq_nil_iff, inductionHypothesis]

/-- Only an empty run is no constituent. -/
theorem nodes_eq_literal {π : Type} {run : List Char} (nonempty : run ≠ []) :
    ∃ parts, (nodes run : Tree π) = [.literal parts] := by
  unfold nodes
  split
  · rename_i none
    exact absurd (partsFrom_eq_nil_iff.mp none).2 nonempty
  · exact ⟨_, rfl⟩

end Literal

/-! ## Readings of which only the value changes -/

namespace Reading

variable {α β γ : Type}

theorem map_map (first : α → β) (second : β → γ) (reading : Reading α) :
    (reading.map first).map second = reading.map (second ∘ first) := by
  rcases reading.eq_done_or_error with ⟨value, stop, rfl⟩ | ⟨error, stop, rfl⟩
  · rfl
  · rfl

theorem map_follow (reading : Reading α) (next : α → Cursor → Reading β) (change : β → γ) :
    (Reader.follow reading next).map change =
      Reader.follow reading fun value place => (next value place).map change := by
  rcases reading.eq_done_or_error with ⟨value, stop, rfl⟩ | ⟨error, stop, rfl⟩
  · rfl
  · rfl

theorem follow_map (reading : Reading α) (change : α → β) (next : β → Cursor → Reading γ) :
    Reader.follow (reading.map change) next =
      Reader.follow reading fun value place => next (change value) place := by
  rcases reading.eq_done_or_error with ⟨value, stop, rfl⟩ | ⟨error, stop, rfl⟩
  · rfl
  · rfl

end Reading

namespace Parser

variable {π : Type}

/-- What a body amounts to behind constituents that were read before it. -/
def behind (nodes : Tree π) (found : Tree π × BodyEnd) : Tree π × BodyEnd :=
  (nodes ++ found.1, found.2)

theorem behind_nil : behind ([] : Tree π) = id := rfl

theorem behind_comp (first second : Tree π) :
    behind first ∘ behind second = behind (first ++ second) := by
  funext found
  simp [behind]

/-! ## Bodies that go on -/

/-- A body that begins with an expression goes on behind it. -/
theorem bodyFrom_of_expression {reader : Reader (Node π)} {cursor brace close : Cursor}
    {run : List Char} {node : Node π} (read : literalRun cursor = (run, brace))
    (opening : brace.peek? = some '{') (inner : reader.run brace.advance = .done node close)
    (closing : close.peek? = some '}') :
    bodyFrom (some reader) cursor =
      (bodyFrom (some reader) close.advance).map (behind (Literal.nodes run ++ [node])) := by
  rw [bodyFrom_eq, read]
  simp only [opening, Char.reduceEq, if_false, inner, Reader.follow_done_eq,
    closing, if_true]
  congr 1
  funext found
  simp [behind]

/-- A run of literal text stands in front of the body that the next expression begins. -/
theorem bodyFrom_of_run {expression : Option (Reader (Node π))} {cursor place : Cursor}
    {run : List Char} (spans : cursor.Spans run place) (proper : IsLiteralRun run)
    (opening : place.peek? = some '{') (unescaped : run.getLast? ≠ some '\\') :
    bodyFrom expression cursor =
      (bodyFrom expression place).map (behind (Literal.nodes run)) := by
  have read : literalRun cursor = (run, place) :=
    literalRun_eq_iff.mpr ⟨spans, proper, .inr ⟨.inl opening, unescaped⟩⟩
  have nothing : literalRun place = ([], place) :=
    literalRun_eq_iff.mpr ⟨.refl place, isLiteralRun_nil, .inr ⟨.inl opening, by simp⟩⟩
  rw [bodyFrom_eq, bodyFrom_eq expression place, read, nothing]
  simp only [opening, Char.reduceEq, if_false]
  cases expression with
  | none => rfl
  | some reader =>
    dsimp only
    rw [Reading.map_follow]
    congr 1
    funext node stop
    split
    · rw [Reading.map_map]
      rfl
    · rfl

/-- A body that is read to the end of the text is cut behind its last expression: whatever
stands there instead of its last run, the reading up to there is the same. -/
theorem exists_front {expression : Option (Reader (Node π))}
    (inner : ∀ reader, expression = some reader → reader.Local) {cursor stop : Cursor}
    {tree : Tree π} (found : bodyFrom expression cursor = .done (tree, .input) stop) :
    ∃ front last nodes, cursor.rest = front ++ last ∧ IsLiteralRun last ∧
      tree = nodes ++ Literal.nodes last ∧ ∀ other place : Cursor, other.Spans front place →
        bodyFrom expression other = (bodyFrom expression place).map (behind nodes) := by
  induction size_eq : cursor.rest.length using Nat.strongRecOn generalizing cursor tree with
  | ind size inductionHypothesis =>
  obtain ⟨run, brace, read⟩ : ∃ run brace, literalRun cursor = (run, brace) := ⟨_, _, rfl⟩
  obtain ⟨toBrace, proper, ends⟩ := literalRun_eq_iff.mp read
  rcases (bodyFrom_eq_done_iff read).mp found with ⟨atEnd, rfl, -, -⟩ | ⟨-, -, impossible, -⟩ |
    ⟨opening, reader, node, close, nodes, rfl, expression, closing, following, rfl⟩
  · refine ⟨[], run, [], ?_, proper, rfl, fun other place stay => ?_⟩
    · rw [toBrace.1, atEnd, List.append_nil, List.nil_append]
    · obtain rfl := Cursor.Spans.nil_iff.mp stay
      rw [behind_nil, Reading.map_id_eq]
  · cases impossible
  · obtain ⟨inside, toClose⟩ : ∃ inside, brace.advance.Spans inside close :=
      Reader.reaches_of_done expression
    have toRest : cursor.Spans (run ++ '{' :: (inside ++ ['}'])) close.advance :=
      toBrace.trans (Cursor.Spans.cons_iff.mpr
        ⟨opening, toClose.trans (Cursor.spans_advance closing)⟩)
    have shorter : close.advance.rest.length < size := by
      rw [← size_eq, toRest.length_eq]
      simp only [List.length_append, List.length_cons, List.length_nil]
      omega
    obtain ⟨front, last, nodes, whole, properLast, rfl, onward⟩ :=
      inductionHypothesis _ shorter following rfl
    refine ⟨run ++ '{' :: (inside ++ '}' :: front), last, Literal.nodes run ++ node :: nodes, ?_,
      properLast, by simp, fun other place spans => ?_⟩
    · rw [toRest.1, whole]
      simp
    · obtain ⟨otherBrace, otherToBrace, fromBrace, -⟩ := spans.split
      obtain ⟨otherOpening, fromInside⟩ := Cursor.Spans.cons_iff.mp fromBrace
      obtain ⟨otherClose, otherToClose, fromClose, -⟩ := fromInside.split
      obtain ⟨otherClosing, toPlace⟩ := Cursor.Spans.cons_iff.mp fromClose
      have otherRead : literalRun other = (run, otherBrace) := literalRun_eq_iff.mpr
        ⟨otherToBrace, proper, .inr ⟨.inl otherOpening, ends.unescaped opening⟩⟩
      have otherInner : reader.run otherBrace.advance = .done node otherClose := by
        have moved := inner reader rfl brace.advance otherBrace.advance otherClose
        rw [expression] at moved
        exact moved ⟨inside, toClose, otherToClose, otherClosing.trans closing.symm⟩
      rw [bodyFrom_of_expression otherRead otherOpening otherInner otherClosing,
        onward _ _ toPlace, Reading.map_map, behind_comp]
      simp

/-- Where another template may follow: nothing stands before it, or no literal text does, or it
begins with an expression whose brace is not escaped. -/
def Joins (text : List Char) (tree : Tree π) (next : Option Char) : Prop :=
  text = [] ∨ (∃ node, tree.getLast? = some node ∧ ¬node.IsLiteral) ∨
    next = some '{' ∧ text.getLast? ≠ some '\\'

/-- A body behind a template is read as if it stood alone. -/
theorem bodyFrom_append {expression : Option (Reader (Node π))}
    (inner : ∀ reader, expression = some reader → reader.Local) {cursor stop other place : Cursor}
    {tree : Tree π} (found : bodyFrom expression cursor = .done (tree, .input) stop)
    (spans : other.Spans cursor.rest place) (joins : Joins cursor.rest tree place.peek?) :
    bodyFrom expression other = (bodyFrom expression place).map (behind tree) := by
  obtain ⟨front, last, nodes, whole, proper, rfl, onward⟩ := exists_front inner found
  rw [whole] at spans joins
  obtain ⟨middle, toMiddle, toPlace, -⟩ := spans.split
  rw [onward other middle toMiddle]
  by_cases empty : last = []
  · subst empty
    obtain rfl := Cursor.Spans.nil_iff.mp toPlace
    rw [show (Literal.nodes [] : Tree π) = [] from rfl, List.append_nil]
  · obtain ⟨parts, literal⟩ := Literal.nodes_eq_literal (π := π) empty
    obtain ⟨opening, unescaped⟩ : place.peek? = some '{' ∧ last.getLast? ≠ some '\\' := by
      rcases joins with nothing | ⟨node, final, plain⟩ | ⟨opening, unescaped⟩
      · exact absurd (List.append_eq_nil_iff.mp nothing).2 empty
      · rw [literal, List.getLast?_concat] at final
        obtain rfl := Option.some.inj final
        exact absurd ⟨parts, rfl⟩ plain
      · rw [List.getLast?_append_of_ne_nil _ empty] at unescaped
        exact ⟨opening, unescaped⟩
    rw [bodyFrom_of_run toPlace proper opening unescaped, Reading.map_map, behind_comp]

/-- A template behind another one is read as if it stood alone. -/
theorem message_append {parser : Parser π} (kinds : parser.kinds.IsLocal)
    {cursor stop other place : Cursor} {tree : Tree π}
    (found : (parser.body parser.maxDepth).run cursor = .done (tree, .input) stop)
    (spans : other.Spans cursor.rest place) (joins : Joins cursor.rest tree place.peek?) :
    parser.message.run other = (parser.message.run place).map (tree ++ ·) := by
  obtain ⟨expression, readers, bodyEq⟩ := exists_expression kinds parser.maxDepth
  rw [bodyEq] at found
  have append := bodyFrom_append readers found spans joins
  simp only [message, Reader.run_bind, bodyEq]
  change Reader.follow (bodyFrom expression other) _ =
    (Reader.follow (bodyFrom expression place) _).map _
  rw [append, Reading.follow_map, Reading.map_follow]
  congr 1
  funext following after
  obtain ⟨nodes, bodyEnd⟩ := following
  cases bodyEnd with
  | input => rfl
  | close => rfl

/-- What stands behind a template is parsed as if it stood alone, and its errors show where they
are in the whole text. -/
theorem parse_append_of_isLocal {parser : Parser π} (kinds : parser.kinds.IsLocal)
    {first second : String} {tree : Tree π} (parsed : parser.parse first = .ok tree)
    (joins : Joins first.toList tree second.toList.head?) :
    (∀ following, parser.parse second = .ok following →
        parser.parse (first ++ second) = .ok (tree ++ following)) ∧
      ∀ error, parser.parse second = .error error → parser.parse (first ++ second) =
        .error ⟨error.fault, error.position + first.length⟩ := by
  obtain ⟨stop, found⟩ := parse_eq_ok_iff_body.mp parsed
  have spans : (Cursor.start (first ++ second)).Spans (Cursor.start first).rest
      ((Cursor.start second).after first.toList) := by
    constructor
    · simp [Cursor.start, Cursor.after]
    · simp [Cursor.start, Cursor.after]
  have append := message_append kinds found spans joins
  rw [(local_message kinds).run_after] at append
  constructor
  · intro following read
    rw [parse, append, Reading.movedTo,
      show (parser.message.run (.start second)).1 = .ok following from read]
    rfl
  · intro error failed
    obtain ⟨place, read, positioned⟩ := (parse_eq_error_iff kinds).mp failed
    rw [parse, append, read, Reading.movedTo_fail, ← positioned, ← String.length_toList,
      Reading.fail_cursor, ← Cursor.position_after]
    rfl

/-- With the built-in kinds only, a template may be continued behind nothing, behind an
expression, and, if it does not end with a backslash, by an expression. If what follows is a
template, the whole is parsed to the constituents of both; if it is not, the whole has the error
of what follows, as many characters later as the template is long. -/
theorem parse_append (maxDepth : Nat) (first second : String) (tree : Tree π)
    (parsed : Parser.parse { maxDepth } first = .ok tree)
    (joins : first = "" ∨ (∃ node, tree.getLast? = some node ∧ ¬node.IsLiteral) ∨
      second.toList.head? = some '{' ∧ first.toList.getLast? ≠ some '\\') :
    (∀ following : Tree π, Parser.parse { maxDepth } second = .ok following →
        Parser.parse { maxDepth } (first ++ second) = .ok (tree ++ following)) ∧
      ∀ fault position,
        (Parser.parse { maxDepth } second : Except ParseError (Tree π)) =
          .error ⟨fault, position⟩ →
        (Parser.parse { maxDepth } (first ++ second) : Except ParseError (Tree π)) =
          .error ⟨fault, position + first.length⟩ := by
  have seam : Joins first.toList tree second.toList.head? := by
    rcases joins with empty | plain | opening
    · exact .inl (String.toList_eq_nil_iff.mpr empty)
    · exact .inr (.inl plain)
    · exact .inr (.inr opening)
  obtain ⟨read, failed⟩ := parse_append_of_isLocal KindRegistry.isLocal_empty parsed seam
  exact ⟨read, fun fault position => failed ⟨fault, position⟩⟩

/-- A template that ends with an escaped brace, behind it an expression and literal text, and an
expression and a brace that closes nothing. -/
theorem parse_append_escapedBrace :
    (Parser.parse { maxDepth := 1 } "\x7bn\x7da\\\x7b" : Except ParseError (Tree Unit)) =
        .ok [.var "n", .literal [.text "a\x7b"]] ∧
      "\x7bm\x7d#".toList.head? = some '{' ∧ "\x7bn\x7da\\\x7b".toList.getLast? ≠ some '\\' ∧
      (Parser.parse { maxDepth := 1 } "\x7bm\x7d#" : Except ParseError (Tree Unit)) =
        .ok [.var "m", .literal [.pound]] ∧
      (Parser.parse { maxDepth := 1 } "\x7bn\x7da\\\x7b\x7bm\x7d#" : Except ParseError (Tree Unit)) =
        .ok [.var "n", .literal [.text "a\x7b"], .var "m", .literal [.pound]] ∧
      (Parser.parse { maxDepth := 1 } "\x7bm\x7d\x7d" : Except ParseError (Tree Unit)) =
        .error ⟨.unbalancedBraces, 3⟩ ∧
      (Parser.parse { maxDepth := 1 } "\x7bn\x7da\\\x7b\x7bm\x7d\x7d" :
        Except ParseError (Tree Unit)) = .error ⟨.unbalancedBraces, 9⟩ := by
  have parsed : (Parser.parse { maxDepth := 1 } "\x7bn\x7da\\\x7b" :
      Except ParseError (Tree Unit)) = .ok [.var "n", .literal [.text "a\x7b"]] := by cbv
  have opening : "\x7bm\x7d#".toList.head? = some '{' := by decide
  have unescaped : "\x7bn\x7da\\\x7b".toList.getLast? ≠ some '\\' := by decide
  have following : (Parser.parse { maxDepth := 1 } "\x7bm\x7d#" : Except ParseError (Tree Unit)) =
      .ok [.var "m", .literal [.pound]] := by cbv
  have failed : (Parser.parse { maxDepth := 1 } "\x7bm\x7d\x7d" : Except ParseError (Tree Unit)) =
      .error ⟨.unbalancedBraces, 3⟩ := by cbv
  have joins : "\x7bm\x7d\x7d".toList.head? = some '{' := by decide
  exact ⟨parsed, opening, unescaped, following,
    (parse_append 1 _ _ _ parsed (.inr (.inr ⟨opening, unescaped⟩))).1 _ following, failed,
    (parse_append 1 _ _ _ parsed (.inr (.inr ⟨joins, unescaped⟩))).2 _ _ failed⟩

end Parser

end MessageTemplate
