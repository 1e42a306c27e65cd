import MessageTemplate.Proofs.Backslashes
import MessageTemplate.Proofs.Occurrences

/-!
# Where literal text is scanned

The places at which a parser turns to literal text on its way through a template: where a body
begins, and behind each expression of it. They are followed call by call, so they are known also
for a template in which a fault is found. From each of them the parser scans one run of literal
text, and in that run every brace is escaped. All literal text of a tree comes from these runs.
-/

namespace MessageTemplate

/-- The text between two places is the slice between their positions. -/
theorem Cursor.Spans.slice?_eq {first earlier later : Cursor} {text : List Char}
    (spans : earlier.Spans text later) (reached : first.Reaches earlier) :
    first.slice? earlier.position later.position = some (String.ofList text) := by
  have whole : first.characters = earlier.passed.reverse ++ (text ++ later.rest) := by
    rw [← reached.characters_eq, characters, spans.1]
  have near : earlier.position = earlier.passed.reverse.length := by simp [position]
  rw [slice?, if_pos ?inside, whole, near, spans.position_eq, near, List.take_append,
    List.take_of_length_le (by omega), List.drop_left]
  · simp
  · rw [whole, spans.position_eq, near]
    simp

namespace Parser

variable {π : Type}

/-! ## Calls of the parser -/

/-- Reading choices from a place on, the reader begins the body of a choice at a place. -/
inductive BeginsChoice (body : Reader (Tree π × BodyEnd)) (offsetAllowed : Bool) :
    List String → Cursor → Cursor → Prop where
  | first {seen : List String} {cursor brace : Cursor} {head : String × UInt64}
      (unfinished : ¬cursor.atEnd)
      (found : (choiceHead offsetAllowed seen).run cursor = .done head brace) :
      BeginsChoice body offsetAllowed seen cursor brace.advance
  | further {seen : List String} {cursor brace stop place : Cursor} {head : String × UInt64}
      {tree : Tree π} (unfinished : ¬cursor.atEnd)
      (found : (choiceHead offsetAllowed seen).run cursor = .done head brace)
      (read : (choiceBody body).run brace.advance = .done tree stop)
      (unclosed : stop.peek? ≠ some '}')
      (rest : BeginsChoice body offsetAllowed (head.1 :: seen) stop place) :
      BeginsChoice body offsetAllowed seen cursor place

/-- Reading an expression from a place on, the reader begins the body of a choice at a place. -/
inductive BeginsBody (body : Reader (Tree π × BodyEnd)) (cursor place : Cursor) : Prop where
  | intro (kind : ChoiceKind) {key : String} {middle tail : Cursor}
      (keyed : Reader.identifier.run cursor = .done key middle) (named : key ≠ "")
      (more : middle.peek? ≠ some '}')
      (kinded : Reader.identifier.run middle.advance = .done kind.name tail)
      (comma : tail.peek? = some ',')
      (choice : BeginsChoice body kind.takesOffset [] tail.advance place)

/-- On its way through a template a parser turns to literal text at a place, with `depth` levels
left. -/
inductive TurnsToLiteral (parser : Parser π) (template : String) : Nat → Cursor → Prop where
  | start : TurnsToLiteral parser template parser.maxDepth (.start template)
  | behind {depth : Nat} {cursor stop : Cursor} {node : Node π}
      (turns : TurnsToLiteral parser template (depth + 1) cursor)
      (opening : (literalRun cursor).2.peek? = some '{')
      (read : (parser.expressionOf (parser.body depth)).run (literalRun cursor).2.advance =
        .done node stop)
      (close : stop.peek? = some '}') : TurnsToLiteral parser template (depth + 1) stop.advance
  | inside {depth : Nat} {cursor place : Cursor}
      (turns : TurnsToLiteral parser template (depth + 1) cursor)
      (opening : (literalRun cursor).2.peek? = some '{')
      (begins : BeginsBody (parser.body depth) (literalRun cursor).2.advance place) :
      TurnsToLiteral parser template depth place

theorem BeginsChoice.reaches {body : Reader (Tree π × BodyEnd)} {offsetAllowed : Bool}
    {seen : List String} {cursor place : Cursor}
    (begins : BeginsChoice body offsetAllowed seen cursor place) : cursor.Reaches place := by
  induction begins with
  | @first seen cursor brace head unfinished found =>
    exact (Reader.reaches_of_done found).trans brace.reaches_advance
  | @further seen cursor brace stop place head tree unfinished found read unclosed rest ih =>
    have toBrace := (Reader.reaches_of_done found).trans brace.reaches_advance
    exact (toBrace.trans (Reader.reaches_of_done read)).trans ih

theorem BeginsBody.reaches {body : Reader (Tree π × BodyEnd)} {cursor place : Cursor}
    (begins : BeginsBody body cursor place) : cursor.Reaches place := by
  obtain ⟨kind, keyed, -, -, kinded, -, choice⟩ := begins
  have toTail := ((Reader.reaches_of_done keyed).trans (Cursor.reaches_advance _)).trans
    (Reader.reaches_of_done kinded)
  exact (toTail.trans (Cursor.reaches_advance _)).trans choice.reaches

/-- Every place at which a parser turns to literal text is one of the template. -/
theorem TurnsToLiteral.reaches {parser : Parser π} {template : String} {depth : Nat}
    {cursor : Cursor} (turns : parser.TurnsToLiteral template depth cursor) :
    (Cursor.start template).Reaches cursor := by
  induction turns with
  | start => exact .refl _
  | @behind depth cursor stop node turns opening read close ih =>
    have toBrace := ih.trans (reaches_literalRun cursor)
    have toStop := (toBrace.trans (Cursor.reaches_advance _)).trans (Reader.reaches_of_done read)
    exact toStop.trans stop.reaches_advance
  | @inside depth cursor place turns opening begins ih =>
    have toBrace := ih.trans (reaches_literalRun cursor)
    exact (toBrace.trans (Cursor.reaches_advance _)).trans begins.reaches

/-! ## Where the literal text of a tree comes from -/

/-- Literal text that occurs in the tree of a run is that of the run. -/
theorem eq_parts_of_occurs_nodes {run : List Char} {parts : List LiteralPart}
    (occurs : Tree.Occurs (.literal parts) (Literal.nodes run : Tree π)) :
    parts = Literal.parts run := by
  have member := Tree.mem_of_occurs_nodes occurs
  unfold Literal.nodes at member
  split at member
  · simp at member
  · simpa using member

/-- A choice that was read has a body, which begins where the reader began one. -/
theorem exists_beginsChoice_of_mem {body : Reader (Tree π × BodyEnd)} {offsetAllowed : Bool}
    {seen : List String} {cursor stop : Cursor} {found : Choices π} {offset : UInt64}
    (read : choicesFrom body offsetAllowed seen cursor = .done (found, offset) stop)
    {choice : String × Tree π} (listed : choice ∈ found) :
    ∃ place close, BeginsChoice body offsetAllowed seen cursor place ∧
      body.run place = .done (choice.2, .close) close := by
  induction found generalizing seen cursor offset with
  | nil => simp at listed
  | cons first others inductionHypothesis =>
    rcases choicesFrom_eq_done_iff.mp read with ⟨-, -, none, -⟩ |
      ⟨more, name, tree, _, brace, place, head, inner, same, following⟩
    · cases none
    obtain ⟨rfl, rfl⟩ := List.cons.inj same
    have unfinished : ¬cursor.atEnd := by simpa [Cursor.atEnd] using more
    rcases List.mem_cons.mp listed with rfl | listed
    · obtain ⟨close, read, -⟩ := choiceBody_eq_done_iff.mp inner
      exact ⟨_, close, .first unfinished head, read⟩
    rcases following with ⟨-, -, rfl, -⟩ | ⟨unclosed, ignored, rest⟩
    · simp at listed
    · obtain ⟨place, close, begins, read⟩ := inductionHypothesis rest listed
      exact ⟨place, close, .further unfinished head inner unclosed begins, read⟩

/-- Literal text that occurs in an expression occurs in a body, which begins where the reader
began one. -/
theorem exists_beginsBody_of_occurs {parser : Parser π} {body : Reader (Tree π × BodyEnd)}
    {cursor stop : Cursor} {node : Node π} {parts : List LiteralPart}
    (read : (parser.expressionOf body).run cursor = .done node stop)
    (occurs : Tree.Occurs (.literal parts) [node]) :
    ∃ place close tree, BeginsBody body cursor place ∧
      body.run place = .done (tree, .close) close ∧ tree.Occurs (.literal parts) := by
  rcases occurs_of_expressionOf read occurs with ⟨-, expression⟩ |
    ⟨kind, key, middle, tail, choices, offset, ⟨keyed, named, more, kinded, comma, listed⟩, choice,
      member, within⟩
  · exact absurd ⟨parts, rfl⟩ expression
  · obtain ⟨place, close, begins, read⟩ := exists_beginsChoice_of_mem listed member
    exact ⟨place, close, choice.2, .intro kind keyed named more kinded comma begins, read, within⟩

/-- Literal text that occurs in a body is that of a run which the parser scanned. The induction
is on the levels that are left, and within one level on what is left of the text. -/
theorem TurnsToLiteral.exists_of_occurs {parser : Parser π} {template : String} {depth : Nat}
    {cursor stop : Cursor} {tree : Tree π} {bodyEnd : BodyEnd} {parts : List LiteralPart}
    (turns : parser.TurnsToLiteral template depth cursor)
    (read : (parser.body depth).run cursor = .done (tree, bodyEnd) stop)
    (occurs : tree.Occurs (.literal parts)) :
    ∃ level place, parser.TurnsToLiteral template level place ∧
      parts = Literal.parts (literalRun place).1 := by
  induction depth generalizing cursor stop tree bodyEnd with
  | zero =>
    rcases (bodyFrom_eq_done_iff Prod.mk.eta.symm).mp read with ⟨-, rfl, -⟩ | ⟨-, rfl, -⟩ |
      ⟨-, reader, _, _, _, impossible, -⟩
    · exact ⟨0, cursor, turns, eq_parts_of_occurs_nodes occurs⟩
    · exact ⟨0, cursor, turns, eq_parts_of_occurs_nodes occurs⟩
    · cases impossible
  | succ depth onLevels =>
    induction size_eq : cursor.rest.length using Nat.strongRecOn generalizing cursor tree with
    | ind size onText =>
    rcases (bodyFrom_eq_done_iff Prod.mk.eta.symm).mp read with ⟨-, rfl, -⟩ | ⟨-, rfl, -⟩ |
      ⟨opening, reader, node, place, nodes, same, expression, close, following, rfl⟩
    · exact ⟨depth + 1, cursor, turns, eq_parts_of_occurs_nodes occurs⟩
    · exact ⟨depth + 1, cursor, turns, eq_parts_of_occurs_nodes occurs⟩
    obtain rfl := Option.some.inj same
    rcases Tree.occurs_append_iff.mp occurs with inRun | inRest
    · exact ⟨depth + 1, cursor, turns, eq_parts_of_occurs_nodes inRun⟩
    rcases Tree.occurs_cons_iff.mp inRest with inNode | inTree
    · obtain ⟨start, stop, tree, begins, read, occurs⟩ :=
        exists_beginsBody_of_occurs expression inNode
      exact onLevels (.inside turns opening begins) read occurs
    · exact onText _ (size_eq ▸ rest_length_lt_of_expression opening expression)
        (.behind turns opening expression close) following inTree rfl

/-- The literal text of a parsed tree, at any depth of it, is that of the runs which the parser
scanned. -/
theorem exists_turnsToLiteral_of_parse {parser : Parser π} {template : String} {tree : Tree π}
    (parsed : parser.parse template = .ok tree) {parts : List LiteralPart}
    (occurs : tree.Occurs (.literal parts)) :
    ∃ depth cursor, parser.TurnsToLiteral template depth cursor ∧
      parts = Literal.parts (literalRun cursor).1 := by
  obtain ⟨stop, read⟩ := parse_eq_ok_iff_body.mp parsed
  exact TurnsToLiteral.start.exists_of_occurs read occurs

/-! ## Runs and their parts -/

/-- Whatever a parser makes of a template, each run of literal text that it scans lies in the
template from where it turned to literal text, and every brace of the run is escaped in the run.
The parts of the run are what the rule says, and the literal text of a parsed tree has no other
parts. -/
theorem followsRule_of_turnsToLiteral (parser : Parser π) (template : String) :
    (∀ depth cursor, parser.TurnsToLiteral template depth cursor →
      (Cursor.start template).slice? cursor.position (literalRun cursor).2.position =
          some (String.ofList (literalRun cursor).1) ∧
        IsLiteralRun (literalRun cursor).1 ∧
        Literal.FollowsRule (literalRun cursor).1 (Literal.parts (literalRun cursor).1)) ∧
    ∀ tree, parser.parse template = .ok tree → ∀ parts, tree.Occurs (.literal parts) →
      ∃ depth cursor, parser.TurnsToLiteral template depth cursor ∧
        parts = Literal.parts (literalRun cursor).1 := by
  constructor
  · intro depth cursor turns
    obtain ⟨spans, proper, -⟩ :=
      literalRun_eq_iff.mp (show literalRun cursor = (_, (literalRun cursor).2) from rfl)
    exact ⟨spans.slice?_eq turns.reaches, proper, Literal.followsRule_parts proper⟩
  · intro tree parsed parts occurs
    exact exists_turnsToLiteral_of_parse parsed occurs

/-- A plural whose choice is not closed, since a backslash stands before the last brace. -/
def unclosedChoice : String := "\x7bn,plural,other\x7b\\#\\\\\x7d"

/-- The run in the choice is read although the template is refused: its first backslash goes, and
the two others stay. -/
theorem followsRule_unclosedChoice :
    Parser.parse (π := Unit) { maxDepth := 1 } unclosedChoice = .error ⟨.unbalancedBraces, 21⟩ ∧
      Parser.TurnsToLiteral (π := Unit) { maxDepth := 1 } unclosedChoice 0
        ⟨"\x7bn,plural,other\x7b".toList.reverse, "\\#\\\\\x7d".toList⟩ ∧
      (Cursor.start unclosedChoice).slice? 16 21 = some "\\#\\\\\x7d" ∧
      Literal.FollowsRule "\\#\\\\\x7d".toList [.text "#\\\\\x7d"] := by
  have turns : Parser.TurnsToLiteral (π := Unit) { maxDepth := 1 } unclosedChoice 0
      ⟨"\x7bn,plural,other\x7b".toList.reverse, "\\#\\\\\x7d".toList⟩ := by
    have keyed : Reader.identifier.run (literalRun (.start unclosedChoice)).2.advance =
        .done "n" ⟨"\x7bn".toList.reverse, ",plural,other\x7b\\#\\\\\x7d".toList⟩ := by cbv
    have kinded : Reader.identifier.run
        (Cursor.advance ⟨"\x7bn".toList.reverse, ",plural,other\x7b\\#\\\\\x7d".toList⟩) =
          .done ChoiceKind.plural.name
            ⟨"\x7bn,plural".toList.reverse, ",other\x7b\\#\\\\\x7d".toList⟩ := by cbv
    have headed : (choiceHead true []).run
        (Cursor.advance ⟨"\x7bn,plural".toList.reverse, ",other\x7b\\#\\\\\x7d".toList⟩) =
          .done ("other", 0) ⟨"\x7bn,plural,other".toList.reverse, "\x7b\\#\\\\\x7d".toList⟩ := by
      with_unfolding_all rfl
    exact .inside .start (by cbv) (.intro .plural keyed (by decide) (by decide) kinded (by cbv)
      (.first (by decide) headed))
  obtain ⟨inTemplate, -, rule⟩ := (followsRule_of_turnsToLiteral { maxDepth := 1 }
    unclosedChoice).1 0 _ turns
  exact ⟨by with_unfolding_all rfl, turns, inTemplate, rule⟩

end Parser

end MessageTemplate
