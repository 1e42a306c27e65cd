import MessageTemplate.Proofs.Routines

/-!
# Parsing by index

The parser as a scan. Bodies and choices are loops over an index, expressions are built from the
scans of words, and the halves of registered kinds are routines that call the methods of scanning.
The scan does what the parser does, and on no template does a check of an index fail.
-/

namespace MessageTemplate

/-- Of each registered kind that reads expressions, the parsing half runs the routine of the kind
and the key. -/
def Parser.RunsRoutines {π : Type} (parser : Parser π) (routines : String → String → Routine π) :
    Prop :=
  ∀ kind registered parse, parser.kinds.get? kind = some registered →
    registered.parse? = some parse → ∀ key, parse key = (routines kind key).reader

namespace Scan

variable {π : Type}

/-! ## Bodies and choices -/

/-- One round of a body. -/
def bodyRound (expression : Option (Scan (Node π))) (again : Unit → Scan (Tree π × BodyEnd))
    (_ : Unit) : Scan (Tree π × BodyEnd) := do
  let text ← literal
  match ← peek with
  | none => pure (text, .input)
  | some next =>
    if next = '}' then pure (text, .close)
    else
      match expression with
      | none => fail .maxDepthExceeded
      | some scan =>
        advance
        let node ← scan
        expect '}' .unbalancedBraces
        advance
        let (nodes, bodyEnd) ← again ()
        pure (text ++ node :: nodes, bodyEnd)

/-- A body, up to an unescaped `}` that closes no expression of it, or to the end. -/
def bodyOf (expression : Option (Scan (Node π))) : Scan (Tree π × BodyEnd) :=
  fix (bodyRound expression) ()

/-- A choice body between its braces. -/
def choiceBody (body : Scan (Tree π × BodyEnd)) : Scan (Tree π) := do
  let (tree, bodyEnd) ← body
  match bodyEnd with
  | .input => fail .unbalancedBraces
  | .close =>
    advance
    skipBlanks
    return tree

/-- The name of a choice, which is not in `seen`, and the offset before it. -/
def choiceHead (offsetAllowed : Bool) (seen : List String) : Scan (String × UInt64) := do
  let first ← choiceName
  let (name, offset) ←
    if (← peek) = some ':' then
      if !offsetAllowed then fail .unexpectedExtension
      else if first ≠ "offset" then fail (.unsupportedExtension first)
      else if !seen.isEmpty then fail .unexpectedExtension
      else
        advance
        let offset ← offset
        let name ← choiceName.relabel .missingChoiceName
        pure (name, offset)
    else pure (first, 0)
  expect '{' .missingChoiceContent
  if seen.contains name then fail (.duplicateChoice name) else pure (name, offset)

/-- What choices amount to once the last one is scanned. -/
def finish (seen : List String) : Scan (Choices π × UInt64) :=
  if seen.contains otherChoice then pure ([], 0) else fail .missingMandatoryChoice

/-- One round of the choices behind those whose names are in `seen`. -/
def choicesRound (body : Scan (Tree π × BodyEnd)) (offsetAllowed : Bool)
    (again : List String → Scan (Choices π × UInt64)) (seen : List String) :
    Scan (Choices π × UInt64) := do
  if (← peek) = none then finish seen
  else
    let (name, offset) ← choiceHead offsetAllowed seen
    advance
    let tree ← choiceBody body
    let (others, _) ←
      if (← peek) = some '}' then finish (name :: seen) else again (name :: seen)
    pure ((name, tree) :: others, offset)

/-- The choices of an expression after its kind. -/
def choices (body : Scan (Tree π × BodyEnd)) (offsetAllowed : Bool) :
    Scan (Choices π × UInt64) := do
  expect ',' .malformedOption
  advance
  fix (choicesRound body offsetAllowed) []

/-! ## Expressions -/

/-- The width of a date after the kind. -/
def dateWidth : Scan DateWidth := do
  expect ',' .malformedOption
  advance
  let name ← identifier
  match DateWidth.ofName? name with
  | some width => pure width
  | none => fail .invalidDateFormat

/-- The rest of an expression of a kind that is not built in. -/
def customNode (parser : Parser π) (routines : String → String → Routine π)
    (key kind : String) : Scan (Node π) := do
  match parser.kinds.get? kind with
  | none => fail (.unknownType kind)
  | some registered =>
    match registered.parse? with
    | none => fail (.undefinedParseFunc kind)
    | some _ =>
      let payload ← (routines kind key).scan
      pure (.custom kind key payload)

/-- The inside of an expression whose choice bodies `body` scans. -/
def expressionOf (parser : Parser π) (routines : String → String → Routine π)
    (body : Scan (Tree π × BodyEnd)) : Scan (Node π) := do
  let key ← identifier
  if key.isEmpty then fail .missingVarName
  else if (← peek) = some '}' then pure (.var key)
  else
    advance
    let kind ← identifier
    if kind = "plural" then
      let (choices, offset) ← choices body true
      pure (.plural key choices offset)
    else if kind = "select" then
      let (choices, _) ← choices body false
      pure (.select key choices)
    else if kind = "selectordinal" then
      let (choices, _) ← choices body false
      pure (.selectOrdinal key choices)
    else if kind = "date" then
      let width ← dateWidth
      pure (.date key width)
    else customNode parser routines key kind

/-- A body in which `depth` more expressions may be open at once. -/
def body (parser : Parser π) (routines : String → String → Routine π) :
    Nat → Scan (Tree π × BodyEnd)
  | 0 => bodyOf none
  | depth + 1 => bodyOf (some (expressionOf parser routines (body parser routines depth)))

/-- A whole template. -/
def message (parser : Parser π) (routines : String → String → Routine π) : Scan (Tree π) := do
  let (tree, bodyEnd) ← body parser routines parser.maxDepth
  match bodyEnd with
  | .input => pure tree
  | .close => fail .unbalancedBraces

/-! ## What is scanned -/

/-- Expressions that agree make bodies that agree. -/
theorem agrees_bodyOf {expression : Option (Scan (Node π))}
    {reader? : Option (Reader (Node π))} (agree : Option.Rel Agrees expression reader?) :
    (bodyOf expression).Agrees (Parser.bodyOf reader?) := by
  intro cursor
  refine finds_fix (fun _ place reading => reading = (Parser.bodyOf reader?).run place) ?round rfl
  rintro again - cursor _ rfl onward
  rw [Parser.bodyOf_eq, Reader.run_bind, Parser.run_literal, Reader.follow_done_eq]
  have toBrace := Parser.reaches_literalRun cursor
  apply (finds_literal cursor).step toBrace
  rw [Reader.run_bind, Reader.run_peek, Reader.follow_done_eq]
  apply (finds_peek _).step (.refl _)
  cases present : (Parser.literalRun cursor).2.peek? with
  | none => exact finds_pure _ _
  | some next =>
    dsimp only
    by_cases closes : next = '}'
    · rw [if_pos closes, if_pos closes]
      exact finds_pure _ _
    rw [if_neg closes, if_neg closes]
    cases agree with
    | none => exact finds_fail _ _
    | some agree =>
      refine Finds.bind (finds_advance _) fun _ inside advanced => ?_
      refine Finds.bind (agree inside) fun node stop read => ?_
      refine Finds.bind (agrees_expect _ _ stop) fun _ close expected => ?_
      refine Finds.bind (finds_advance close) fun _ behind passed => ?_
      obtain ⟨-, rfl⟩ := Reading.done_inj.mp advanced
      obtain ⟨-, rfl⟩ := Reader.expect_eq_done_iff.mp expected
      obtain ⟨-, rfl⟩ := Reading.done_inj.mp passed
      -- The brace before the expression is passed, so the body goes on further on.
      have shorter := Parser.rest_length_lt_of_expression present read
      have reached := ((toBrace.trans (Cursor.reaches_advance _)).trans
        (Reader.reaches_of_done read)).trans close.reaches_advance
      refine Finds.bind ?again fun _ _ _ => finds_pure _ _
      exact onward () _ _ reached (reached.position_lt_iff.mpr shorter) rfl

/-! ### Choices -/

theorem agrees_choiceBody {body : Scan (Tree π × BodyEnd)} {reader : Reader (Tree π × BodyEnd)}
    (agrees : body.Agrees reader) : (choiceBody body).Agrees (Parser.choiceBody reader) := by
  refine agrees.bind ?_
  rintro ⟨tree, _ | _⟩
  · exact agrees_fail _
  · exact Agrees.bind finds_advance fun _ =>
      Agrees.bind finds_skipBlanks fun _ => agrees_pure tree

theorem agrees_choiceHead (offsetAllowed : Bool) (seen : List String) :
    (choiceHead offsetAllowed seen).Agrees (Parser.choiceHead offsetAllowed seen) := by
  refine Agrees.bind finds_choiceName fun first => ?_
  refine Agrees.bind finds_peek fun next => ?_
  have complete (name : String) (offset : UInt64) :
      (do
        expect '{' .missingChoiceContent
        if seen.contains name then fail (.duplicateChoice name)
        else pure (name, offset) : Scan (String × UInt64)).Agrees (do
          .expect '{' .missingChoiceContent
          if seen.contains name then .fail (.duplicateChoice name) else pure (name, offset)) :=
    Agrees.bind (agrees_expect _ _) fun _ => .ite (agrees_fail _) (agrees_pure _)
  have refused (fault : ParseFault) := agrees_fail (α := String × UInt64) fault
  refine .ite (.ite ?notAllowed (.ite ?unsupported (.ite ?late ?extension))) ?plain
  case notAllowed | unsupported | late => exact (refused _).bind fun head => complete head.1 head.2
  case extension =>
    refine Agrees.bind finds_advance fun _ => Agrees.bind finds_offset fun offset => ?_
    refine (Agrees.relabel finds_choiceName _).bind fun name => ?_
    exact (agrees_pure (name, offset)).bind fun head => complete head.1 head.2
  case plain => exact (agrees_pure (first, 0)).bind fun head => complete head.1 head.2

theorem agrees_finish (seen : List String) :
    (finish (π := π) seen).Agrees (Parser.finish seen) := by
  rw [Parser.finish_eq]
  exact .ite (agrees_pure _) (agrees_fail _)

theorem agrees_choicesOf {body : Scan (Tree π × BodyEnd)} {reader : Reader (Tree π × BodyEnd)}
    (agrees : body.Agrees reader) (offsetAllowed : Bool) (seen : List String) :
    (fix (choicesRound body offsetAllowed) seen).Agrees
      (Parser.choicesOf reader offsetAllowed seen) := by
  intro cursor
  refine finds_fix
    (fun seen place reading => reading = (Parser.choicesOf reader offsetAllowed seen).run place)
    ?round rfl
  rintro again seen cursor _ rfl onward
  rw [Parser.choicesOf_eq, Reader.run_bind, Reader.run_peek, Reader.follow_done_eq]
  apply (finds_peek _).step (.refl _)
  by_cases empty : cursor.peek? = none
  · rw [if_pos empty, if_pos empty]
    exact agrees_finish seen cursor
  rw [if_neg empty, if_neg empty]
  refine Finds.bind (agrees_choiceHead offsetAllowed seen cursor) fun head brace found => ?_
  refine Finds.bind (finds_advance brace) fun _ inside advanced => ?_
  obtain ⟨-, rfl⟩ := Reading.done_inj.mp advanced
  refine Finds.bind (agrees_choiceBody agrees _) fun tree place read => ?_
  -- A choice is not empty, so the next one begins further on.
  have shorter := Parser.rest_length_lt_of_choice (mt cursor.atEnd_iff.mp empty) found read
  have reached := ((Reader.reaches_of_done found).trans brace.reaches_advance).trans
    (Reader.reaches_of_done read)
  rw [Reader.run_bind, Reader.run_peek, Reader.follow_done_eq]
  apply (finds_peek _).step (.refl _)
  dsimp only
  split
  · exact Finds.bind (agrees_finish _ _) fun _ _ _ => finds_pure _ _
  · refine Finds.bind ?again fun _ _ _ => finds_pure _ _
    exact onward _ _ _ reached (reached.position_lt_iff.mpr shorter) rfl

theorem agrees_choices {body : Scan (Tree π × BodyEnd)} {reader : Reader (Tree π × BodyEnd)}
    (agrees : body.Agrees reader) (offsetAllowed : Bool) :
    (choices body offsetAllowed).Agrees (Parser.choices reader offsetAllowed) :=
  (agrees_expect _ _).bind fun _ => Agrees.bind finds_advance fun _ =>
    agrees_choicesOf agrees offsetAllowed []

/-! ### Expressions -/

theorem agrees_dateWidth : dateWidth.Agrees Parser.dateWidth := by
  refine (agrees_expect _ _).bind fun _ => Agrees.bind finds_advance fun _ => ?_
  refine Agrees.bind finds_identifier fun name => ?_
  cases DateWidth.ofName? name with
  | none => exact agrees_fail _
  | some width => exact agrees_pure width

theorem agrees_customNode {parser : Parser π} {routines : String → String → Routine π}
    (runs : parser.RunsRoutines routines) (key kind : String) :
    (customNode parser routines key kind).Agrees (parser.customNode key kind) := by
  unfold customNode Parser.customNode
  cases known : parser.kinds.get? kind with
  | none => exact agrees_fail _
  | some registered =>
    dsimp only
    cases reads : registered.parse? with
    | none => exact agrees_fail _
    | some parse =>
      have agrees := (routines kind key).agrees
      rw [← runs kind registered parse known reads key] at agrees
      exact agrees.bind fun _ => agrees_pure _

theorem agrees_expressionOf {parser : Parser π} {routines : String → String → Routine π}
    (runs : parser.RunsRoutines routines) {body : Scan (Tree π × BodyEnd)}
    {reader : Reader (Tree π × BodyEnd)} (agrees : body.Agrees reader) :
    (expressionOf parser routines body).Agrees (parser.expressionOf reader) := by
  refine Agrees.bind finds_identifier fun key => .ite (agrees_fail _) ?_
  refine Agrees.bind finds_peek fun next => .ite (agrees_pure _) ?_
  refine Agrees.bind finds_advance fun _ => Agrees.bind finds_identifier fun kind => ?_
  have choices (offsetAllowed : Bool) := agrees_choices agrees offsetAllowed
  refine .ite ?plural (.ite ?select (.ite ?selectOrdinal (.ite ?date ?custom)))
  case plural => exact (choices true).bind fun _ => agrees_pure _
  case select | selectOrdinal => exact (choices false).bind fun _ => agrees_pure _
  case date => exact agrees_dateWidth.bind fun _ => agrees_pure _
  case custom => exact agrees_customNode runs key kind

/-! ### Templates -/

theorem agrees_body {parser : Parser π} {routines : String → String → Routine π}
    (runs : parser.RunsRoutines routines) (depth : Nat) :
    (body parser routines depth).Agrees (parser.body depth) := by
  induction depth with
  | zero => exact agrees_bodyOf .none
  | succ depth inductionHypothesis =>
    exact agrees_bodyOf (.some (agrees_expressionOf runs inductionHypothesis))

theorem agrees_message {parser : Parser π} {routines : String → String → Routine π}
    (runs : parser.RunsRoutines routines) : (message parser routines).Agrees parser.message := by
  refine (agrees_body runs parser.maxDepth).bind ?_
  rintro ⟨tree, _ | _⟩
  · exact agrees_pure tree
  · exact agrees_fail _

/-- Scanning a template by index, all indices that are used are in range: the cursor never moves
back nor beyond the end, the slices that words are cut out by and the ranges of literal text lie in
the text and end no sooner than they begin, the segments of a run of literal text do so too, and
nothing is taken from a smaller index. What is scanned is what the parser reads, be it a tree or an
error. This holds under every nesting limit and with all registered kinds that only call methods of
scanning to read an expression. -/
theorem run_message {parser : Parser π} {routines : String → String → Routine π}
    (runs : parser.RunsRoutines routines) (template : String) :
    ∃ stop ≤ template.toList.length,
      (message parser routines).run template.toList 0 = .ok (parser.parse template, stop) := by
  have whole : (Cursor.start template).characters = template.toList := rfl
  have reached := parser.message.reaches (.start template)
  have within := (parser.message.run (.start template)).2.position_le_length
  rw [reached.characters_eq, whole] at within
  have found := agrees_message runs (.start template)
  rw [Finds, whole] at found
  exact ⟨_, within, found⟩

/-- A parser with one registered kind, which takes the text up to a `}`. -/
def restParser : Parser String :=
  ⟨⟨[("rest", ⟨some fun _ => .takeUntil (· = '}'), none⟩)]⟩, 2⟩

theorem runsRoutines_restParser :
    restParser.RunsRoutines fun _ _ => .takeUntil (· = '}') := by
  intro kind registered parse known reads key
  rw [Routine.reader_takeUntil]
  change List.lookup kind [("rest", _)] = some registered at known
  rw [List.lookup_cons] at known
  split at known
  · obtain rfl := Option.some.inj known
    obtain rfl := Option.some.inj reads
    rfl
  · cases known

/-- An escaped `#`, and an expression of the registered kind in a choice. -/
theorem run_message_restParser :
    restParser.RunsRoutines (fun _ _ => .takeUntil (· = '}')) ∧
      ∃ stop ≤ 39,
        (message restParser fun _ _ => .takeUntil (· = '}')).run
            "a\\# \x7bn, plural, other\x7b# \x7bw, rest, b \x7d\x7d\x7d".toList 0 =
          .ok (.ok [.literal [.text "a# "], .plural "n"
            [("other", [.literal [.pound, .text " "], .custom "rest" "w" ", b "])] 0], stop) := by
  have parsed : restParser.parse
      "a\\# \x7bn, plural, other\x7b# \x7bw, rest, b \x7d\x7d\x7d" =
        .ok [.literal [.text "a# "], .plural "n"
          [("other", [.literal [.pound, .text " "], .custom "rest" "w" ", b "])] 0] := by
    with_unfolding_all rfl
  have scanned := run_message runsRoutines_restParser
    "a\\# \x7bn, plural, other\x7b# \x7bw, rest, b \x7d\x7d\x7d"
  rw [parsed] at scanned
  exact ⟨runsRoutines_restParser, scanned⟩

end Scan

end MessageTemplate
