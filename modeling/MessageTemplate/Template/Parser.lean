import MessageTemplate.Kind.Registry
import MessageTemplate.Template.Literal
import MessageTemplate.Template.Token

/-!
# Parsing templates

Reads a template into a tree. A body alternates runs of literal text and expressions; the
choices of an expression are bodies again. The nesting limit counts the expressions that are
open at once, and the recursion over bodies follows what is left of it; within one body the
recursion follows what is left of the text.
-/

namespace MessageTemplate

/-- Where a body ended. -/
inductive BodyEnd where
  /-- At the end of the text. -/
  | input
  /-- Before an unescaped `}`. -/
  | close
  deriving DecidableEq, Repr

/-- A template parser. -/
structure Parser (π : Type) where
  /-- Expression kinds beyond the built-in ones. -/
  kinds : KindRegistry π := .empty
  /-- How many expressions may be open at once. -/
  maxDepth : Nat := 64

/-- The kinds that every parser reads. -/
def builtinKinds : List String := ["plural", "select", "selectordinal", "date"]

namespace Parser

variable {π : Type}

/-- The kinds that a parser reads. -/
def knownKinds (parser : Parser π) : List String := builtinKinds ++ parser.kinds.names

/-- Read on in a run of literal text after `run`, last character first; `escaped` records
that a backslash of the run comes last. -/
def literalRunFrom (run : List Char) (escaped : Bool) (passed : List Char) :
    List Char → List Char × Cursor
  | [] => (run.reverse, ⟨passed, []⟩)
  | character :: rest =>
    if (character = '{' || character = '}') && !escaped then
      (run.reverse, ⟨passed, character :: rest⟩)
    else literalRunFrom (character :: run) (character = '\\') (character :: passed) rest

theorem reaches_literalRunFrom (run : List Char) (escaped : Bool) (passed rest : List Char) :
    Cursor.Reaches ⟨passed, rest⟩ (literalRunFrom run escaped passed rest).2 := by
  fun_induction literalRunFrom run escaped passed rest with
  | case1 | case2 => exact .refl _
  | case3 run escaped passed character rest _ ih =>
    exact (Cursor.Reaches.step passed rest character).trans ih

/-- The run of literal text up to the first unescaped brace, or to the end. -/
def literalRun (cursor : Cursor) : List Char × Cursor :=
  literalRunFrom [] false cursor.passed cursor.rest

theorem reaches_literalRun (cursor : Cursor) : cursor.Reaches (literalRun cursor).2 :=
  reaches_literalRunFrom [] false cursor.passed cursor.rest

/-- Read a body. The reader `expression` starts after the `{` of an expression and stops before
its `}`; without one no expression may be open here, and an opening brace is a fault. -/
def bodyFrom (expression : Option (Reader (Node π))) (cursor : Cursor) :
    Reading (Tree π × BodyEnd) :=
  let literal := Literal.nodes (literalRun cursor).1
  let brace := (literalRun cursor).2
  match _next : brace.peek? with
  | none => .done (literal, .input) brace
  | some next =>
    if next = '}' then .done (literal, .close) brace
    else
      match expression with
      | none => .fail .maxDepthExceeded brace
      | some reader =>
        match _read : reader.run brace.advance with
        | (.error error, stop) => (.error error, stop)
        | (.ok node, stop) =>
          if stop.peek? = some '}' then
            (bodyFrom expression stop.advance).map fun (nodes, bodyEnd) =>
              (literal ++ node :: nodes, bodyEnd)
          else .fail .unbalancedBraces stop
termination_by cursor.rest.length
decreasing_by
  have toBrace : brace.rest.length ≤ cursor.rest.length :=
    (reaches_literalRun cursor).rest_length_le
  have pastBrace := Cursor.advance_rest_lt _next
  have toStop := (reader.reaches brace.advance).rest_length_le
  have toNext := stop.reaches_advance.rest_length_le
  simp only [_read] at toStop
  omega

theorem reaches_bodyFrom (expression : Option (Reader (Node π))) (cursor : Cursor) :
    cursor.Reaches (bodyFrom expression cursor).2 := by
  fun_induction bodyFrom expression cursor with
  | case1 cursor | case2 cursor | case3 cursor => simpa using reaches_literalRun cursor
  | case4 cursor brace _ _ _ reader _ error stop read
  | case6 cursor brace _ _ _ reader _ node stop read =>
    have toStop := reader.reaches brace.advance
    rw [read] at toStop
    exact ((reaches_literalRun cursor).trans brace.reaches_advance).trans toStop
  | case5 cursor _ brace _ _ _ reader _ node stop read _ ih =>
    have toStop := reader.reaches brace.advance
    rw [read] at toStop
    subst expression
    rw [Reading.map_cursor]
    exact (((reaches_literalRun cursor).trans brace.reaches_advance).trans toStop).trans
      (stop.reaches_advance.trans ih)

/-- A body, up to an unescaped `}` that closes no expression of it, or to the end. -/
def bodyOf (expression : Option (Reader (Node π))) : Reader (Tree π × BodyEnd) :=
  ⟨bodyFrom expression, reaches_bodyFrom expression⟩

/-- A choice body between its braces. The cursor starts after the opening brace and is left
on the character after the blanks that follow the closing one. -/
def choiceBody (body : Reader (Tree π × BodyEnd)) : Reader (Tree π) := do
  let (tree, bodyEnd) ← body
  match bodyEnd with
  | .input => .fail .unbalancedBraces
  | .close =>
    .advance
    .skipBlanks
    return tree

/-- The name of a choice, which is not in `seen`, and the offset before it. The cursor is left
on the brace of the choice's body. An offset is an extension that may stand before the first
choice of a plural. -/
def choiceHead (offsetAllowed : Bool) (seen : List String) : Reader (String × UInt64) := do
  let first ← .choiceName
  let (name, offset) ←
    if (← .peek) = some ':' then
      if !offsetAllowed then .fail .unexpectedExtension
      else if first ≠ "offset" then .fail (.unsupportedExtension first)
      else if !seen.isEmpty then .fail .unexpectedExtension
      else
        .advance
        let offset ← .offset
        let name ← Reader.choiceName.relabel .missingChoiceName
        pure (name, offset)
    else pure (first, 0)
  .expect '{' .missingChoiceContent
  if seen.contains name then .fail (.duplicateChoice name) else pure (name, offset)

/-- What choices amount to once the last one is read. -/
def finishChoices (seen : List String) (cursor : Cursor) : Reading (Choices π × UInt64) :=
  if seen.contains otherChoice then .done ([], 0) cursor
  else .fail .missingMandatoryChoice cursor

theorem reaches_finishChoices (seen : List String) (cursor : Cursor) :
    cursor.Reaches (finishChoices (π := π) seen cursor).2 := by
  unfold finishChoices
  split <;> exact .refl _

/-- Read the choices after those whose names are in `seen`, up to a `}` or to the end, and
the offset before the first of them. -/
def choicesFrom (body : Reader (Tree π × BodyEnd)) (offsetAllowed : Bool) (seen : List String)
    (cursor : Cursor) : Reading (Choices π × UInt64) :=
  if _done : cursor.atEnd then finishChoices seen cursor
  else
    match _head : (choiceHead offsetAllowed seen).run cursor with
    | (.error error, stop) => (.error error, stop)
    | (.ok (name, offset), brace) =>
      match _body : (choiceBody body).run brace.advance with
      | (.error error, stop) => (.error error, stop)
      | (.ok tree, stop) =>
        Reading.map (fun (choices, _) => ((name, tree) :: choices, offset)) <|
          if stop.peek? = some '}' then finishChoices (name :: seen) stop
          else choicesFrom body offsetAllowed (name :: seen) stop
termination_by cursor.rest.length
decreasing_by
  have toBrace := (choiceHead offsetAllowed seen).reaches cursor
  have toStop := ((choiceBody body).reaches brace.advance).rest_length_le
  simp only [_head] at toBrace
  have pastBrace := toBrace.advance_rest_lt _done
  simp only [_body] at toStop
  omega

theorem reaches_choicesFrom (body : Reader (Tree π × BodyEnd)) (offsetAllowed : Bool)
    (seen : List String) (cursor : Cursor) :
    cursor.Reaches (choicesFrom body offsetAllowed seen cursor).2 := by
  fun_induction choicesFrom body offsetAllowed seen cursor with
  | case1 seen cursor => exact reaches_finishChoices seen cursor
  | case2 seen cursor _ error stop head =>
    have toStop := (choiceHead offsetAllowed seen).reaches cursor
    rwa [head] at toStop
  | case3 seen cursor _ name offset brace head error stop read =>
    have toBrace := (choiceHead offsetAllowed seen).reaches cursor
    have toStop := (choiceBody body).reaches brace.advance
    rw [head] at toBrace
    rw [read] at toStop
    exact (toBrace.trans brace.reaches_advance).trans toStop
  | case4 seen cursor _ name offset brace head tree stop read ih =>
    have toBrace := (choiceHead offsetAllowed seen).reaches cursor
    have toStop := (choiceBody body).reaches brace.advance
    rw [head] at toBrace
    rw [read] at toStop
    refine ((toBrace.trans brace.reaches_advance).trans toStop).trans ?_
    rw [Reading.map_cursor]
    split
    · exact reaches_finishChoices _ _
    · exact ih

/-- The choices of an expression after its kind: a comma, at least a choice called `other`,
and before the first choice of a plural possibly an offset. The cursor is left on the `}` of
the expression or at the end. -/
def choices (body : Reader (Tree π × BodyEnd)) (offsetAllowed : Bool) :
    Reader (Choices π × UInt64) := do
  .expect ',' .malformedOption
  .advance
  ⟨choicesFrom body offsetAllowed [], reaches_choicesFrom body offsetAllowed []⟩

/-- The width of a date after the kind: a comma and the name of a width. -/
def dateWidth : Reader DateWidth := do
  .expect ',' .malformedOption
  .advance
  let name ← .identifier
  match DateWidth.ofName? name with
  | some width => pure width
  | none => .fail .invalidDateFormat

/-- The rest of an expression of a kind that is not built in. -/
def customNode (parser : Parser π) (key kind : String) : Reader (Node π) := do
  match parser.kinds.get? kind with
  | none => .fail (.unknownType kind)
  | some registered =>
    match registered.parse? with
    | none => .fail (.undefinedParseFunc kind)
    | some parse =>
      let payload ← parse key
      pure (.custom kind key payload)

/-- The inside of an expression whose choice bodies `body` reads, from after its `{` up to
where its `}` belongs. -/
def expressionOf (parser : Parser π) (body : Reader (Tree π × BodyEnd)) : Reader (Node π) := do
  let key ← .identifier
  if key.isEmpty then .fail .missingVarName
  else if (← .peek) = some '}' then pure (.var key)
  else
    .advance
    let kind ← .identifier
    if kind = "plural" then
      let (choices, offset) ← choices body true
      pure (.plural key choices offset)
    else if kind = "select" then
      let (choices, _) ← choices body false
      pure (.select key choices)
    else if kind = "selectordinal" then
      let (choices, _) ← choices body false
      pure (.selectOrdinal key choices)
    else if kind = "date" then
      let width ← dateWidth
      pure (.date key width)
    else parser.customNode key kind

/-- A body in which `depth` more expressions may be open at once. The readers of the levels
are made as they are entered, since the limit may be far beyond the length of any text. -/
def body (parser : Parser π) : Nat → Reader (Tree π × BodyEnd)
  | 0 => bodyOf none
  | depth + 1 => bodyOf (some (parser.expressionOf (.delay fun _ => parser.body depth)))

@[simp] theorem body_zero (parser : Parser π) : parser.body 0 = bodyOf none := rfl

@[simp] theorem body_succ (parser : Parser π) (depth : Nat) :
    parser.body (depth + 1) = bodyOf (some (parser.expressionOf (parser.body depth))) := rfl

/-- A whole template: a body that reaches the end of the text. -/
def message (parser : Parser π) : Reader (Tree π) := do
  let (tree, bodyEnd) ← parser.body parser.maxDepth
  match bodyEnd with
  | .input => pure tree
  | .close => .fail .unbalancedBraces

/-- The tree of a template, or the first fault in it. -/
def parse (parser : Parser π) (template : String) : Except ParseError (Tree π) :=
  (parser.message.run (.start template)).1

end Parser

end MessageTemplate
