import MessageTemplate.Proofs.Exactness
import MessageTemplate.Proofs.Steps

/-!
# Open expressions

The record of the expressions that a parser enters and leaves on its way through a text. It is
kept beside the readers and follows their answers, so it also tells what happened up to an error.
On no way are more expressions open at once than the nesting limit allows: one step of a body
opens an expression only where a level is left, and whoever succeeds has left what it entered.
-/

namespace MessageTemplate

/-- What happens to an expression while a template is read. -/
inductive ParserEvent where
  /-- Its opening brace, at this position, is passed. -/
  | entered (position : Nat)
  /-- Its closing brace, at this position, is passed. -/
  | left (position : Nat)
  deriving DecidableEq, Repr

namespace ParserEvent

/-- How many expressions are open behind events, if `count` are open before them. -/
def openAfter : Nat → List ParserEvent → Nat
  | count, [] => count
  | count, entered _ :: events => openAfter (count + 1) events
  | count, left _ :: events => openAfter (count - 1) events

/-- No expression is entered while `limit` others are open, if `count` are open before. -/
def Within (limit : Nat) : Nat → List ParserEvent → Prop
  | _, [] => True
  | count, entered _ :: events => count < limit ∧ Within limit (count + 1) events
  | count, left _ :: events => Within limit (count - 1) events

theorem openAfter_append (count : Nat) (before after : List ParserEvent) :
    openAfter count (before ++ after) = openAfter (openAfter count before) after := by
  fun_induction openAfter count before with
  | case1 => rfl
  | case2 _ _ _ inductionHypothesis | case3 _ _ _ inductionHypothesis => exact inductionHypothesis

theorem within_append {limit count : Nat} {before after : List ParserEvent} :
    Within limit count (before ++ after) ↔
      Within limit count before ∧ Within limit (openAfter count before) after := by
  fun_induction openAfter count before with
  | case1 => simp [Within]
  | case2 _ _ _ inductionHypothesis => simp [Within, inductionHypothesis, and_assoc]
  | case3 _ _ _ inductionHypothesis => simp [Within, inductionHypothesis]

/-- The expressions that are open where another one is entered. -/
theorem Within.openAfter_lt {limit count : Nat} {before after : List ParserEvent} {position : Nat}
    (within : Within limit count (before ++ entered position :: after)) :
    openAfter count before < limit :=
  (within_append.mp within).2.1

end ParserEvent

/-- A reader, and what happens to expressions when it is run, whether it succeeds or fails. -/
structure Watched (α : Type) where
  reader : Reader α
  events : Cursor → List ParserEvent

namespace Watched

variable {α : Type} {limit count : Nat}

/-- A reader that enters no expression. -/
def plain (reader : Reader α) : Watched α := ⟨reader, fun _ => []⟩

/-- What happens on the way of a reader, and behind it if it succeeds. -/
def onward (watched : Watched α) (cursor : Cursor)
    (next : ∀ value stop, watched.reader.run cursor = .done value stop → List ParserEvent) :
    List ParserEvent :=
  watched.events cursor ++
    match read : watched.reader.run cursor with
    | (.error _, _) => []
    | (.ok value, stop) => next value stop read

/-- Where a reader succeeds it has left all that it entered. -/
def Balanced (watched : Watched α) : Prop :=
  ∀ count cursor value stop, watched.reader.run cursor = .done value stop →
    ParserEvent.openAfter count (watched.events cursor) = count

/-- With `count` expressions open before, a reader opens none beyond the limit. -/
def KeepsWithin (limit count : Nat) (watched : Watched α) : Prop :=
  ∀ cursor, ParserEvent.Within limit count (watched.events cursor)

/-- Where a reader succeeds, its record tells how deeply expressions are nested in what it found. -/
def Reflects (watched : Watched α) (nesting : α → Nat) : Prop :=
  ∀ limit count cursor value stop, watched.reader.run cursor = .done value stop →
    count ≤ limit →
      (ParserEvent.Within limit count (watched.events cursor) ↔ count + nesting value ≤ limit)

theorem balanced_plain (reader : Reader α) : (plain reader).Balanced := fun _ _ _ _ _ => rfl

section Onward

variable {watched : Watched α} {cursor : Cursor}
  {next : ∀ value stop, watched.reader.run cursor = .done value stop → List ParserEvent}

theorem onward_eq {value : α} {stop : Cursor}
    (read : watched.reader.run cursor = .done value stop) :
    watched.onward cursor next = watched.events cursor ++ next value stop read := by
  rw [onward]
  split
  · rename_i failed
    cases failed.symm.trans read
  · rename_i other place found
    obtain ⟨rfl, rfl⟩ := Reading.done_inj.mp (found.symm.trans read)
    rfl

theorem Balanced.within_onward_iff (balanced : watched.Balanced) {value : α} {stop : Cursor}
    (read : watched.reader.run cursor = .done value stop) :
    ParserEvent.Within limit count (watched.onward cursor next) ↔
      ParserEvent.Within limit count (watched.events cursor) ∧
        ParserEvent.Within limit count (next value stop read) := by
  rw [onward_eq read, ParserEvent.within_append, balanced count cursor value stop read]

theorem Balanced.within_onward (balanced : watched.Balanced)
    (first : ParserEvent.Within limit count (watched.events cursor))
    (rest : ∀ value stop read, ParserEvent.Within limit count (next value stop read)) :
    ParserEvent.Within limit count (watched.onward cursor next) := by
  rcases (watched.reader.run cursor).eq_done_or_error with ⟨value, stop, read⟩ | ⟨_, _, failed⟩
  · exact (balanced.within_onward_iff read).mpr ⟨first, rest value stop read⟩
  · rw [onward]
    split
    · rwa [List.append_nil]
    · rename_i read
      cases read.symm.trans failed

end Onward

/-- Passing a reader that enters no expression. -/
theorem onward_plain {reader : Reader α} {cursor : Cursor} {value : α} {stop : Cursor}
    {next : ∀ value stop, (plain reader).reader.run cursor = .done value stop →
      List ParserEvent}
    (read : reader.run cursor = .done value stop) :
    (plain reader).onward cursor next = next value stop read :=
  onward_eq read

end Watched

namespace Parser

variable {π : Type}

/-! ## The records of the readers -/

/-- What happens while a body is read. -/
def bodyEvents (expression : Option (Watched (Node π))) (cursor : Cursor) : List ParserEvent :=
  let brace := (literalRun cursor).2
  match _next : brace.peek? with
  | none => []
  | some next =>
    if next = '}' then []
    else
      match expression with
      | none => []
      | some watched =>
        .entered brace.position :: watched.onward brace.advance fun _ stop _read =>
          if stop.peek? = some '}' then
            .left stop.position :: bodyEvents expression stop.advance
          else []
termination_by cursor.rest.length
decreasing_by exact rest_length_lt_of_expression _next _read

/-- The reader of bodies, watched. -/
def watchedBodyOf (expression : Option (Watched (Node π))) : Watched (Tree π × BodyEnd) :=
  ⟨bodyOf (expression.map (·.reader)), bodyEvents expression⟩

/-- The reader of choice bodies, watched. -/
def watchedChoiceBody (body : Watched (Tree π × BodyEnd)) : Watched (Tree π) :=
  ⟨choiceBody body.reader, body.events⟩

/-- What happens while choices are read. -/
def choicesEvents (body : Watched (Tree π × BodyEnd)) (offsetAllowed : Bool) (seen : List String)
    (cursor : Cursor) : List ParserEvent :=
  if _done : cursor.atEnd then []
  else
    (Watched.plain (choiceHead offsetAllowed seen)).onward cursor fun head brace _head =>
      (watchedChoiceBody body).onward brace.advance fun _ stop _body =>
        if stop.peek? = some '}' then []
        else choicesEvents body offsetAllowed (head.1 :: seen) stop
termination_by cursor.rest.length
decreasing_by exact rest_length_lt_of_choice _done _head _body

/-- The reader of choices, watched. -/
def watchedChoices (body : Watched (Tree π × BodyEnd)) (offsetAllowed : Bool)
    (seen : List String) : Watched (Choices π × UInt64) :=
  ⟨choicesOf body.reader offsetAllowed seen, choicesEvents body offsetAllowed seen⟩

/-- What happens inside an expression: only choices hold expressions. -/
def expressionEvents (body : Watched (Tree π × BodyEnd)) (cursor : Cursor) : List ParserEvent :=
  (Watched.plain .identifier).onward cursor fun key place _ =>
    if key.isEmpty || place.peek? = some '}' then []
    else
      (Watched.plain .identifier).onward place.advance fun kind tail _ =>
        if tail.peek? ≠ some ',' then []
        else if kind = "plural" then choicesEvents body true [] tail.advance
        else if kind = "select" || kind = "selectordinal" then
          choicesEvents body false [] tail.advance
        else []

/-- The reader of expressions, watched. -/
def watchedExpression (parser : Parser π) (body : Watched (Tree π × BodyEnd)) : Watched (Node π) :=
  ⟨parser.expressionOf body.reader, expressionEvents body⟩

/-- The bodies of a parser, watched. -/
def watchedBody (parser : Parser π) : Nat → Watched (Tree π × BodyEnd)
  | 0 => watchedBodyOf none
  | depth + 1 => watchedBodyOf (some (parser.watchedExpression (parser.watchedBody depth)))

/-- Watching changes no answer. -/
theorem reader_watchedBody (parser : Parser π) (depth : Nat) :
    (parser.watchedBody depth).reader = parser.body depth := by
  induction depth with
  | zero => rfl
  | succ depth inductionHypothesis =>
    rw [body_succ, ← inductionHypothesis]
    rfl

/-- The expressions that a parser enters and leaves in a template, up to the end or to the fault
that it finds. -/
def events (parser : Parser π) (template : String) : List ParserEvent :=
  (parser.watchedBody parser.maxDepth).events (.start template)

/-! ## Records of what is found -/

/-- Nothing happens in literal text. -/
theorem bodyEvents_eq_nil {expression : Option (Watched (Node π))} {cursor : Cursor}
    (ends : ∀ next, (literalRun cursor).2.peek? = some next → next = '}') :
    bodyEvents expression cursor = [] := by
  rw [bodyEvents.eq_def]
  dsimp only
  split
  · rfl
  · rename_i next present
    rw [if_pos (ends next present)]

theorem bodyEvents_eq_cons {watched : Watched (Node π)} {cursor : Cursor}
    (opening : (literalRun cursor).2.peek? = some '{') :
    bodyEvents (some watched) cursor =
      .entered (literalRun cursor).2.position ::
        watched.onward (literalRun cursor).2.advance fun _ stop _ =>
          if stop.peek? = some '}' then
            .left stop.position :: bodyEvents (some watched) stop.advance
          else [] := by
  rw [bodyEvents.eq_def]
  dsimp only
  split
  · rename_i nothing
    cases nothing.symm.trans opening
  · rename_i next present
    obtain rfl := Option.some.inj (present.symm.trans opening)
    rfl

/-- The record of a body that is read: of literal text there is none, and an expression stands
between its two events. -/
theorem bodyEvents_of_done {expression : Option (Watched (Node π))} {cursor stop : Cursor}
    {tree : Tree π} {bodyEnd : BodyEnd}
    (read : bodyFrom (expression.map (·.reader)) cursor = .done (tree, bodyEnd) stop) :
    bodyEvents expression cursor = [] ∧ Node.treeNesting tree = 0 ∨
      ∃ watched brace node place nodes, expression = some watched ∧
        watched.reader.run (Cursor.advance brace) = .done node place ∧
        bodyFrom (expression.map (·.reader)) place.advance = .done (nodes, bodyEnd) stop ∧
        Node.treeNesting tree = max node.nesting (Node.treeNesting nodes) ∧
        bodyEvents expression cursor = .entered brace.position ::
          (watched.events brace.advance ++
            .left place.position :: bodyEvents expression place.advance) ∧
        place.advance.rest.length < cursor.rest.length := by
  have run : literalRun cursor = ((literalRun cursor).1, (literalRun cursor).2) := rfl
  rcases (bodyFrom_eq_done_iff run).mp read with ⟨atEnd, rfl, -⟩ | ⟨closing, rfl, -⟩ |
    ⟨opening, reader, node, place, nodes, same, inner, close, following, rfl⟩
  · refine .inl ⟨bodyEvents_eq_nil fun next present => ?_, by simp⟩
    cases (List.head?_eq_none_iff.mpr atEnd).symm.trans present
  · refine .inl ⟨bodyEvents_eq_nil fun next present => ?_, by simp⟩
    exact Option.some.inj (present.symm.trans closing)
  · obtain ⟨watched, rfl, rfl⟩ := Option.map_eq_some_iff.mp same
    refine .inr ⟨watched, (literalRun cursor).2, node, place, nodes, rfl, inner, following,
      by simp [Node.treeNesting], ?_, ?_⟩
    · rw [bodyEvents_eq_cons opening, Watched.onward_eq inner, if_pos close]
    · exact rest_length_lt_of_expression opening inner

/-- The record of choices that are read: one record of a body after the other. -/
theorem choicesEvents_of_done {body : Watched (Tree π × BodyEnd)} {offsetAllowed : Bool}
    {seen : List String} {cursor stop : Cursor} {choices : Choices π} {offset : UInt64}
    (read : choicesFrom body.reader offsetAllowed seen cursor = .done (choices, offset) stop) :
    choicesEvents body offsetAllowed seen cursor = [] ∧ choices = [] ∨
      ∃ name tree others start place,
        (watchedChoiceBody body).reader.run start = .done tree place ∧
        choices = (name, tree) :: others ∧
        (choicesEvents body offsetAllowed seen cursor = body.events start ∧ others = [] ∨
          choicesEvents body offsetAllowed seen cursor =
              body.events start ++ choicesEvents body offsetAllowed (name :: seen) place ∧
            (∃ ignored, choicesFrom body.reader offsetAllowed (name :: seen) place =
              .done (others, ignored) stop) ∧
            place.rest.length < cursor.rest.length) := by
  rw [choicesEvents]
  rcases choicesFrom_eq_done_iff.mp read with ⟨atEnd, -, rfl, -⟩ |
    ⟨unfinished, name, tree, others, brace, place, head, chosen, rfl, rest⟩
  · exact .inl ⟨dif_pos (List.isEmpty_iff.mpr atEnd), rfl⟩
  · have more : ¬cursor.atEnd := by rwa [Cursor.atEnd, List.isEmpty_iff]
    refine .inr ⟨name, tree, others, brace.advance, place, chosen, rfl, ?_⟩
    rw [dif_neg more, Watched.onward_plain head, Watched.onward_eq chosen]
    rcases rest with ⟨close, -, rfl, -⟩ | ⟨unclosed, rest⟩
    · rw [if_pos close, List.append_nil]
      exact .inl ⟨rfl, rfl⟩
    · rw [if_neg unclosed]
      exact .inr ⟨rfl, rest, rest_length_lt_of_choice more head chosen⟩

/-- The record of an expression that is read: that of its choices, if it has any. -/
theorem expressionEvents_of_done {parser : Parser π} {body : Watched (Tree π × BodyEnd)}
    {cursor stop : Cursor} {node : Node π}
    (read : (parser.expressionOf body.reader).run cursor = .done node stop) :
    expressionEvents body cursor = [] ∧ node.nesting = 1 ∨
      ∃ offsetAllowed place found,
        expressionEvents body cursor = choicesEvents body offsetAllowed [] place ∧
        choicesFrom body.reader offsetAllowed [] place = .done found stop ∧
        node.nesting = 1 + Node.choicesNesting found.1 := by
  obtain ⟨key, place, keyed, nonempty, rest⟩ := expressionOf_eq_done_iff.mp read
  have named : key.isEmpty = false := by simpa [String.isEmpty_iff] using nonempty
  rw [expressionEvents, Watched.onward_plain keyed]
  rcases rest with ⟨close, rfl, -⟩ | ⟨more, kind, tail, kinded, rest⟩
  · exact .inl ⟨if_pos (by simp [close]), rfl⟩
  · rw [if_neg (by simp [named, more]), Watched.onward_plain kinded]
    rcases rest with ⟨choiceKind, listed, offset, rfl, chosen, rfl⟩ | ⟨width, rfl, -, rfl⟩ |
      ⟨unknown, custom⟩
    · obtain ⟨comma, listing⟩ := choices_eq_done_iff.mp chosen
      refine .inr ⟨choiceKind.takesOffset, tail.advance, (listed, offset), ?_, listing,
        Node.nesting_node ..⟩
      cases choiceKind <;> simp [comma, ChoiceKind.name, ChoiceKind.takesOffset]
    · exact .inl ⟨by simp, rfl⟩
    · obtain ⟨_, _, payload, -, -, -, rfl⟩ := customNode_eq_done_iff.mp custom
      simp only [builtinKinds, List.mem_cons, not_or] at unknown
      exact .inl ⟨by simp [unknown], rfl⟩

theorem balanced_watchedBodyOf {expression : Option (Watched (Node π))}
    (inner : ∀ watched, expression = some watched → watched.Balanced) :
    (watchedBodyOf expression).Balanced := by
  rintro count cursor ⟨tree, bodyEnd⟩ stop read
  change ParserEvent.openAfter count (bodyEvents expression cursor) = count
  induction size_eq : cursor.rest.length using Nat.strongRecOn generalizing cursor tree with
  | ind size inductionHypothesis =>
  rcases bodyEvents_of_done read with ⟨silent, -⟩ |
    ⟨watched, brace, node, place, nodes, same, found, following, -, events, shorter⟩
  · rw [silent]
    rfl
  · rw [events, ParserEvent.openAfter, ParserEvent.openAfter_append,
      inner watched same _ _ _ _ found]
    exact inductionHypothesis _ (size_eq ▸ shorter) _ _ following rfl

theorem balanced_watchedChoiceBody {body : Watched (Tree π × BodyEnd)} (bodies : body.Balanced) :
    (watchedChoiceBody body).Balanced := by
  intro count cursor tree stop read
  obtain ⟨place, found, -⟩ := choiceBody_eq_done_iff.mp read
  exact bodies count cursor _ place found

theorem balanced_watchedChoices {body : Watched (Tree π × BodyEnd)} (bodies : body.Balanced)
    (offsetAllowed : Bool) (seen : List String) :
    (watchedChoices body offsetAllowed seen).Balanced := by
  rintro count cursor ⟨choices, offset⟩ stop read
  change ParserEvent.openAfter count (choicesEvents body offsetAllowed seen cursor) = count
  induction size_eq : cursor.rest.length using Nat.strongRecOn
    generalizing seen cursor choices offset with
  | ind size inductionHypothesis =>
  rcases choicesEvents_of_done read with ⟨silent, -⟩ |
    ⟨name, tree, others, start, place, found, -, rest⟩
  · rw [silent]
    rfl
  · have closed : ParserEvent.openAfter count (body.events start) = count :=
      balanced_watchedChoiceBody bodies count start tree place found
    rcases rest with ⟨events, -⟩ | ⟨events, ⟨ignored, more⟩, shorter⟩
    · rw [events, closed]
    · rw [events, ParserEvent.openAfter_append, closed]
      exact inductionHypothesis _ (size_eq ▸ shorter) (name :: seen) place others ignored more rfl

theorem balanced_watchedExpression (parser : Parser π) {body : Watched (Tree π × BodyEnd)}
    (bodies : body.Balanced) : (parser.watchedExpression body).Balanced := by
  intro count cursor node stop read
  change ParserEvent.openAfter count (expressionEvents body cursor) = count
  rcases expressionEvents_of_done read with ⟨silent, -⟩ | ⟨allowed, place, found, events, more, -⟩
  · rw [silent]
    rfl
  · rw [events]
    exact balanced_watchedChoices bodies allowed [] count place found stop more

/-- Every expression that is read is left again. -/
theorem balanced_watchedBody (parser : Parser π) (depth : Nat) :
    (parser.watchedBody depth).Balanced := by
  induction depth with
  | zero => exact balanced_watchedBodyOf (by simp)
  | succ depth inductionHypothesis =>
    refine balanced_watchedBodyOf fun watched same => ?_
    obtain rfl := Option.some.inj same
    exact balanced_watchedExpression parser inductionHypothesis

/-! ## Nesting in the records -/

theorem reflects_watchedBodyOf {expression : Option (Watched (Node π))}
    (balanced : ∀ watched, expression = some watched → watched.Balanced)
    (proper : ∀ watched cursor node stop, expression = some watched →
      watched.reader.run cursor = .done node stop → 1 ≤ node.nesting)
    (inner : ∀ watched, expression = some watched →
      watched.Reflects fun node => node.nesting - 1) :
    (watchedBodyOf expression).Reflects fun found => Node.treeNesting found.1 := by
  rintro limit count cursor ⟨tree, bodyEnd⟩ stop read le
  change ParserEvent.Within limit count (bodyEvents expression cursor) ↔
    count + Node.treeNesting tree ≤ limit
  induction size_eq : cursor.rest.length using Nat.strongRecOn generalizing cursor tree with
  | ind size inductionHypothesis =>
  rcases bodyEvents_of_done read with ⟨silent, flat⟩ |
    ⟨watched, brace, node, place, nodes, same, found, following, nested, events, shorter⟩
  · rw [silent, flat]
    exact iff_of_true trivial le
  · have positive := proper watched _ node place same found
    have behind := inductionHypothesis _ (size_eq ▸ shorter) _ _ following rfl
    rw [events, nested, ParserEvent.Within, ParserEvent.within_append,
      balanced watched same _ _ _ _ found, ParserEvent.Within, Nat.add_sub_cancel, behind]
    by_cases room : count < limit
    · have inside := inner watched same limit (count + 1) _ node place found room
      dsimp only at inside
      rw [inside]
      omega
    · omega

theorem reflects_watchedChoices {body : Watched (Tree π × BodyEnd)} (balanced : body.Balanced)
    (bodies : body.Reflects fun found => Node.treeNesting found.1) (offsetAllowed : Bool)
    (seen : List String) :
    (watchedChoices body offsetAllowed seen).Reflects fun found =>
      Node.choicesNesting found.1 := by
  rintro limit count cursor ⟨choices, offset⟩ stop read le
  change ParserEvent.Within limit count (choicesEvents body offsetAllowed seen cursor) ↔
    count + Node.choicesNesting choices ≤ limit
  induction size_eq : cursor.rest.length using Nat.strongRecOn
    generalizing seen cursor choices offset with
  | ind size inductionHypothesis =>
  rcases choicesEvents_of_done read with ⟨silent, rfl⟩ |
    ⟨name, tree, others, start, place, found, rfl, rest⟩
  · rw [silent]
    exact iff_of_true trivial le
  · obtain ⟨brace, chosen, -⟩ := choiceBody_eq_done_iff.mp found
    have first := bodies limit count start _ brace chosen le
    dsimp only at first
    rw [Node.choicesNesting]
    rcases rest with ⟨events, rfl⟩ | ⟨events, ⟨ignored, more⟩, shorter⟩
    · rw [events, first, Node.choicesNesting, Nat.max_zero]
    · have behind :=
        inductionHypothesis _ (size_eq ▸ shorter) (name :: seen) place others ignored more rfl
      rw [events, ParserEvent.within_append, balanced count start _ brace chosen, first, behind]
      omega

theorem reflects_watchedExpression (parser : Parser π) {body : Watched (Tree π × BodyEnd)}
    (balanced : body.Balanced) (bodies : body.Reflects fun found => Node.treeNesting found.1) :
    (parser.watchedExpression body).Reflects fun node => node.nesting - 1 := by
  intro limit count cursor node stop read le
  change ParserEvent.Within limit count (expressionEvents body cursor) ↔
    count + (node.nesting - 1) ≤ limit
  rcases expressionEvents_of_done read with ⟨silent, single⟩ |
    ⟨allowed, place, found, events, more, nested⟩
  · rw [silent, single]
    exact iff_of_true trivial le
  · rw [events, nested, Nat.add_sub_cancel_left]
    exact reflects_watchedChoices balanced bodies allowed [] limit count place found stop more le

theorem reflects_watchedBody (parser : Parser π) (depth : Nat) :
    (parser.watchedBody depth).Reflects fun found => Node.treeNesting found.1 := by
  induction depth with
  | zero => exact reflects_watchedBodyOf (by simp) (by simp) (by simp)
  | succ depth inductionHypothesis =>
    have balanced := balanced_watchedBody parser depth
    refine reflects_watchedBodyOf (fun watched same => ?_)
      (fun watched cursor node stop same read => ?_) fun watched same => ?_
    · obtain rfl := Option.some.inj same
      exact balanced_watchedExpression parser balanced
    · obtain rfl := Option.some.inj same
      rcases expressionEvents_of_done read with ⟨-, single⟩ | ⟨_, _, _, -, -, nested⟩ <;> omega
    · obtain rfl := Option.some.inj same
      exact reflects_watchedExpression parser balanced inductionHypothesis

/-- The record of a template that is parsed keeps within the same limits as its tree. -/
theorem within_events_iff {parser : Parser π} {template : String} {tree : Tree π}
    (parsed : parser.parse template = .ok tree) (limit : Nat) :
    ParserEvent.Within limit 0 (parser.events template) ↔ Node.treeNesting tree ≤ limit := by
  obtain ⟨stop, read⟩ := parse_eq_ok_iff_body.mp parsed
  rw [← reader_watchedBody] at read
  have reflected := reflects_watchedBody parser parser.maxDepth
  have here := reflected limit 0 _ _ stop read (Nat.zero_le limit)
  rwa [Nat.zero_add] at here

/-! ## The limit in the records -/

variable {limit count : Nat}

/-- Where a body may enter an expression, a level is left for it. -/
theorem keepsWithin_watchedBodyOf {expression : Option (Watched (Node π))}
    (room : ∀ watched, expression = some watched → count < limit)
    (balanced : ∀ watched, expression = some watched → watched.Balanced)
    (inner : ∀ watched, expression = some watched → watched.KeepsWithin limit (count + 1)) :
    (watchedBodyOf expression).KeepsWithin limit count := by
  intro cursor
  change ParserEvent.Within limit count (bodyEvents expression cursor)
  fun_induction bodyEvents expression cursor with
  | case1 | case2 | case3 => trivial
  | case4 cursor brace next present unclosed watched same inductionHypothesis =>
    subst same
    refine ⟨room watched rfl, (balanced watched rfl).within_onward (inner watched rfl _) ?_⟩
    intro node stop read
    split
    · exact inductionHypothesis node stop read
    · trivial

/-- Choices enter expressions in their bodies only. -/
theorem keepsWithin_watchedChoices {body : Watched (Tree π × BodyEnd)} (balanced : body.Balanced)
    (bodies : body.KeepsWithin limit count) (offsetAllowed : Bool) (seen : List String) :
    (watchedChoices body offsetAllowed seen).KeepsWithin limit count := by
  intro cursor
  change ParserEvent.Within limit count (choicesEvents body offsetAllowed seen cursor)
  fun_induction choicesEvents body offsetAllowed seen cursor with
  | case1 => trivial
  | case2 seen cursor unfinished inductionHypothesis =>
    refine (Watched.balanced_plain _).within_onward trivial fun head brace found => ?_
    refine (balanced_watchedChoiceBody balanced).within_onward (bodies _) fun tree place read => ?_
    split
    · trivial
    · exact inductionHypothesis head brace found tree place read

theorem keepsWithin_watchedExpression (parser : Parser π) {body : Watched (Tree π × BodyEnd)}
    (balanced : body.Balanced) (bodies : body.KeepsWithin limit count) :
    (parser.watchedExpression body).KeepsWithin limit count := by
  intro cursor
  have choices := keepsWithin_watchedChoices balanced bodies
  refine (Watched.balanced_plain _).within_onward trivial fun key place _ => ?_
  split
  · trivial
  refine (Watched.balanced_plain _).within_onward trivial fun kind tail _ => ?_
  split
  · trivial
  split
  · exact choices true [] tail.advance
  split
  · exact choices false [] tail.advance
  · trivial

/-- A body with `depth` levels, behind `count` open expressions, opens as many as both together
and no more. -/
theorem keepsWithin_watchedBody (parser : Parser π) (depth count : Nat) :
    (parser.watchedBody depth).KeepsWithin (count + depth) count := by
  induction depth generalizing count with
  | zero => exact keepsWithin_watchedBodyOf (by simp) (by simp) (by simp)
  | succ depth inductionHypothesis =>
    have balanced := balanced_watchedBody parser depth
    refine keepsWithin_watchedBodyOf (fun _ _ => by omega) (fun watched same => ?_)
      fun watched same => ?_
    · obtain rfl := Option.some.inj same
      exact balanced_watchedExpression parser balanced
    · obtain rfl := Option.some.inj same
      rw [show count + (depth + 1) = count + 1 + depth by omega]
      exact keepsWithin_watchedExpression parser balanced (inductionHypothesis (count + 1))

/-- No expression is entered while as many others are open as the limit allows. -/
theorem openAfter_lt_of_events (parser : Parser π) {template : String}
    {before after : List ParserEvent} {position : Nat}
    (same : parser.events template = before ++ .entered position :: after) :
    ParserEvent.openAfter 0 before < parser.maxDepth := by
  have within : ParserEvent.Within parser.maxDepth 0 (parser.events template) := by
    have kept := keepsWithin_watchedBody parser parser.maxDepth 0 (.start template)
    rwa [Nat.zero_add] at kept
  rw [same] at within
  exact within.openAfter_lt

/-- What is cut off is not entered, and what was open before stays open. -/
example :
    events ({ maxDepth := 1 } : Parser Unit) "a\x7bA, select, other\x7b\x7bB\x7d\x7d\x7d" =
      [.entered 1] := by with_unfolding_all rfl

end Parser

end MessageTemplate
