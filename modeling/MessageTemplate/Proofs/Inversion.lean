import MessageTemplate.Proofs.Tokens
import MessageTemplate.Template.Parser

/-!
# How the parser succeeds

One lemma for each reader of the parser: a successful reading, taken apart into the readings of
its parts. What is said of parsed trees is proved from these lemmas and from nothing else about
the readers.
-/

namespace MessageTemplate

/-! ## Runs of literal text -/

theorem isLiteralRun_nil : IsLiteralRun [] := by
  rintro before brace after split
  simp at split

/-- What holds at each character of a text and of what stands before it, as the text grows. -/
theorem forall_split_concat_iff {property : List Char → Char → Prop} {text : List Char}
    {character : Char} :
    (∀ before other after, text ++ [character] = before ++ other :: after →
        property before other) ↔
      (∀ before other after, text = before ++ other :: after → property before other) ∧
        property text character := by
  constructor
  · intro whole
    refine ⟨fun before other after split => ?_, whole text character [] rfl⟩
    exact whole before other (after ++ [character]) (by simp [split])
  · rintro ⟨earlier, last⟩ before other after split
    rcases List.eq_nil_or_concat after with rfl | ⟨others, final, rfl⟩
    · obtain ⟨rfl, same⟩ := List.append_inj' split rfl
      obtain rfl : character = other := by simpa using same
      exact last
    · rw [List.concat_eq_append, ← List.cons_append, ← List.append_assoc] at split
      exact earlier before other others (List.append_inj' split rfl).1

/-- A run goes on with a brace only behind a backslash. -/
theorem isLiteralRun_concat {run : List Char} {character : Char} :
    IsLiteralRun (run ++ [character]) ↔
      IsLiteralRun run ∧ (character = '{' ∨ character = '}' → run.getLast? = some '\\') :=
  forall_split_concat_iff

/-- What ends a run: the end of the text, or a brace that no backslash of the run escapes. -/
def EndsRun (run following : List Char) : Prop :=
  following = [] ∨
    (following.head? = some '{' ∨ following.head? = some '}') ∧ run.getLast? ≠ some '\\'

theorem EndsRun.unescaped {run following : List Char} {next : Char} (ends : EndsRun run following)
    (present : following.head? = some next) : run.getLast? ≠ some '\\' := by
  rcases ends with nothing | ⟨-, unescaped⟩
  · simp [nothing] at present
  · exact unescaped

/-- No run goes on behind the end of a run. -/
theorem EndsRun.eq_nil {run more following : List Char} (ends : EndsRun run (more ++ following))
    (proper : IsLiteralRun (run ++ more)) : more = [] := by
  cases more with
  | nil => rfl
  | cons character more =>
    rcases ends with nothing | ⟨brace, unescaped⟩
    · simp at nothing
    · exact absurd (proper run character more rfl (by simpa using brace)) unescaped

namespace Parser

variable {π : Type}

theorem literalRunFrom_spans (run : List Char) (escaped : Bool) (passed rest : List Char)
    (flag : escaped = true ↔ run.head? = some '\\') (proper : IsLiteralRun run.reverse) :
    ∃ more, (literalRunFrom run escaped passed rest).1 = run.reverse ++ more ∧
      Cursor.Spans ⟨passed, rest⟩ more (literalRunFrom run escaped passed rest).2 ∧
      IsLiteralRun (literalRunFrom run escaped passed rest).1 ∧
      EndsRun (literalRunFrom run escaped passed rest).1
        (literalRunFrom run escaped passed rest).2.rest := by
  fun_induction literalRunFrom run escaped passed rest with
  | case1 run escaped passed => exact ⟨[], by simp, .refl _, proper, .inl rfl⟩
  | case2 run escaped passed character rest brace =>
    simp only [Bool.and_eq_true, Bool.or_eq_true, decide_eq_true_eq, Bool.not_eq_true'] at brace
    refine ⟨[], by simp, .refl _, proper, .inr ⟨by simpa using brace.1, ?_⟩⟩
    simp [← flag, brace.2]
  | case3 run escaped passed character rest other inductionHypothesis =>
    have escapes : character = '{' ∨ character = '}' → run.reverse.getLast? = some '\\' := by
      intro brace
      simpa [brace, flag] using other
    obtain ⟨more, whole, spans, rest'⟩ := inductionHypothesis (by simp [eq_comm])
      (by simpa using isLiteralRun_concat.mpr ⟨proper, escapes⟩)
    have step : Cursor.Spans ⟨passed, character :: rest⟩ [character] ⟨character :: passed, rest⟩ :=
      ⟨rfl, rfl⟩
    exact ⟨character :: more, by simpa using whole, step.trans spans, rest'⟩

/-- A run of literal text goes up to the first brace that is not escaped. -/
theorem literalRun_eq_iff {cursor stop : Cursor} {run : List Char} :
    literalRun cursor = (run, stop) ↔
      cursor.Spans run stop ∧ IsLiteralRun run ∧ EndsRun run stop.rest := by
  obtain ⟨found, whole, spans, proper, ends⟩ :=
    literalRunFrom_spans [] false cursor.passed cursor.rest (by simp) isLiteralRun_nil
  change (literalRun cursor).1 = found at whole
  change cursor.Spans found (literalRun cursor).2 at spans
  change IsLiteralRun (literalRun cursor).1 at proper
  change EndsRun (literalRun cursor).1 (literalRun cursor).2.rest at ends
  rw [whole] at proper ends
  constructor
  · intro same
    rw [same] at whole spans ends
    obtain rfl : run = found := whole
    exact ⟨spans, proper, ends⟩
  · rintro ⟨runSpans, runProper, runEnds⟩
    have same : run = found := by
      rcases List.append_eq_append_iff.mp (runSpans.1.symm.trans spans.1) with
        ⟨more, rfl, rest⟩ | ⟨more, rfl, rest⟩
      · rw [rest] at runEnds
        simp [runEnds.eq_nil proper]
      · rw [rest] at ends
        simp [ends.eq_nil runProper]
    subst same
    exact Prod.ext whole (spans.unique runSpans)

/-! ## Bodies -/

/-- A body as steps of reading: a run of literal text, and behind an opening brace an
expression, its closing brace and the rest of the body. -/
theorem bodyFrom_eq (expression : Option (Reader (Node π))) (cursor : Cursor) :
    bodyFrom expression cursor =
      match (literalRun cursor).2.peek? with
      | none => .done (Literal.nodes (literalRun cursor).1, .input) (literalRun cursor).2
      | some next =>
        if next = '}' then
          .done (Literal.nodes (literalRun cursor).1, .close) (literalRun cursor).2
        else
          match expression with
          | none => .fail .maxDepthExceeded (literalRun cursor).2
          | some reader =>
            Reader.follow (reader.run (literalRun cursor).2.advance) fun node place =>
              if place.peek? = some '}' then
                (bodyFrom expression place.advance).map fun (nodes, bodyEnd) =>
                  (Literal.nodes (literalRun cursor).1 ++ node :: nodes, bodyEnd)
              else .fail .unbalancedBraces place := by
  rw [bodyFrom.eq_def]
  cases expression with
  | none =>
    dsimp only
    split <;> rename_i present <;> simp only [present]
  | some reader =>
    dsimp only
    split
    · rename_i present
      simp only [present]
    · rename_i next present
      simp only [present]
      split
      · rfl
      · split <;> rename_i read <;> simp only [read, Reader.follow]

/-- The three ways in which a body is read: its run of literal text ends with the text, before
a closing brace, or before an expression, behind which the body goes on. -/
theorem bodyFrom_eq_done_iff {expression : Option (Reader (Node π))} {cursor brace stop : Cursor}
    {run : List Char} {tree : Tree π} {bodyEnd : BodyEnd}
    (read : literalRun cursor = (run, brace)) :
    bodyFrom expression cursor = .done (tree, bodyEnd) stop ↔
      brace.rest = [] ∧ tree = Literal.nodes run ∧ bodyEnd = .input ∧ stop = brace ∨
      brace.peek? = some '}' ∧ tree = Literal.nodes run ∧ bodyEnd = .close ∧ stop = brace ∨
      brace.peek? = some '{' ∧ ∃ reader node place nodes, expression = some reader ∧
        reader.run brace.advance = .done node place ∧ place.peek? = some '}' ∧
        bodyFrom expression place.advance = .done (nodes, bodyEnd) stop ∧
        tree = Literal.nodes run ++ node :: nodes := by
  have ends := (literalRun_eq_iff.mp read).2.2
  rw [bodyFrom_eq, read]
  simp only
  rcases ends with atEnd | ⟨opening | closing, -⟩
  · have nothing : brace.peek? = none := List.head?_eq_none_iff.mpr atEnd
    simp [nothing, Reading.done, atEnd, eq_comm, and_assoc]
  · have here : brace.peek? = some '{' := opening
    have more : brace.rest ≠ [] := fun nothing => by simp [nothing] at opening
    simp only [here, more, Option.some.injEq, Char.reduceEq, if_false, false_and, false_or,
      true_and]
    cases expression with
    | none => simp [Reading.fail, Reading.done]
    | some reader =>
      simp only [Reader.follow_eq_done_iff]
      constructor
      · rintro ⟨node, place, inner, rest⟩
        split at rest
        · rename_i close
          obtain ⟨⟨nodes, _⟩, following, same⟩ := Reading.map_eq_done_iff.mp rest
          obtain ⟨rfl, rfl⟩ := Prod.mk.inj same
          exact ⟨reader, node, place, nodes, rfl, inner, close, following, rfl⟩
        · simp [Reading.fail, Reading.done] at rest
      · rintro ⟨_, node, place, nodes, same, inner, close, following, rfl⟩
        obtain rfl := Option.some.inj same
        refine ⟨node, place, inner, ?_⟩
        rw [if_pos close]
        exact Reading.map_eq_done_iff.mpr ⟨(nodes, bodyEnd), following, rfl⟩
  · have here : brace.peek? = some '}' := closing
    have more : brace.rest ≠ [] := fun nothing => by simp [nothing] at closing
    simp [here, more, Reading.done, eq_comm, and_assoc]

theorem choiceBody_eq_done_iff {body : Reader (Tree π × BodyEnd)} {cursor stop : Cursor}
    {tree : Tree π} :
    (choiceBody body).run cursor = .done tree stop ↔
      ∃ place, body.run cursor = .done (tree, .close) place ∧
        stop = place.advance.skipBlanks := by
  simp only [choiceBody, Reader.run_bind, Reader.follow_eq_done_iff]
  constructor
  · rintro ⟨⟨found, bodyEnd⟩, place, read, rest⟩
    cases bodyEnd with
    | input => simp at rest
    | close =>
      obtain ⟨rfl, rfl⟩ : found = tree ∧ place.advance.skipBlanks = stop := by simpa using rest
      exact ⟨place, read, rfl⟩
  · rintro ⟨place, read, rfl⟩
    exact ⟨(tree, .close), place, read, by simp⟩

/-- A choice's head ends before the brace of a choice whose name is new. -/
theorem headEnd_eq_done_iff {seen : List String} {name : String} {offset : UInt64}
    {found : String × UInt64} {cursor stop : Cursor} :
    (do
      Reader.expect '{' .missingChoiceContent
      if seen.contains name then Reader.fail (.duplicateChoice name)
      else pure (name, offset) : Reader (String × UInt64)).run cursor = .done found stop ↔
      found = (name, offset) ∧ stop = cursor ∧ cursor.peek? = some '{' ∧ name ∉ seen := by
  rw [Reader.run_bind, Reader.follow_eq_done_iff]
  simp only [Reader.expect_eq_done_iff, and_assoc, exists_and_left, exists_eq_left]
  by_cases taken : name ∈ seen
  · simp [taken]
  · simp [taken, eq_comm, and_left_comm, and_comm, and_assoc]

/-- The offset and the name in front of a choice body: only an extension called `offset`, in
front of the first choice of a plural, goes before the name. -/
theorem choiceHead_eq_done_iff {offsetAllowed : Bool} {seen : List String} {cursor stop : Cursor}
    {name : String} {offset : UInt64} :
    (choiceHead offsetAllowed seen).run cursor = .done (name, offset) stop ↔
      ∃ first place, Reader.choiceName.run cursor = .done first place ∧
        (place.peek? ≠ some ':' ∧ name = first ∧ offset = 0 ∧ stop = place ∨
          place.peek? = some ':' ∧ offsetAllowed = true ∧ first = "offset" ∧ seen = [] ∧
            ∃ numeral, Reader.offset.run place.advance = .done offset numeral ∧
              Reader.choiceName.run numeral = .done name stop) ∧
        stop.peek? = some '{' ∧ name ∉ seen := by
  rw [choiceHead, Reader.run_bind, Reader.follow_eq_done_iff]
  refine exists_congr fun first => exists_congr fun place => and_congr_right fun _ => ?_
  rw [Reader.run_bind, Reader.run_peek, Reader.follow_done_eq]
  by_cases colon : place.peek? = some ':'
  · by_cases extension : offsetAllowed = true ∧ first = "offset" ∧ seen = []
    · obtain ⟨rfl, rfl, rfl⟩ := extension
      rw [if_pos colon, if_neg (by simp), if_neg (by simp), if_neg (by simp)]
      simp only [pure_bind, Reader.run_bind, Reader.run_advance, Reader.follow_done_eq,
        Reader.follow_eq_done_iff, Reader.relabel_eq_done_iff]
      constructor
      · rintro ⟨shift, numeral, value, found, tail, named, rest⟩
        obtain ⟨same, rfl, brace, fresh⟩ :=
          headEnd_eq_done_iff.mp (Reader.follow_eq_done_iff.mpr rest)
        obtain ⟨rfl, rfl⟩ := Prod.mk.inj same
        exact ⟨.inr ⟨colon, trivial, trivial, trivial, numeral, value, named⟩, brace, fresh⟩
      · rintro ⟨⟨plain, -⟩ | ⟨-, -, -, -, numeral, value, named⟩, brace, fresh⟩
        · exact absurd colon plain
        · exact ⟨offset, numeral, value, name, stop, named, Reader.follow_eq_done_iff.mp
            (headEnd_eq_done_iff.mpr ⟨rfl, rfl, brace, fresh⟩)⟩
    · refine iff_of_false (fun found => ?_) fun ⟨others, _⟩ => ?_
      · rw [if_pos colon] at found
        split at found
        · simp at found
        · split at found
          · simp at found
          · split at found
            · simp at found
            · exact extension (by simp_all)
      · rcases others with ⟨plain, -⟩ | ⟨-, allowed, named, fresh, -⟩
        · exact plain colon
        · exact extension ⟨allowed, named, fresh⟩
  · rw [if_neg colon, pure_bind]
    refine headEnd_eq_done_iff.trans ?_
    simp only [Prod.mk.injEq]
    constructor
    · rintro ⟨⟨rfl, rfl⟩, rfl, brace, fresh⟩
      exact ⟨.inl ⟨colon, rfl, rfl, rfl⟩, brace, fresh⟩
    · rintro ⟨⟨-, rfl, rfl, rfl⟩ | ⟨extension, -⟩, brace, fresh⟩
      · exact ⟨⟨rfl, rfl⟩, rfl, brace, fresh⟩
      · exact absurd extension colon

theorem finishChoices_eq_done_iff {seen : List String} {cursor stop : Cursor}
    {choices : Choices π} {offset : UInt64} :
    finishChoices seen cursor = .done (choices, offset) stop ↔
      otherChoice ∈ seen ∧ choices = [] ∧ offset = 0 ∧ stop = cursor := by
  unfold finishChoices
  by_cases complete : otherChoice ∈ seen
  · simp [complete, eq_comm, and_assoc]
  · simp [complete]

/-- Choices as steps of reading: none at the end of the text, and else a choice, behind which
the closing brace of the expression or more choices stand. -/
theorem choicesFrom_eq (body : Reader (Tree π × BodyEnd)) (offsetAllowed : Bool)
    (seen : List String) (cursor : Cursor) :
    choicesFrom body offsetAllowed seen cursor =
      if cursor.atEnd then finishChoices seen cursor
      else
        Reader.follow ((choiceHead offsetAllowed seen).run cursor) fun head brace =>
          Reader.follow ((choiceBody body).run brace.advance) fun tree place =>
            Reading.map (fun (choices, _) => ((head.1, tree) :: choices, head.2)) <|
              if place.peek? = some '}' then finishChoices (head.1 :: seen) place
              else choicesFrom body offsetAllowed (head.1 :: seen) place := by
  rw [choicesFrom.eq_def]
  split
  · rfl
  · split <;> rename_i head <;> simp only [head, Reader.follow]
    split <;> rename_i read <;> simp only [read]

/-- The two ways in which choices are read: none at the end of the text, or one, behind which
the choices are finished or go on. -/
theorem choicesFrom_eq_done_iff {body : Reader (Tree π × BodyEnd)} {offsetAllowed : Bool}
    {seen : List String} {cursor stop : Cursor} {choices : Choices π} {offset : UInt64} :
    choicesFrom body offsetAllowed seen cursor = .done (choices, offset) stop ↔
      cursor.rest = [] ∧ otherChoice ∈ seen ∧ choices = [] ∧ offset = 0 ∧ stop = cursor ∨
      cursor.rest ≠ [] ∧ ∃ name tree others brace place,
        (choiceHead offsetAllowed seen).run cursor = .done (name, offset) brace ∧
        (choiceBody body).run brace.advance = .done tree place ∧
        choices = (name, tree) :: others ∧
        (place.peek? = some '}' ∧ otherChoice ∈ name :: seen ∧ others = [] ∧ stop = place ∨
          place.peek? ≠ some '}' ∧ ∃ ignored,
            choicesFrom body offsetAllowed (name :: seen) place =
              .done (others, ignored) stop) := by
  rw [choicesFrom_eq]
  by_cases atEnd : cursor.rest = []
  · simp [Cursor.atEnd, atEnd, finishChoices_eq_done_iff]
  · simp only [Cursor.atEnd, List.isEmpty_iff, atEnd, if_false, false_and, false_or, ne_eq,
      not_false_eq_true, true_and, Reader.follow_eq_done_iff, Reading.map_eq_done_iff]
    constructor
    · rintro ⟨⟨name, _⟩, brace, head, tree, place, read, ⟨others, ignored⟩, rest, same⟩
      obtain ⟨rfl, rfl⟩ := Prod.mk.inj same
      refine ⟨name, tree, others, brace, place, head, read, rfl, ?_⟩
      by_cases close : place.peek? = some '}'
      · rw [if_pos close, finishChoices_eq_done_iff] at rest
        exact .inl ⟨close, rest.1, rest.2.1, rest.2.2.2⟩
      · rw [if_neg close] at rest
        exact .inr ⟨close, ignored, rest⟩
    · rintro ⟨name, tree, others, brace, place, head, read, rfl, rest⟩
      rcases rest with ⟨close, complete, rfl, rfl⟩ | ⟨close, ignored, rest⟩
      · refine ⟨(name, offset), brace, head, tree, stop, read, ([], 0), ?_, rfl⟩
        rw [if_pos close]
        exact finishChoices_eq_done_iff.mpr ⟨complete, rfl, rfl, rfl⟩
      · refine ⟨(name, offset), brace, head, tree, place, read, (others, ignored), ?_, rfl⟩
        rw [if_neg close]
        exact rest

/-- Choices stand behind a comma. -/
theorem run_choices (body : Reader (Tree π × BodyEnd)) (offsetAllowed : Bool) (cursor : Cursor) :
    (choices body offsetAllowed).run cursor =
      if cursor.peek? = some ',' then choicesFrom body offsetAllowed [] cursor.advance
      else .fail .malformedOption cursor := by
  by_cases comma : cursor.peek? = some ','
  · simp [choices, Reader.expect, comma]
  · simp [choices, Reader.expect, comma]

theorem choices_eq_done_iff {body : Reader (Tree π × BodyEnd)} {offsetAllowed : Bool}
    {cursor stop : Cursor} {found : Choices π × UInt64} :
    (choices body offsetAllowed).run cursor = .done found stop ↔
      cursor.peek? = some ',' ∧
        choicesFrom body offsetAllowed [] cursor.advance = .done found stop := by
  rw [run_choices]
  by_cases comma : cursor.peek? = some ','
  · rw [if_pos comma, and_iff_right comma]
  · rw [if_neg comma]
    exact iff_of_false Reading.fail_ne_done fun read => comma read.1

theorem ofName?_eq_some_iff {name : String} {width : DateWidth} :
    DateWidth.ofName? name = some width ↔ name = width.name := by
  constructor
  · intro found
    unfold DateWidth.ofName? at found
    split at found <;> simp_all [DateWidth.name]
    all_goals subst found; rfl
  · rintro rfl
    cases width <;> rfl

theorem dateWidth_eq_done_iff {cursor stop : Cursor} {width : DateWidth} :
    dateWidth.run cursor = .done width stop ↔
      cursor.peek? = some ',' ∧ Reader.identifier.run cursor.advance = .done width.name stop := by
  simp only [dateWidth, Reader.run_bind, Reader.follow_eq_done_iff, Reader.expect_eq_done_iff,
    Reader.run_advance, Reading.done_inj]
  constructor
  · rintro ⟨_, _, ⟨comma, rfl⟩, _, _, ⟨-, rfl⟩, name, place, read, rest⟩
    split at rest
    · rename_i found named
      obtain ⟨rfl, rfl⟩ : found = width ∧ place = stop := by simpa using rest
      exact ⟨comma, ofName?_eq_some_iff.mp named ▸ read⟩
    · simp at rest
  · rintro ⟨comma, read⟩
    refine ⟨(), cursor, ⟨comma, rfl⟩, (), _, ⟨trivial, rfl⟩, width.name, stop, read, ?_⟩
    simp [ofName?_eq_some_iff.mpr rfl]

theorem customNode_eq_done_iff {parser : Parser π} {key kind : String} {cursor stop : Cursor}
    {node : Node π} :
    (parser.customNode key kind).run cursor = .done node stop ↔
      ∃ registered parse payload, parser.kinds.get? kind = some registered ∧
        registered.parse? = some parse ∧ (parse key).run cursor = .done payload stop ∧
        node = .custom kind key payload := by
  unfold customNode
  cases parser.kinds.get? kind with
  | none => simp
  | some registered =>
    cases parsing : registered.parse? with
    | none => simp [parsing]
    | some parse =>
      simp only [parsing, Reader.run_bind, Reader.run_pure, Reader.follow_eq_done_iff,
        Reading.done_inj]
      constructor
      · rintro ⟨payload, _, read, rfl, rfl⟩
        exact ⟨registered, parse, payload, rfl, parsing, read, rfl⟩
      · rintro ⟨_, _, payload, known, parsing', read, rfl⟩
        obtain rfl := Option.some.inj known
        obtain rfl := Option.some.inj (parsing.symm.trans parsing')
        exact ⟨payload, stop, read, rfl, rfl⟩

/-- An expression: a variable alone, or a key and a kind, and then what the kind asks for. -/
theorem expressionOf_eq_done_iff {parser : Parser π} {body : Reader (Tree π × BodyEnd)}
    {cursor stop : Cursor} {node : Node π} :
    (parser.expressionOf body).run cursor = .done node stop ↔
      ∃ key place, Reader.identifier.run cursor = .done key place ∧ key ≠ "" ∧
        (place.peek? = some '}' ∧ node = .var key ∧ stop = place ∨
          place.peek? ≠ some '}' ∧ ∃ kind tail,
            Reader.identifier.run place.advance = .done kind tail ∧
            ((∃ (choiceKind : ChoiceKind) (found : Choices π) (offset : UInt64),
                kind = choiceKind.name ∧
                (choices body choiceKind.takesOffset).run tail = .done (found, offset) stop ∧
                node = choiceKind.node key found offset) ∨
              (∃ width, kind = "date" ∧ dateWidth.run tail = .done width stop ∧
                node = .date key width) ∨
              kind ∉ builtinKinds ∧ (parser.customNode key kind).run tail = .done node stop)) := by
  rw [expressionOf, Reader.run_bind, Reader.follow_eq_done_iff]
  refine exists_congr fun key => exists_congr fun place => and_congr_right fun _ => ?_
  by_cases empty : key = ""
  · simp [empty]
  · have nonempty : key.isEmpty = false := by simpa [String.isEmpty_iff] using empty
    simp only [nonempty, Bool.false_eq_true, if_false, Reader.run_bind, Reader.run_peek,
      Reader.follow_done_eq]
    by_cases close : place.peek? = some '}'
    · simp [close, empty, eq_comm]
    · simp only [close, if_false, false_and, false_or, ne_eq, empty, not_false_eq_true, true_and,
        Reader.run_bind, Reader.run_advance, Reader.follow_done_eq, Reader.follow_eq_done_iff]
      refine exists_congr fun kind => exists_congr fun tail => and_congr_right fun _ => ?_
      simp only [bind_pure_comp, ChoiceKind.exists_iff, ChoiceKind.name, ChoiceKind.node,
        ChoiceKind.takesOffset]
      by_cases plural : kind = "plural"
      · simp [plural, Reader.follow_done_iff, builtinKinds]
      by_cases select : kind = "select"
      · simp [select, Reader.follow_done_iff, builtinKinds]
      by_cases ordinal : kind = "selectordinal"
      · simp [ordinal, Reader.follow_done_iff, builtinKinds]
      by_cases date : kind = "date"
      · simp [date, Reader.follow_done_iff, builtinKinds]
      simp [plural, select, ordinal, date, builtinKinds]

/-- A template is parsed when its body reaches the end of the text. -/
theorem parse_eq_ok_iff_body {parser : Parser π} {template : String} {tree : Tree π} :
    parser.parse template = .ok tree ↔
      ∃ stop, (parser.body parser.maxDepth).run (.start template) = .done (tree, .input) stop := by
  simp only [parse, message, Reader.run_bind]
  constructor
  · intro parsed
    cases read : (parser.body parser.maxDepth).run (.start template) with
    | mk result stop =>
      rw [read] at parsed
      cases result with
      | error error => cases parsed
      | ok found =>
        obtain ⟨tree', bodyEnd⟩ := found
        cases bodyEnd with
        | input =>
          obtain rfl : tree' = tree := Except.ok.inj parsed
          exact ⟨stop, rfl⟩
        | close => cases parsed
  · rintro ⟨stop, read⟩
    rw [read]
    rfl

end Parser

end MessageTemplate
