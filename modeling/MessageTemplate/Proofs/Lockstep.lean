import MessageTemplate.Proofs.Steps

/-!
# Readers side by side

Two readers run over one text: they answer alike, unless the first one fails with an error that is
excused, and then the second one gets at least as far. Sequences of readers keep to this if their
steps do, and with that bodies, choices and expressions, whose parts may differ between the two.
-/

namespace MessageTemplate

namespace Reader

variable {α β : Type} {excused : ParseError → Prop} {cursor : Cursor}

/-- Two readers answer alike at a place, unless the first one fails there with an error that is
excused. The second one then goes on from where the first one stopped. -/
def AlikeAt (excused : ParseError → Prop) (first second : Reader α) (cursor : Cursor) : Prop :=
  second.run cursor = first.run cursor ∨
    ∃ error stop, first.run cursor = (.error error, stop) ∧ excused error ∧
      stop.Reaches (second.run cursor).2

/-- Two readers answer alike everywhere, but for errors that are excused. -/
def Alike (excused : ParseError → Prop) (first second : Reader α) : Prop :=
  ∀ cursor, AlikeAt excused first second cursor

theorem AlikeAt.refl (reader : Reader α) (cursor : Cursor) :
    AlikeAt excused reader reader cursor := .inl rfl

theorem Alike.refl (reader : Reader α) : Alike excused reader reader := fun _ => .inl rfl

/-- A reader that fails at once with an excused error is like any other. -/
theorem alike_fail {fault : ParseFault} (reader : Reader α)
    (reason : ∀ position, excused ⟨fault, position⟩) : Alike excused (fail fault) reader :=
  fun cursor => .inr ⟨_, cursor, rfl, reason _, reader.reaches cursor⟩

/-- A sequence gets at least as far as its first step. -/
theorem reaches_bind (reader : Reader α) (next : α → Reader β) (cursor : Cursor) :
    (reader.run cursor).2.Reaches ((reader >>= next).run cursor).2 :=
  reaches_follow (.refl _) fun value => (next value).reaches

/-- Steps that answer alike on the way of the first reader make readers that answer alike. -/
theorem AlikeAt.bind {first second : Reader α} {next other : α → Reader β}
    (step : AlikeAt excused first second cursor)
    (onward : ∀ value stop, first.run cursor = .done value stop →
      AlikeAt excused (next value) (other value) stop) :
    AlikeAt excused (first >>= next) (second >>= other) cursor := by
  rcases step with same | ⟨error, stop, failed, reason, further⟩
  · rcases (first.run cursor).eq_done_or_error with ⟨value, stop, read⟩ | ⟨error, stop, failed⟩
    · have firstRun : (first >>= next).run cursor = (next value).run stop := by
        rw [run_bind, read, follow_done_eq]
      have secondRun : (second >>= other).run cursor = (other value).run stop := by
        rw [run_bind, same, read, follow_done_eq]
      rw [AlikeAt, firstRun, secondRun]
      exact onward value stop read
    · left
      rw [run_bind, run_bind, same, failed]
      rfl
  · right
    refine ⟨error, stop, ?_, reason, further.trans (reaches_bind second other cursor)⟩
    rw [run_bind, failed]
    rfl

theorem Alike.bind {first second : Reader α} {next other : α → Reader β}
    (step : Alike excused first second)
    (onward : ∀ value, Alike excused (next value) (other value)) :
    Alike excused (first >>= next) (second >>= other) := by
  intro cursor
  exact (step cursor).bind fun value stop _ => onward value stop

/-- Behind a step that both readers take, they go on from the same place. -/
theorem AlikeAt.shared {reader : Reader α} {next other : α → Reader β}
    (onward : ∀ value stop, reader.run cursor = .done value stop →
      AlikeAt excused (next value) (other value) stop) :
    AlikeAt excused (reader >>= next) (reader >>= other) cursor :=
  (AlikeAt.refl reader cursor).bind onward

theorem AlikeAt.peek {next other : Option Char → Reader β}
    (onward : AlikeAt excused (next cursor.peek?) (other cursor.peek?) cursor) :
    AlikeAt excused (peek >>= next) (peek >>= other) cursor := onward

theorem AlikeAt.advance {next other : Unit → Reader β}
    (onward : AlikeAt excused (next ()) (other ()) cursor.advance) :
    AlikeAt excused (advance >>= next) (advance >>= other) cursor := onward

theorem Alike.shared {reader : Reader α} {next other : α → Reader β}
    (onward : ∀ value, Alike excused (next value) (other value)) :
    Alike excused (reader >>= next) (reader >>= other) :=
  (Alike.refl reader).bind onward

theorem Alike.ite {condition : Prop} [Decidable condition] {first second left right : Reader α}
    (positive : Alike excused first second) (negative : Alike excused left right) :
    Alike excused (if condition then first else left) (if condition then second else right) := by
  split
  · exact positive
  · exact negative

end Reader

namespace Parser

variable {π : Type} {excused : ParseError → Prop}

/-- What two bodies ask of the readers of their expressions: they answer alike, or only the second
body has such a reader and the fault of the first one is excused. -/
def AlikeExpressions (excused : ParseError → Prop) :
    Option (Reader (Node π)) → Option (Reader (Node π)) → Prop
  | none, none => True
  | none, some _ => ∀ position, excused ⟨.maxDepthExceeded, position⟩
  | some first, some second => Reader.Alike excused first second
  | some _, none => False

/-- Bodies answer alike if the readers of their expressions do. -/
theorem alike_bodyOf {first second : Option (Reader (Node π))}
    (inner : AlikeExpressions excused first second) :
    Reader.Alike excused (bodyOf first) (bodyOf second) := by
  intro cursor
  induction size_eq : cursor.rest.length using Nat.strongRecOn generalizing cursor with
  | ind size inductionHypothesis =>
  rw [bodyOf_eq first, bodyOf_eq second]
  apply Reader.AlikeAt.shared
  intro run brace read
  obtain ⟨-, rfl⟩ := Reading.done_inj.mp read
  apply Reader.AlikeAt.peek
  cases present : (literalRun cursor).2.peek? with
  | none => exact .refl ..
  | some character =>
    dsimp only
    split
    · exact .refl ..
    match first, second, inner with
    | none, none, _ => exact .refl ..
    | none, some _, reason => exact Reader.alike_fail _ reason _
    | some first, some second, inner =>
      apply Reader.AlikeAt.advance
      apply (inner _).bind
      intro node stop found
      apply Reader.AlikeAt.shared
      intro _ close closed
      obtain ⟨-, rfl⟩ := Reader.expect_eq_done_iff.mp closed
      apply Reader.AlikeAt.advance
      have shorter := rest_length_lt_of_expression present found
      exact (inductionHypothesis _ (size_eq ▸ shorter) close.advance rfl).bind fun _ _ _ =>
        .refl ..

/-! ## Choices -/

variable {first second : Reader (Tree π × BodyEnd)}

theorem alike_choiceBody (bodies : Reader.Alike excused first second) :
    Reader.Alike excused (choiceBody first) (choiceBody second) := by
  apply bodies.bind
  exact fun found => .refl _

theorem alike_choicesOf (bodies : Reader.Alike excused first second) (offsetAllowed : Bool)
    (seen : List String) :
    Reader.Alike excused (choicesOf first offsetAllowed seen)
      (choicesOf second offsetAllowed seen) := by
  intro cursor
  induction size_eq : cursor.rest.length using Nat.strongRecOn generalizing seen cursor with
  | ind size inductionHypothesis =>
  rw [choicesOf_eq first, choicesOf_eq second]
  apply Reader.AlikeAt.peek
  split
  · exact .refl ..
  rename_i more
  have unfinished := mt cursor.atEnd_iff.mp more
  apply Reader.AlikeAt.shared
  intro head brace found
  obtain ⟨name, offset⟩ := head
  apply Reader.AlikeAt.advance
  apply (alike_choiceBody bodies brace.advance).bind
  intro tree place read
  have shorter := rest_length_lt_of_choice unfinished found read
  apply Reader.AlikeAt.peek
  dsimp only
  split
  · exact .refl ..
  · exact (inductionHypothesis _ (size_eq ▸ shorter) (name :: seen) place rfl).bind fun _ _ _ =>
      .refl ..

theorem alike_choices (bodies : Reader.Alike excused first second) (offsetAllowed : Bool) :
    Reader.Alike excused (choices first offsetAllowed) (choices second offsetAllowed) := by
  apply Reader.Alike.shared
  intro _
  apply Reader.Alike.shared
  intro _
  exact alike_choicesOf bodies offsetAllowed []

/-! ## Expressions -/

/-- Expressions are read alike if their bodies are and if the kinds that are not built in are. -/
theorem alike_expressionOf {parser other : Parser π} (bodies : Reader.Alike excused first second)
    (customs : ∀ key kind,
      Reader.Alike excused (parser.customNode key kind) (other.customNode key kind)) :
    Reader.Alike excused (parser.expressionOf first) (other.expressionOf second) := by
  have choices (offsetAllowed : Bool) (node : Choices π × UInt64 → Node π) :
      Reader.Alike excused (do pure (node (← choices first offsetAllowed)))
        (do pure (node (← choices second offsetAllowed))) :=
    (alike_choices bodies offsetAllowed).bind fun _ => .refl _
  apply Reader.Alike.shared
  intro key
  apply Reader.Alike.ite (.refl _)
  apply Reader.Alike.shared
  intro next
  apply Reader.Alike.ite (.refl _)
  apply Reader.Alike.shared
  intro _
  apply Reader.Alike.shared
  intro kind
  apply Reader.Alike.ite (choices true fun found => .plural key found.1 found.2)
  apply Reader.Alike.ite (choices false fun found => .select key found.1)
  apply Reader.Alike.ite (choices false fun found => .selectOrdinal key found.1)
  apply Reader.Alike.ite (.refl _)
  exact customs key kind

end Parser

end MessageTemplate
