import MessageTemplate.Proofs.Openings

/-!
# Records and lower limits

What the record of a template tells about parsers with lower limits. Such a parser does the same
up to the first expression that is entered where its limit is reached, and there it fails. So the
record is told by the answers of these parsers, also that of a template with a fault.
-/

namespace MessageTemplate

namespace ParserEvent

/-- The position of the first expression that is entered while `limit` others are open, if `count`
are open before. -/
def firstBeyond (limit : Nat) : Nat → List ParserEvent → Option Nat
  | _, [] => none
  | count, entered position :: events =>
    if count < limit then firstBeyond limit (count + 1) events else some position
  | count, left _ :: events => firstBeyond limit (count - 1) events

variable {limit count : Nat}

theorem firstBeyond_append (before after : List ParserEvent) :
    firstBeyond limit count (before ++ after) =
      (firstBeyond limit count before).or (firstBeyond limit (openAfter count before) after) := by
  fun_induction openAfter count before with
  | case1 => rfl
  | case2 count position events inductionHypothesis =>
    rw [List.cons_append, firstBeyond, firstBeyond, inductionHypothesis]
    split
    · rfl
    · rfl
  | case3 count position events inductionHypothesis => exact inductionHypothesis

end ParserEvent

/-! ## Readings that are cut off -/

/-- The second reading is what a lower limit leaves of the first one, of which there is a record:
the same, or an error where the first expression is beyond the limit. -/
def CutBy {α : Type} (limit count : Nat) (events : List ParserEvent) (full cut : Reading α) :
    Prop :=
  match ParserEvent.firstBeyond limit count events with
  | none => cut = full
  | some position => ∃ stop, cut = (.error ⟨.maxDepthExceeded, position⟩, stop)

namespace CutBy

variable {α β : Type} {limit count : Nat} {events : List ParserEvent} {full cut : Reading α}

/-- Where no expression is entered nothing is cut off. -/
theorem refl (reading : Reading α) : CutBy limit count [] reading reading := rfl

theorem eq_of_none (cuts : CutBy limit count events full cut)
    (within : ParserEvent.firstBeyond limit count events = none) : cut = full := by
  rw [CutBy, within] at cuts
  exact cuts

theorem error_of_some (cuts : CutBy limit count events full cut) {position : Nat}
    (beyond : ParserEvent.firstBeyond limit count events = some position) :
    ∃ stop, cut = (.error ⟨.maxDepthExceeded, position⟩, stop) := by
  rw [CutBy, beyond] at cuts
  exact cuts

/-- A further step that enters no expression. -/
theorem follow (cuts : CutBy limit count events full cut) (next : α → Cursor → Reading β) :
    CutBy limit count events (Reader.follow full next) (Reader.follow cut next) := by
  rw [CutBy]
  cases beyond : ParserEvent.firstBeyond limit count events with
  | none => exact congrArg (Reader.follow · next) (cuts.eq_of_none beyond)
  | some position =>
    obtain ⟨stop, rfl⟩ := cuts.error_of_some beyond
    exact ⟨stop, rfl⟩

theorem map (cuts : CutBy limit count events full cut) (change : α → β) :
    CutBy limit count events (full.map change) (cut.map change) := by
  have steps := cuts.follow fun value place => .done (change value) place
  rwa [Reader.follow_done_eq_map, Reader.follow_done_eq_map] at steps

/-- An expression that is entered where a level is left. -/
theorem entered (room : count < limit) (position : Nat)
    (cuts : CutBy limit (count + 1) events full cut) :
    CutBy limit count (.entered position :: events) full cut := by
  rw [CutBy, ParserEvent.firstBeyond, if_pos room]
  exact cuts

end CutBy

/-- Steps of which less is left make sequences of which less is left. -/
theorem Watched.Balanced.cutBy_onward {α β : Type} {limit count : Nat} {watched : Watched α}
    (balanced : watched.Balanced) {lower : Reader α} {cursor : Cursor}
    {events : ∀ value stop, watched.reader.run cursor = .done value stop → List ParserEvent}
    {next other : α → Cursor → Reading β}
    (step : CutBy limit count (watched.events cursor) (watched.reader.run cursor)
      (lower.run cursor))
    (onward : ∀ value stop read,
      CutBy limit count (events value stop read) (next value stop) (other value stop)) :
    CutBy limit count (watched.onward cursor events)
      (Reader.follow (watched.reader.run cursor) next)
      (Reader.follow (lower.run cursor) other) := by
  cases beyond : ParserEvent.firstBeyond limit count (watched.events cursor) with
  | some position =>
    obtain ⟨stop, failed⟩ := step.error_of_some beyond
    rw [CutBy, Watched.onward, ParserEvent.firstBeyond_append, beyond, failed]
    exact ⟨stop, rfl⟩
  | none =>
    rw [step.eq_of_none beyond]
    rcases (watched.reader.run cursor).eq_done_or_error with ⟨value, stop, read⟩ | ⟨_, _, failed⟩
    · have cuts := onward value stop read
      rw [CutBy, Watched.onward_eq read, ParserEvent.firstBeyond_append, beyond, Option.none_or,
        balanced count cursor value stop read, read]
      exact cuts
    · have silent : watched.onward cursor events = watched.events cursor := by
        rw [Watched.onward]
        split
        · exact List.append_nil _
        · rename_i read
          cases read.symm.trans failed
      rw [CutBy, silent, beyond, failed]
      rfl

namespace Parser

variable {π : Type} {limit count : Nat}

/-- A step that enters no expression. -/
theorem cutBy_onward_plain {α β : Type} {reader : Reader α} {cursor : Cursor}
    {events : ∀ value stop, (Watched.plain reader).reader.run cursor = .done value stop →
      List ParserEvent}
    {next other : α → Cursor → Reading β}
    (onward : ∀ value stop read,
      CutBy limit count (events value stop read) (next value stop) (other value stop)) :
    CutBy limit count ((Watched.plain reader).onward cursor events)
      (Reader.follow (reader.run cursor) next) (Reader.follow (reader.run cursor) other) :=
  (Watched.balanced_plain reader).cutBy_onward (.refl _) onward

/-! ## Bodies and choices -/

/-- Of every reading of a watched reader a lower limit leaves what another reader reads. -/
def Cuts {α : Type} (limit count : Nat) (watched : Watched α) (lower : Reader α) : Prop :=
  ∀ cursor, CutBy limit count (watched.events cursor) (watched.reader.run cursor)
    (lower.run cursor)

/-- What two bodies ask of the readers of their expressions: none of them has any, or only the
lower limit leaves no level here, or it leaves something of each expression. -/
def CutsExpressions (limit count : Nat) :
    Option (Watched (Node π)) → Option (Reader (Node π)) → Prop
  | none, none => True
  | some _, none => limit ≤ count
  | some watched, some lower =>
    count < limit ∧ watched.Balanced ∧ Cuts limit (count + 1) watched lower
  | none, some _ => False

theorem cuts_bodyOf {expression : Option (Watched (Node π))} {lower? : Option (Reader (Node π))}
    (inner : CutsExpressions limit count expression lower?) :
    Cuts limit count (watchedBodyOf expression) (bodyOf lower?) := by
  intro cursor
  change CutBy limit count (bodyEvents expression cursor)
    (bodyFrom (expression.map (·.reader)) cursor) (bodyFrom lower? cursor)
  fun_induction bodyEvents expression cursor with
  | case1 cursor brace nothing =>
    have ends : (literalRun cursor).2.peek? = none := nothing
    rw [bodyFrom_eq, bodyFrom_eq, ends]
    exact .refl _
  | case2 cursor brace closing =>
    have ends : (literalRun cursor).2.peek? = some '}' := closing
    rw [bodyFrom_eq, bodyFrom_eq, ends]
    exact .refl _
  | case3 cursor brace next present unclosed same =>
    subst same
    cases lower? with
    | some lower => exact inner.elim
    | none => exact .refl _
  | case4 cursor brace next present unclosed watched same inductionHypothesis =>
    subst same
    have opens : (literalRun cursor).2.peek? = some next := present
    rw [bodyFrom_eq, bodyFrom_eq, opens]
    dsimp only [Option.map_some]
    rw [if_neg unclosed, if_neg unclosed]
    cases lower? with
    | none =>
      have full : ¬count < limit := Nat.not_lt.mpr inner
      rw [CutBy, ParserEvent.firstBeyond, if_neg full]
      exact ⟨_, rfl⟩
    | some lower =>
      obtain ⟨room, balanced, cuts⟩ := inner
      refine .entered room _ (balanced.cutBy_onward (cuts _) fun node stop read => ?_)
      split
      · exact (inductionHypothesis node stop read).map _
      · exact .refl _

theorem cuts_choiceBody {body : Watched (Tree π × BodyEnd)} {lower : Reader (Tree π × BodyEnd)}
    (bodies : Cuts limit count body lower) :
    Cuts limit count (watchedChoiceBody body) (choiceBody lower) := by
  intro cursor
  exact (bodies cursor).follow _

theorem cuts_choicesOf {body : Watched (Tree π × BodyEnd)} {lower : Reader (Tree π × BodyEnd)}
    (balanced : body.Balanced) (bodies : Cuts limit count body lower) (offsetAllowed : Bool)
    (seen : List String) :
    Cuts limit count (watchedChoices body offsetAllowed seen)
      (choicesOf lower offsetAllowed seen) := by
  intro cursor
  change CutBy limit count (choicesEvents body offsetAllowed seen cursor)
    (choicesFrom body.reader offsetAllowed seen cursor)
    (choicesFrom lower offsetAllowed seen cursor)
  fun_induction choicesEvents body offsetAllowed seen cursor with
  | case1 seen cursor ends =>
    rw [choicesFrom_eq, choicesFrom_eq, if_pos ends, if_pos ends]
    exact .refl _
  | case2 seen cursor unfinished inductionHypothesis =>
    rw [choicesFrom_eq, choicesFrom_eq, if_neg unfinished, if_neg unfinished]
    refine cutBy_onward_plain fun head brace found => ?_
    refine (balanced_watchedChoiceBody balanced).cutBy_onward (cuts_choiceBody bodies _) ?_
    intro tree place read
    split
    · exact .refl _
    · exact (inductionHypothesis head brace found tree place read).map _

theorem cutBy_choices {body : Watched (Tree π × BodyEnd)} {lower : Reader (Tree π × BodyEnd)}
    (balanced : body.Balanced) (bodies : Cuts limit count body lower) (offsetAllowed : Bool)
    (cursor : Cursor) :
    CutBy limit count
      (if cursor.peek? ≠ some ',' then [] else choicesEvents body offsetAllowed [] cursor.advance)
      ((choices body.reader offsetAllowed).run cursor)
      ((choices lower offsetAllowed).run cursor) := by
  rw [run_choices, run_choices]
  by_cases comma : cursor.peek? = some ','
  · rw [if_pos comma, if_pos comma, if_neg (not_not_intro comma)]
    exact cuts_choicesOf balanced bodies offsetAllowed [] cursor.advance
  · rw [if_neg comma, if_neg comma, if_pos comma]
    exact .refl _

/-! ## Expressions and templates -/

theorem cuts_expressionOf {parser other : Parser π} (kinds : parser.kinds = other.kinds)
    {body : Watched (Tree π × BodyEnd)} {lower : Reader (Tree π × BodyEnd)}
    (balanced : body.Balanced) (bodies : Cuts limit count body lower) :
    Cuts limit count (parser.watchedExpression body) (other.expressionOf lower) := by
  intro cursor
  have choices := cutBy_choices balanced bodies
  refine cutBy_onward_plain fun key place named => ?_
  dsimp only
  by_cases unnamed : key.isEmpty = true
  · rw [if_pos unnamed, if_pos unnamed, if_pos (by simp [unnamed])]
    exact .refl _
  rw [if_neg unnamed, if_neg unnamed, Reader.run_bind, Reader.run_bind, Reader.run_peek,
    Reader.follow_done_eq, Reader.follow_done_eq]
  by_cases close : place.peek? = some '}'
  · rw [if_pos close, if_pos close, if_pos (by simp [close])]
    exact .refl _
  rw [if_neg close, if_neg close, if_neg (by simp [unnamed, close])]
  refine cutBy_onward_plain fun kind tail kinded => ?_
  dsimp only
  by_cases plural : kind = "plural"
  · rw [if_pos plural, if_pos plural, if_pos plural]
    exact (choices true tail).follow _
  rw [if_neg plural, if_neg plural, if_neg plural]
  by_cases asked : (decide (kind = "select") || decide (kind = "selectordinal")) = true
  · rw [if_pos asked]
    by_cases select : kind = "select"
    · rw [if_pos select, if_pos select]
      exact (choices false tail).follow _
    · have ordinal : kind = "selectordinal" := by simpa [select] using asked
      rw [if_neg select, if_neg select, if_pos ordinal, if_pos ordinal]
      exact (choices false tail).follow _
  · -- What is left is the same reader on both sides.
    obtain ⟨select, ordinal⟩ : kind ≠ "select" ∧ kind ≠ "selectordinal" := by simpa using asked
    rw [if_neg asked, ite_self, if_neg select, if_neg select, if_neg ordinal, if_neg ordinal]
    unfold customNode
    rw [kinds]
    exact .refl _

/-- Of a body with `depth` levels, behind `count` open expressions, a limit that leaves fewer levels
leaves what a body with these reads. -/
theorem cuts_body {parser other : Parser π} (kinds : parser.kinds = other.kinds) (count : Nat)
    {depth less : Nat} (le : less ≤ depth) :
    Cuts (count + less) count (parser.watchedBody depth) (other.body less) := by
  induction depth generalizing count less with
  | zero =>
    obtain rfl := Nat.le_zero.mp le
    exact cuts_bodyOf trivial
  | succ depth inductionHypothesis =>
    cases less with
    | zero => exact cuts_bodyOf (Nat.le_refl count)
    | succ less =>
      have balanced := balanced_watchedBody parser depth
      have bodies := inductionHypothesis (count + 1) (Nat.le_of_succ_le_succ le)
      rw [Nat.add_right_comm, Nat.add_assoc] at bodies
      exact cuts_bodyOf ⟨by omega, balanced_watchedExpression parser balanced,
        cuts_expressionOf kinds balanced bodies⟩

/-- The record of a template, parsed or with a fault, tells what a parser with a lower limit and the
same kinds answers: where the first expression is beyond that limit it is exceeded, and if none is
the answer is the same. -/
theorem parse_eq_of_events (parser : Parser π) {limit : Nat} (le : limit ≤ parser.maxDepth)
    (template : String) :
    Parser.parse ⟨parser.kinds, limit⟩ template =
      match ParserEvent.firstBeyond limit 0 (parser.events template) with
      | none => parser.parse template
      | some position => .error ⟨.maxDepthExceeded, position⟩ := by
  have kinds : parser.kinds = (⟨parser.kinds, limit⟩ : Parser π).kinds := rfl
  have cuts := cuts_body kinds 0 le (.start template)
  rw [Nat.zero_add, reader_watchedBody] at cuts
  have whole : CutBy limit 0 (parser.events template) (parser.message.run (.start template))
      ((message ⟨parser.kinds, limit⟩).run (.start template)) := cuts.follow _
  cases beyond : ParserEvent.firstBeyond limit 0 (parser.events template) with
  | none => exact congrArg Prod.fst (whole.eq_of_none beyond)
  | some position =>
    obtain ⟨stop, failed⟩ := whole.error_of_some beyond
    exact congrArg Prod.fst failed

end Parser

end MessageTemplate
