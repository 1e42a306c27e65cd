import MessageTemplate.Proofs.OpenLevels
import MessageTemplate.Proofs.Output

/-!
# Where an evaluation stops

Constituents are evaluated from left to right, each behind the text that the others have written.
If registered kinds only put text behind what is there, a constituent writes what it would write
by itself, so the output of a tree is put together from the outputs of its constituents. A fault
belongs to the first constituent that has one by itself: all before it are complete, what it has
written up to the fault is kept, and nothing behind it is looked at.
-/

namespace MessageTemplate

/-- A writer only puts text behind what is written, and what is written makes no difference to
that text and to the result. -/
def Writer.Appends (writer : Writer Unit) : Prop :=
  ∀ written, writer.run.run written = ((writer.run.run "").1, written ++ (writer.run.run "").2)

theorem Writer.appends_append (text : String) : (Writer.append text).Appends := by
  intro written
  change (Except.ok (), written ++ text) = (Except.ok (), written ++ ("" ++ text))
  rw [String.empty_append]

/-- The formatting halves of all registered kinds only put text behind what is written. -/
def KindRegistry.Appends {π : Type} (registry : KindRegistry π) : Prop :=
  ∀ name kind format, registry.get? name = some kind → kind.format? = some format →
    ∀ expression args, (format expression args).Appends

theorem Evaluation.appends_ofWriter {writer : Writer Unit} (appends : writer.Appends) :
    (ofWriter writer).Appends := by
  intro text state
  have there : writer.run.run (text ++ state.output) = _ := appends _
  have here := appends state.output
  rw [outcome_ofWriter, outcome_ofWriter, EvaluationState.behind, EvaluationState.behind]
  dsimp only
  rw [there, here, String.append_assoc]

namespace Formatter

variable {π : Type} {formatter : Formatter π} {scope : Scope} {pound : String}

theorem appends_customWriter (kinds : formatter.kinds.Appends)
    (expression : CustomExpression π) :
    (Evaluation.lift (formatter.customWriter scope expression) >>= Evaluation.ofWriter).Appends := by
  have writes : ∀ writer, formatter.customWriter scope expression = .ok writer →
      writer.Appends := by
    intro writer made
    unfold customWriter at made
    split at made
    · cases made
    · rename_i kind found
      split at made
      · cases made
      · rename_i format formats
        cases made
        exact kinds _ kind format found formats expression scope.args
  cases made : formatter.customWriter scope expression with
  | error error => exact fun _ _ => rfl
  | ok writer => exact Evaluation.appends_ofWriter (writes writer made)

/-- Behind a text an evaluation comes to the same result as without it, leaves as many levels open
and writes the same. -/
theorem evaluate_eq_behind (kinds : formatter.kinds.Appends) (tree : Tree π)
    (start : EvaluationState) :
    formatter.evaluate scope pound tree start =
      ((formatter.evaluate scope pound tree ⟨start.depth, ""⟩).1,
        (formatter.evaluate scope pound tree ⟨start.depth, ""⟩).2.behind start.output) := by
  have appends : (evaluateTree formatter scope pound tree).Appends :=
    appends_evaluateTree (fun _ _ _ _ => appends_customWriter kinds _) pound
  have fresh := appends start.output ⟨start.depth, ""⟩
  rw [EvaluationState.behind, String.append_empty] at fresh
  exact fresh

/-- The pieces of a tree are evaluated one after the other, unless the first one fails. -/
theorem evaluate_append (before behind : Tree π) (start : EvaluationState) :
    formatter.evaluate scope pound (before ++ behind) start =
      match formatter.evaluate scope pound before start with
      | (.ok _, reached) => formatter.evaluate scope pound behind reached
      | (.error error, stop) => (.error error, stop) := by
  change (evaluateTree formatter scope pound (before ++ behind)).outcome start =
    match (evaluateTree formatter scope pound before).outcome start with
    | (.ok _, reached) => (evaluateTree formatter scope pound behind).outcome reached
    | (.error error, stop) => (.error error, stop)
  rw [evaluateTree_append, Evaluation.outcome_bind]
  rcases (evaluateTree formatter scope pound before).outcome start with ⟨error | done, reached⟩
  · rfl
  · rfl

/-! ## Constituents by themselves -/

/-- What a constituent comes to by itself, with nothing written before it. -/
def alone (formatter : Formatter π) (scope : Scope) (pound : String) (depth : Nat)
    (node : Node π) : Except FormatError Unit × EvaluationState :=
  formatter.evaluate scope pound [node] ⟨depth, ""⟩

/-- What constituents write, each of them by itself. -/
def written (formatter : Formatter π) (scope : Scope) (pound : String) (depth : Nat)
    (nodes : Tree π) : String :=
  String.join (nodes.map fun node => (formatter.alone scope pound depth node).2.output)

theorem evaluate_singleton (kinds : formatter.kinds.Appends) (node : Node π)
    (start : EvaluationState) :
    formatter.evaluate scope pound [node] start =
      ((formatter.alone scope pound start.depth node).1,
        (formatter.alone scope pound start.depth node).2.behind start.output) :=
  evaluate_eq_behind kinds [node] start

/-- A constituent that succeeds by itself leaves as many levels open as it finds. -/
theorem depth_of_alone_ok {depth : Nat} {node : Node π}
    (done : (formatter.alone scope pound depth node).1 = .ok ()) :
    (formatter.alone scope pound depth node).2.depth = depth := by
  have whole : (Request.outcome ⟨formatter, pound, [node], ""⟩ scope depth).1 = .ok () := done
  exact Request.depth_of_outcome_ok whole

/-- Constituents that succeed each by itself succeed one after the other. -/
theorem evaluate_of_alone_ok (kinds : formatter.kinds.Appends) {nodes : Tree π}
    {start : EvaluationState}
    (each : ∀ node ∈ nodes, (formatter.alone scope pound start.depth node).1 = .ok ()) :
    formatter.evaluate scope pound nodes start =
      (.ok (), ⟨start.depth,
        start.output ++ formatter.written scope pound start.depth nodes⟩) := by
  induction nodes generalizing start with
  | nil =>
    rw [written, List.map_nil, String.join_nil, String.append_empty]
    rfl
  | cons node nodes inductionHypothesis =>
    obtain ⟨here, others⟩ := List.forall_mem_cons.mp each
    have first : formatter.evaluate scope pound [node] start =
        (.ok (), ⟨start.depth,
          start.output ++ (formatter.alone scope pound start.depth node).2.output⟩) := by
      rw [evaluate_singleton kinds, here, EvaluationState.behind, depth_of_alone_ok here]
    -- As many levels are open behind the first one, so the others still succeed there.
    have rest : formatter.evaluate scope pound nodes ⟨start.depth,
        start.output ++ (formatter.alone scope pound start.depth node).2.output⟩ = _ :=
      inductionHypothesis others
    rw [← List.singleton_append, evaluate_append, first]
    dsimp only
    rw [rest, written, written, List.singleton_append, List.map_cons, String.join_cons,
      String.append_assoc]

/-- A constituent that fails by itself behind others that do not is the last one evaluated. -/
theorem evaluate_of_alone_error (kinds : formatter.kinds.Appends) {before : Tree π} {node : Node π}
    {start : EvaluationState} {error : FormatError}
    (each : ∀ earlier ∈ before, (formatter.alone scope pound start.depth earlier).1 = .ok ())
    (fault : (formatter.alone scope pound start.depth node).1 = .error error) (behind : Tree π) :
    formatter.evaluate scope pound (before ++ node :: behind) start =
      (.error error, ⟨(formatter.alone scope pound start.depth node).2.depth,
        start.output ++ formatter.written scope pound start.depth before ++
          (formatter.alone scope pound start.depth node).2.output⟩) := by
  rw [← List.singleton_append, evaluate_append, evaluate_of_alone_ok kinds each]
  dsimp only
  rw [evaluate_append, evaluate_singleton kinds, fault, EvaluationState.behind]

/-! ## The first fault -/

/-- An evaluation from `start` that comes to `error` and `stop` is stopped by `node`, which stands
behind `before`. -/
structure Stops (formatter : Formatter π) (scope : Scope) (pound : String)
    (start : EvaluationState) (error : FormatError) (stop : EvaluationState) (before : Tree π)
    (node : Node π) : Prop where
  /-- What stands before it succeeds, each constituent by itself. -/
  succeeded : ∀ earlier ∈ before, (formatter.alone scope pound start.depth earlier).1 = .ok ()
  /-- It succeeds in turn, too, and leaves all its outputs. -/
  reached : formatter.evaluate scope pound before start =
    (.ok (), ⟨start.depth, start.output ++ formatter.written scope pound start.depth before⟩)
  failed : (formatter.alone scope pound start.depth node).1 = .error error
  /-- What the constituent has written before it fails is kept. -/
  kept : stop = ⟨(formatter.alone scope pound start.depth node).2.depth,
    start.output ++ formatter.written scope pound start.depth before ++
      (formatter.alone scope pound start.depth node).2.output⟩
  /-- What stands behind it makes no difference. -/
  final : ∀ behind, formatter.evaluate scope pound (before ++ node :: behind) start =
    (.error error, stop)

/-- An evaluation that fails is stopped by a constituent. -/
theorem exists_stops (kinds : formatter.kinds.Appends) {tree : Tree π}
    {start stop : EvaluationState} {error : FormatError}
    (fails : formatter.evaluate scope pound tree start = (.error error, stop)) :
    ∃ before node behind, tree = before ++ node :: behind ∧
      formatter.Stops scope pound start error stop before node := by
  classical
  -- Were there no fault by itself, the whole would succeed; so there is a first one.
  have faulty : ∃ node ∈ tree, (formatter.alone scope pound start.depth node).1 ≠ .ok () := by
    by_contra faultless
    push Not at faultless
    rw [evaluate_of_alone_ok kinds faultless] at fails
    cases fails
  obtain ⟨node, found⟩ : ∃ node, tree.find? (fun node =>
      decide ((formatter.alone scope pound start.depth node).1 ≠ .ok ())) = some node := by
    rw [← Option.isSome_iff_exists, List.find?_isSome]
    simpa using faulty
  obtain ⟨failing, before, behind, rfl, earlier⟩ := List.find?_eq_some_iff_append.mp found
  have each : ∀ earlier ∈ before,
      (formatter.alone scope pound start.depth earlier).1 = .ok () := by simpa using earlier
  refine ⟨before, node, behind, rfl, ?_⟩
  cases result : (formatter.alone scope pound start.depth node).1 with
  | ok done => simp [result] at failing
  | error fault =>
    have whole := evaluate_of_alone_error kinds each result
    obtain ⟨rfl, rfl⟩ : error = fault ∧ stop = _ := by simpa using fails.symm.trans (whole behind)
    exact ⟨each, evaluate_of_alone_ok kinds each, result, rfl, whole⟩

/-- No constituent that stops an evaluation stands behind another one: that one would succeed. -/
theorem Stops.le {tree : Tree π} {start stop otherStop : EvaluationState}
    {error otherError : FormatError} {index later : Nat} {node other : Node π}
    (present : tree[index]? = some node)
    (stops : formatter.Stops scope pound start error stop (tree.take index) node)
    (stopsLater : formatter.Stops scope pound start otherError otherStop (tree.take later) other) :
    later ≤ index := by
  by_contra apart
  have within : (tree.take later)[index]? = some node := by
    rw [List.getElem?_take_of_lt (Nat.lt_of_not_le apart), present]
  have done := stopsLater.succeeded node (List.mem_of_getElem? within)
  rw [stops.failed] at done
  cases done

/-- If registered kinds only put text behind what is written, so does the evaluation of a tree:
from any output it comes to the same result, and leaves as many levels open, as from an empty one,
and writes the same. If it fails, exactly one constituent stops it: those before it succeed in
turn and are written completely, it fails with the error of the whole, and what it writes before
that is the end of the output. -/
theorem evaluate_stops (kinds : formatter.kinds.Appends) (tree : Tree π)
    (start : EvaluationState) :
    formatter.evaluate scope pound tree start =
        ((formatter.evaluate scope pound tree ⟨start.depth, ""⟩).1,
          ⟨(formatter.evaluate scope pound tree ⟨start.depth, ""⟩).2.depth,
            start.output ++ (formatter.evaluate scope pound tree ⟨start.depth, ""⟩).2.output⟩) ∧
      ∀ error stop, formatter.evaluate scope pound tree start = (.error error, stop) →
        ∃! index, ∃ node, tree[index]? = some node ∧
          formatter.Stops scope pound start error stop (tree.take index) node := by
  refine ⟨evaluate_eq_behind kinds tree start, fun error stop fails => ?_⟩
  obtain ⟨before, node, behind, rfl, stops⟩ := exists_stops kinds fails
  have present : (before ++ node :: behind)[before.length]? = some node := by simp
  have here : formatter.Stops scope pound start error stop
      ((before ++ node :: behind).take before.length) node := by
    rw [List.take_left]
    exact stops
  refine ⟨before.length, ⟨node, present, here⟩, ?_⟩
  rintro index ⟨other, there, elsewhere⟩
  exact Nat.le_antisymm (here.le present elsewhere) (elsewhere.le there here)

/-- A formatter with a registered kind, which writes the key of its expression twice. -/
def doubling : Formatter Unit :=
  let twice : Kind Unit :=
    ⟨none, some fun expression _ => Writer.append (expression.key ++ expression.key)⟩
  { (standard : Formatter Unit) with kinds := ⟨[("twice", twice)]⟩ }

theorem appends_doubling : doubling.kinds.Appends := by
  intro name kind format found formats expression args
  rw [KindRegistry.get?, doubling, List.lookup_cons] at found
  split at found
  · obtain rfl := Option.some.inj found
    obtain rfl := Option.some.inj formats
    exact Writer.appends_append _
  · cases found

/-- A key to be doubled, a choice in which a variable stands behind text, and more text. -/
def interrupted : Tree Unit :=
  [.custom "twice" "ab" (), .select "A" [("other", [.literal [.text ", "], .var "B"])],
    .literal [.text "!"]]

/-- With a list for the variable, which has no text, the choice stops the evaluation behind a
prompt: its level stays open, its text stays written, and the text behind it is not reached. -/
theorem evaluate_stops_interrupted :
    doubling.kinds.Appends ∧
    doubling.evaluate ⟨.ofList [("B", .list [])], .reject, 64⟩ "" interrupted ⟨0, "> "⟩ =
      (.error (.invalidArgType .string "list"), ⟨1, "> abab, "⟩) ∧
    ∃! index, ∃ node, interrupted[index]? = some node ∧
      doubling.Stops ⟨.ofList [("B", .list [])], .reject, 64⟩ "" ⟨0, "> "⟩
        (.invalidArgType .string "list") ⟨1, "> abab, "⟩ (interrupted.take index) node := by
  have fails : doubling.evaluate ⟨.ofList [("B", .list [])], .reject, 64⟩ "" interrupted
      ⟨0, "> "⟩ = (.error (.invalidArgType .string "list"), ⟨1, "> abab, "⟩) := by cbv
  exact ⟨appends_doubling, fails, (evaluate_stops appends_doubling interrupted _).2 _ _ fails⟩

end Formatter

end MessageTemplate
