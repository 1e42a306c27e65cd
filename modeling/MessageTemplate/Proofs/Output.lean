import MessageTemplate.Proofs.Simulation

/-!
# Output is only added to

An evaluation neither reads what is written already nor takes any of it back: behind a text it
comes to the same result and writes the same as without that text. Registered kinds write by
themselves, so this is asked of those that occur in a tree.
-/

namespace MessageTemplate

/-- The same state with a text written before all the rest. -/
def EvaluationState.behind (text : String) (state : EvaluationState) : EvaluationState :=
  { state with output := text ++ state.output }

namespace Evaluation

variable {α β : Type}

/-- What is written already makes no difference to an action, and it stays. -/
def Appends (action : Evaluation α) : Prop :=
  ∀ text state, action.outcome (state.behind text) =
    ((action.outcome state).1, (action.outcome state).2.behind text)

/-- What an action leaves written begins with what was written before. -/
theorem Appends.exists_output {action : Evaluation α} (appends : action.Appends)
    (state : EvaluationState) :
    ∃ written, (action.outcome state).2.output = state.output ++ written := by
  have fresh := appends state.output ⟨state.depth, ""⟩
  rw [EvaluationState.behind, String.append_empty] at fresh
  exact ⟨_, congrArg (fun outcome => outcome.2.output) fresh⟩

theorem appends_pure (value : α) : (pure value : Evaluation α).Appends := fun _ _ => rfl

theorem appends_lift (result : Except FormatError α) : (lift result).Appends := by
  intro text state
  rw [outcome_lift, outcome_lift]

theorem appends_write (text : String) : (write text).Appends := by
  intro before state
  rw [outcome_write, outcome_write, EvaluationState.behind, EvaluationState.behind]
  simp only [String.append_assoc]

theorem appends_leave : leave.Appends := fun _ _ => rfl

theorem appends_enter (scope : Scope) : (enter scope).Appends := by
  intro text state
  by_cases room : state.depth < scope.maxDepth
  · rw [outcome_enter room, outcome_enter (show (state.behind text).depth < _ from room)]
    rfl
  · have full := Nat.le_of_not_lt room
    rw [outcome_enter_of_le full,
      outcome_enter_of_le (show _ ≤ (state.behind text).depth from full)]

theorem Appends.bind {action : Evaluation α} {next : α → Evaluation β} (first : action.Appends)
    (rest : ∀ value, (next value).Appends) : (action >>= next).Appends := by
  intro text state
  rw [outcome_bind, outcome_bind, first text state]
  rcases action.outcome state with ⟨error | value, after⟩
  · rfl
  · exact rest value text after

/-- Two actions of which each only adds to the output. -/
def appending : Congruence where
  Relates first second := first.Appends ∧ second.Appends
  relates_pure value := ⟨appends_pure value, appends_pure value⟩
  relates_bind first rest :=
    ⟨first.1.bind fun value => (rest value).1, first.2.bind fun value => (rest value).2⟩

end Evaluation

namespace Formatter

variable {π : Type}

/-- The evaluation of a tree only adds to the output, if the registered kinds in it do. -/
theorem appends_evaluateTree {formatter : Formatter π} {scope : Scope} {tree : Tree π}
    (custom : ∀ kind key payload, tree.Occurs (.custom kind key payload) →
      (Evaluation.lift (formatter.customWriter scope ⟨kind, key, payload⟩) >>=
        Evaluation.ofWriter).Appends) (pound : String) :
    (evaluateTree formatter scope pound tree).Appends := by
  have steps : RelatesOn Evaluation.appending formatter formatter scope scope tree := by
    constructor
    case write => exact fun text => ⟨Evaluation.appends_write text, Evaluation.appends_write text⟩
    case deeper =>
      exact Evaluation.appending.relates_deeper
        ⟨Evaluation.appends_enter scope, Evaluation.appends_enter scope⟩
        ⟨Evaluation.appends_leave, Evaluation.appends_leave⟩
    case text => exact fun name _ => ⟨Evaluation.appends_lift _, Evaluation.appends_lift _⟩
    case resolve =>
      exact fun kind key choices offset _ =>
        ⟨Evaluation.appends_lift _, Evaluation.appends_lift _⟩
    case day => exact fun key width _ => ⟨Evaluation.appends_lift _, Evaluation.appends_lift _⟩
    case custom =>
      exact fun kind key payload occurs =>
        ⟨custom kind key payload occurs, custom kind key payload occurs⟩
  exact (steps.evaluateTree pound).1

end Formatter

end MessageTemplate
