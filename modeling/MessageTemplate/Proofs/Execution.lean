import MessageTemplate.Format.Evaluation
import MessageTemplate.Proofs.Trees

/-!
# Steps of an evaluation

What each step of an evaluation comes to, and the one form that the three kinds of choices
share: a resolution, and the body that it names.
-/

namespace MessageTemplate

/-- A composed result fails where one of its steps does. -/
theorem bind_eq_error_iff {ε α β : Type} {first : Except ε α} {next : α → Except ε β} {error : ε} :
    (first >>= next) = .error error ↔
      first = .error error ∨ ∃ value, first = .ok value ∧ next value = .error error := by
  cases first <;> simp [bind, Except.bind]

theorem bind_eq_ok_iff {ε α β : Type} {first : Except ε α} {next : α → Except ε β} {result : β} :
    (first >>= next) = .ok result ↔ ∃ value, first = .ok value ∧ next value = .ok result := by
  cases first <;> simp [bind, Except.bind]

namespace Evaluation

variable {α β : Type}

/-- What an action comes to from a state: its result and the state afterwards. -/
def outcome (action : Evaluation α) (state : EvaluationState) :
    Except FormatError α × EvaluationState :=
  action.run.run state

@[simp] theorem outcome_pure (value : α) (state : EvaluationState) :
    (pure value : Evaluation α).outcome state = (.ok value, state) := rfl

@[simp] theorem outcome_lift (result : Except FormatError α) (state : EvaluationState) :
    (lift result).outcome state = (result, state) := by
  cases result <;> rfl

@[simp] theorem outcome_write (text : String) (state : EvaluationState) :
    (write text).outcome state = (.ok (), { state with output := state.output ++ text }) := rfl

@[simp] theorem outcome_leave (state : EvaluationState) :
    leave.outcome state = (.ok (), { state with depth := state.depth - 1 }) := rfl

theorem outcome_bind (action : Evaluation α) (next : α → Evaluation β) (state : EvaluationState) :
    (action >>= next).outcome state =
      match action.outcome state with
      | (.ok value, after) => (next value).outcome after
      | (.error error, after) => (.error error, after) := by
  change (ExceptT.run (action >>= next)).run state = _
  simp only [outcome, ExceptT.run_bind, StateT.run_bind]
  rcases action.run.run state with ⟨result, after⟩
  cases result <;> rfl

/-- What an action goes on with after a value. -/
theorem outcome_bind_of_ok {action : Evaluation α} {next : α → Evaluation β}
    {state after : EvaluationState} {value : α} (done : action.outcome state = (.ok value, after)) :
    (action >>= next).outcome state = (next value).outcome after := by
  rw [outcome_bind, done]

/-- Opening a level, where the limit allows it. -/
theorem outcome_enter {scope : Scope} {state : EvaluationState}
    (room : state.depth < scope.maxDepth) :
    (enter scope).outcome state = (.ok (), { state with depth := state.depth + 1 }) := by
  have opened : scope.enter state.depth = .ok (state.depth + 1) := by
    rw [Scope.enter, if_neg (Nat.not_le_of_lt room)]
  have start : (get : Evaluation EvaluationState).outcome state = (.ok state, state) := rfl
  rw [enter, outcome_bind_of_ok start, outcome_bind, outcome_lift, opened]
  rfl

/-- Where the limit is reached no level is opened, and nothing else changes. -/
theorem outcome_enter_of_le {scope : Scope} {state : EvaluationState}
    (full : scope.maxDepth ≤ state.depth) :
    (enter scope).outcome state = (.error .maxDepthExceeded, state) := by
  have refused : scope.enter state.depth = .error .maxDepthExceeded := by
    rw [Scope.enter, if_pos full]
  have start : (get : Evaluation EvaluationState).outcome state = (.ok state, state) := rfl
  rw [enter, outcome_bind_of_ok start, outcome_bind, outcome_lift, refused]

/-- How deep an evaluation may go is all that a level asks of its scope. -/
theorem enter_congr {left right : Scope} (limit : left.maxDepth = right.maxDepth) :
    enter left = enter right := by
  unfold enter Scope.enter
  rw [limit]

/-- A registered kind writes to the output and does nothing else. -/
theorem outcome_ofWriter (writer : Writer Unit) (state : EvaluationState) :
    (ofWriter writer).outcome state =
      ((writer.run.run state.output).1,
        { state with output := (writer.run.run state.output).2 }) := by
  have start : (get : Evaluation EvaluationState).outcome state = (.ok state, state) := rfl
  rw [ofWriter, outcome_bind_of_ok start]
  rcases writer.run.run state.output with ⟨result, output⟩
  have kept : (set { state with output } : Evaluation PUnit).outcome state =
      (.ok ⟨⟩, { state with output }) := rfl
  rw [outcome_bind_of_ok kept, outcome_lift]

end Evaluation

/-! ## Choices -/

/-- The body that a resolution names is there. -/
theorem Resolution.chosen?_isSome {π : Type} {resolution : Resolution} {choices : Choices π}
    {name : String} (candidate : name ∈ resolution.candidates)
    (present : (choices.get? name).isSome) : (resolution.chosen? choices).isSome := by
  rw [Resolution.chosen?, List.find?_isSome]
  exact ⟨name, candidate, present⟩

theorem Resolution.get?_chosen {π : Type} {resolution : Resolution} {choices : Choices π}
    {name : String} (chosen : resolution.chosen? choices = some name) :
    (choices.get? name).isSome := by
  unfold Resolution.chosen? at chosen
  simpa using List.find?_some chosen

namespace Formatter

variable {π : Type}

/-- Choose for an expression of a kind. -/
def resolve (formatter : Formatter π) (scope : Scope) (kind : ChoiceKind) (key : String)
    (choices : Choices π) (offset : UInt64) : Except FormatError Resolution :=
  match kind with
  | .select => resolveSelect scope key
  | .selectOrdinal => formatter.resolveOrdinal scope key
  | .plural => formatter.resolvePlural scope key choices offset

/-- An expression with choices is resolved, and then the body is evaluated that was chosen. -/
theorem evaluateNode_node (formatter : Formatter π) (scope : Scope) (pound : String)
    (kind : ChoiceKind) (key : String) (choices : Choices π) (offset : UInt64) :
    evaluateNode formatter scope pound (kind.node key choices offset) =
      (Evaluation.lift (formatter.resolve scope kind key choices offset) >>= fun resolution =>
        evaluateChoice formatter scope resolution.pound (resolution.chosen? choices) choices) := by
  cases kind <;> simp only [ChoiceKind.node, evaluateNode, resolve]

/-! ## Whole trees -/

/-- A tree may be evaluated in two pieces. -/
theorem evaluateTree_append (formatter : Formatter π) (scope : Scope) (pound : String)
    (before behind : Tree π) :
    evaluateTree formatter scope pound (before ++ behind) =
      evaluateTree formatter scope pound before >>= fun _ =>
        evaluateTree formatter scope pound behind := by
  induction before with
  | nil => rw [List.nil_append, evaluateTree, pure_bind]
  | cons node before inductionHypothesis =>
    rw [List.cons_append, evaluateTree, evaluateTree, inductionHypothesis, bind_assoc]

/-- The scope in which a formatter evaluates a tree with given arguments. -/
def scope (formatter : Formatter π) (args : Args) : Scope :=
  ⟨args, formatter.booleans, formatter.maxDepth⟩

/-- Formatting evaluates a tree from an empty output and gives the output. -/
theorem format_eq (formatter : Formatter π) (tree : Tree π) (args : Args) :
    formatter.format tree args =
      match (evaluateTree formatter (formatter.scope args) "" tree).outcome ⟨0, ""⟩ with
      | (.ok _, after) => .ok after.output
      | (.error error, _) => .error error := rfl

theorem format_of_outcome {formatter : Formatter π} {tree : Tree π} {args : Args}
    {after : EvaluationState}
    (done : (evaluateTree formatter (formatter.scope args) "" tree).outcome ⟨0, ""⟩ =
      (.ok (), after)) : formatter.format tree args = .ok after.output := by
  rw [format_eq, done]

theorem format_eq_error_iff {formatter : Formatter π} {tree : Tree π} {args : Args}
    {error : FormatError} : formatter.format tree args = .error error ↔
      ∃ after, (evaluateTree formatter (formatter.scope args) "" tree).outcome ⟨0, ""⟩ =
        (.error error, after) := by
  rw [format_eq]
  rcases (evaluateTree formatter (formatter.scope args) "" tree).outcome ⟨0, ""⟩ with
    ⟨failure | value, after⟩ <;> simp

end Formatter

end MessageTemplate
