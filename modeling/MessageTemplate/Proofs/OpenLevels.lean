import MessageTemplate.Proofs.Simulation

/-!
# Levels that stay open

An evaluation that succeeds closes every level that it opens. One that fails closes none of the
levels around the fault, and they count against the limit of all that is evaluated behind it with
the same count of levels. How much they count for is shown by evaluating a tree twice: with some
levels open already, and from the first level on with a limit that is lower by these. Both runs do
the same, step by step.
-/

namespace MessageTemplate

/-- The same state with `count` more levels open. -/
def EvaluationState.under (count : Nat) (state : EvaluationState) : EvaluationState :=
  { state with depth := state.depth + count }

namespace Evaluation

/-- With `count` more levels open the second action does what the first one does. The first one
closes no level that was open before it, and all levels that it opens unless it fails. -/
def descending (count : Nat) : Congruence where
  Relates first second := ∀ state,
    second.outcome (state.under count) =
        ((first.outcome state).1, (first.outcome state).2.under count) ∧
      state.depth ≤ (first.outcome state).2.depth ∧
      ∀ value, (first.outcome state).1 = .ok value →
        (first.outcome state).2.depth = state.depth
  relates_pure _ _ := ⟨rfl, Nat.le_refl _, fun _ _ => rfl⟩
  relates_bind := by
    intro α β first second next other here onward state
    obtain ⟨same, kept, closed⟩ := here state
    rw [outcome_bind, outcome_bind, same]
    generalize first.outcome state = came at kept closed
    obtain ⟨error | value, after⟩ := came
    · exact ⟨rfl, kept, fun _ impossible => by cases impossible⟩
    · have back : after.depth = state.depth := closed value rfl
      have behind := onward value after
      rw [back] at behind
      exact behind

theorem descending_lift {α : Type} (count : Nat) (result : Except FormatError α) :
    (descending count).Relates (lift result) (lift result) := by
  intro state
  simp

theorem descending_write (count : Nat) (text : String) :
    (descending count).Relates (write text) (write text) :=
  fun _ => ⟨rfl, Nat.le_refl _, fun _ _ => rfl⟩

theorem descending_ofWriter (count : Nat) (writer : Writer Unit) :
    (descending count).Relates (ofWriter writer) (ofWriter writer) := by
  intro state
  rw [outcome_ofWriter, outcome_ofWriter]
  exact ⟨rfl, Nat.le_refl _, fun _ _ => rfl⟩

/-- Opening a level and closing it again, where the limits differ by the levels that are open. -/
theorem descending_deeper {count : Nat} {left right : Scope}
    (lower : left.maxDepth = right.maxDepth - count) {action other : Evaluation Unit}
    (inner : (descending count).Relates action other) :
    (descending count).Relates (deeper left action) (deeper right other) := by
  intro state
  rw [deeper, deeper]
  by_cases room : state.depth < left.maxDepth
  · have roomUnder : (state.under count).depth < right.maxDepth := by
      rw [EvaluationState.under]
      dsimp only
      omega
    have opened : { state.under count with depth := (state.under count).depth + 1 } =
        EvaluationState.under count { state with depth := state.depth + 1 } := by
      simp [EvaluationState.under]
      omega
    obtain ⟨same, kept, closed⟩ := inner { state with depth := state.depth + 1 }
    rw [outcome_bind_of_ok (outcome_enter room), outcome_bind_of_ok (outcome_enter roomUnder),
      opened, outcome_bind, outcome_bind, same]
    generalize action.outcome { state with depth := state.depth + 1 } = came at kept closed
    obtain ⟨error | value, after⟩ := came
    · -- The level that was opened here is not closed.
      exact ⟨rfl, Nat.le_of_succ_le kept, fun _ impossible => by cases impossible⟩
    · have back : after.depth = state.depth + 1 := closed value rfl
      simp only [outcome_leave, EvaluationState.under, back, Nat.add_sub_cancel, Nat.le_refl,
        implies_true, and_true, Prod.mk.injEq, EvaluationState.mk.injEq, true_and]
      omega
  · have full := Nat.le_of_not_lt room
    have fullUnder : right.maxDepth ≤ (state.under count).depth := by
      rw [EvaluationState.under]
      dsimp only
      omega
    rw [outcome_bind, outcome_bind, outcome_enter_of_le full, outcome_enter_of_le fullUnder]
    exact ⟨rfl, Nat.le_refl _, fun _ impossible => by cases impossible⟩

end Evaluation

namespace Formatter

variable {π : Type}

/-- With levels open, a tree is evaluated as from the first level with a lower limit. -/
theorem relatesOn_open (formatter : Formatter π) (scope : Scope) (count : Nat) (tree : Tree π) :
    RelatesOn (Evaluation.descending count) formatter formatter
      { scope with maxDepth := scope.maxDepth - count } scope tree where
  write text := Evaluation.descending_write count text
  deeper := Evaluation.descending_deeper rfl
  text _ _ := Evaluation.descending_lift count _
  resolve kind _ _ _ _ := by cases kind <;> exact Evaluation.descending_lift count _
  day _ _ _ := Evaluation.descending_lift count _
  custom _ _ _ _ :=
    (Evaluation.descending count).relates_bind (Evaluation.descending_lift count _)
      (Evaluation.descending_ofWriter count)

end Formatter

/-! ## Evaluations one after the other -/

/-- An evaluation that is asked for. -/
structure Request (π : Type) where
  formatter : Formatter π
  pound : String
  tree : Tree π
  /-- What is written before it. -/
  output : String

namespace Request

variable {π : Type}

/-- What a request comes to where `depth` levels are open. -/
def outcome (request : Request π) (scope : Scope) (depth : Nat) :
    Except FormatError Unit × EvaluationState :=
  request.formatter.evaluate scope request.pound request.tree ⟨depth, request.output⟩

/-- The levels that are open after requests with one count of levels. -/
def depthAfter (scope : Scope) (depth : Nat) : List (Request π) → Nat
  | [] => depth
  | request :: requests => depthAfter scope (request.outcome scope depth).2.depth requests

/-- All requests succeed, each with the levels that the ones before it leave open. -/
def Succeed (scope : Scope) (depth : Nat) : List (Request π) → Prop
  | [] => True
  | request :: requests =>
    (request.outcome scope depth).1 = .ok () ∧
      Succeed scope (request.outcome scope depth).2.depth requests

/-- With levels open, a request comes to what it comes to from the first level with a lower limit,
where it closes no level that it has not opened, and all of these unless it fails. -/
theorem outcome_open (request : Request π) (scope : Scope) (depth : Nat) :
    let fresh := request.outcome { scope with maxDepth := scope.maxDepth - depth } 0
    request.outcome scope depth = (fresh.1, fresh.2.under depth) ∧
      (fresh.1 = .ok () → fresh.2.depth = 0) := by
  have steps := Formatter.relatesOn_open request.formatter scope depth request.tree
  obtain ⟨same, -, closed⟩ := steps.evaluateTree request.pound ⟨0, request.output⟩
  refine ⟨?_, closed ()⟩
  rw [EvaluationState.under, Nat.zero_add] at same
  exact same

theorem depth_le_outcome (request : Request π) (scope : Scope) (depth : Nat) :
    depth ≤ (request.outcome scope depth).2.depth := by
  rw [(request.outcome_open scope depth).1]
  exact Nat.le_add_left _ _

/-- A request that succeeds leaves as many levels open as it finds. -/
theorem depth_of_outcome_ok {request : Request π} {scope : Scope} {depth : Nat}
    (done : (request.outcome scope depth).1 = .ok ()) :
    (request.outcome scope depth).2.depth = depth := by
  obtain ⟨same, closed⟩ := request.outcome_open scope depth
  rw [same] at done ⊢
  rw [EvaluationState.under, closed done, Nat.zero_add]

theorem depth_le_depthAfter (scope : Scope) (depth : Nat) (requests : List (Request π)) :
    depth ≤ depthAfter scope depth requests := by
  induction requests generalizing depth with
  | nil => exact Nat.le_refl depth
  | cons request requests inductionHypothesis =>
    exact (request.depth_le_outcome scope depth).trans (inductionHypothesis _)

/-- Requests that succeed leave as many levels open as they find. -/
theorem Succeed.depthAfter_eq {scope : Scope} {depth : Nat} {requests : List (Request π)}
    (succeed : Succeed scope depth requests) : depthAfter scope depth requests = depth := by
  induction requests with
  | nil => rfl
  | cons request requests inductionHypothesis =>
    obtain ⟨done, rest⟩ := succeed
    have back := depth_of_outcome_ok done
    rw [depthAfter, back]
    rw [back] at rest
    exact inductionHypothesis rest

/-- Behind any requests, of which some may have failed, a request comes to what it comes to on a
fresh count of levels whose limit is lower by the levels that are open. There are as many open as
in the beginning if no request has failed, and never less; a request that succeeds leaves them
as they are, and one that fails adds those that it leaves open on the fresh count. -/
theorem outcome_depthAfter (scope : Scope) (depth : Nat) (requests : List (Request π))
    (request : Request π) (opened : Nat) (after : depthAfter scope depth requests = opened) :
    depth ≤ opened ∧ (Succeed scope depth requests → opened = depth) ∧
      request.outcome scope opened =
        ((request.outcome { scope with maxDepth := scope.maxDepth - opened } 0).1,
          (request.outcome { scope with maxDepth := scope.maxDepth - opened } 0).2.under opened) ∧
      ((request.outcome scope opened).1 = .ok () →
        (request.outcome scope opened).2.depth = opened) := by
  subst after
  refine ⟨depth_le_depthAfter scope depth requests, Succeed.depthAfter_eq, ?_, ?_⟩
  · exact (request.outcome_open scope _).1
  · exact depth_of_outcome_ok

/-- A list, which has no text, and a text. -/
def listAndText : Args := (Args.empty.insert "B" (.list [])).insert "C" (.string "ok")

/-- A choice whose body is the list. -/
def listInChoice : Request Unit :=
  ⟨.standard, "", [.select "A" [(otherChoice, [.var "B"])]], ""⟩

/-- A choice whose body is the text. -/
def textInChoice : Request Unit :=
  ⟨.standard, "", [.select "A" [(otherChoice, [.var "C"])]], ""⟩

/-- A fault in a choice takes one of two levels away, so the next choice is evaluated as with one
level, and another fault takes this one, too. -/
theorem outcome_depthAfter_twoLevels :
    depthAfter ⟨listAndText, .reject, 2⟩ 0 [textInChoice, listInChoice] = 1 ∧
    textInChoice.outcome ⟨listAndText, .reject, 2⟩ 1 = (.ok (), ⟨1, "ok"⟩) ∧
    listInChoice.outcome ⟨listAndText, .reject, 2⟩ 1 =
      (.error (.invalidArgType .string "list"), ⟨2, ""⟩) ∧
    textInChoice.outcome ⟨listAndText, .reject, 1⟩ 0 = (.ok (), ⟨0, "ok"⟩) := by
  have after : depthAfter ⟨listAndText, .reject, 2⟩ 0 [textInChoice, listInChoice] = 1 := by cbv
  have alone : textInChoice.outcome ⟨listAndText, .reject, 1⟩ 0 = (.ok (), ⟨0, "ok"⟩) := by cbv
  have same := outcome_depthAfter _ _ _ textInChoice 1 after
  have lowered := congrArg (fun came => (came.1, EvaluationState.under 1 came.2)) alone
  exact ⟨after, same.2.2.1.trans lowered, by cbv, alone⟩

/-- A fault in a choice leaves the level of the choice open. Where the limit is one level, no choice
is evaluated behind it, although the same choice is evaluated on a fresh count of levels. -/
theorem depth_of_failed_choice :
    listInChoice.outcome ⟨listAndText, .reject, 1⟩ 0 =
        (.error (.invalidArgType .string "list"), ⟨1, ""⟩) ∧
      textInChoice.outcome ⟨listAndText, .reject, 1⟩ 0 = (.ok (), ⟨0, "ok"⟩) ∧
      textInChoice.outcome ⟨listAndText, .reject, 1⟩
        (depthAfter ⟨listAndText, .reject, 1⟩ 0 [listInChoice]) =
          (.error .maxDepthExceeded, ⟨1, ""⟩) := by
  refine ⟨?_, ?_, ?_⟩
  · cbv
  · cbv
  · cbv

end Request

end MessageTemplate
