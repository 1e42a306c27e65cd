import MessageTemplate.Proofs.Adequacy
import MessageTemplate.Proofs.Occurrences
import MessageTemplate.Proofs.Output

/-!
# The depth limit of evaluation

A limit changes nothing but that it ends an evaluation. Under a higher limit the same tree is
evaluated alongside: both runs do the same until the lower limit refuses to open a level. What is
written up to there stays at the beginning of what the other run writes, since output is only added
to. A limit that is no less than the depth of the tree is never met.
-/

namespace MessageTemplate

namespace Evaluation

variable {α : Type}

/-- The first outcome is the fault of a limit, and what is written there begins what is written in
the second one. -/
def CutsOff (first second : Except FormatError α × EvaluationState) : Prop :=
  first.1 = .error .maxDepthExceeded ∧ ∃ more, second.2.output = first.2.output ++ more

/-- The first action does what the second one does, or it is cut off. The second one only adds to
the output. -/
def cutting : Congruence where
  Relates first second := second.Appends ∧
    ∀ state, second.outcome state = first.outcome state ∨
      CutsOff (first.outcome state) (second.outcome state)
  relates_pure value := ⟨appends_pure value, fun _ => .inl rfl⟩
  relates_bind := by
    rintro α β first second next other ⟨appends, step⟩ onward
    refine ⟨appends.bind fun value => (onward value).1, fun state => ?_⟩
    rw [outcome_bind, outcome_bind]
    have here := step state
    generalize first.outcome state = low at here ⊢
    generalize second.outcome state = high at here ⊢
    obtain ⟨result, after⟩ := low
    obtain ⟨answer, later⟩ := high
    rcases here with same | ⟨refused, more, written⟩
    · obtain ⟨rfl, rfl⟩ := Prod.mk.inj same
      cases answer with
      | error error => exact .inl rfl
      | ok value => exact (onward value).2 later
    · -- The second run goes on behind what both have written.
      right
      obtain rfl : result = .error .maxDepthExceeded := refused
      cases answer with
      | error error => exact ⟨rfl, more, written⟩
      | ok value =>
        obtain ⟨further, added⟩ := (onward value).1.exists_output later
        refine ⟨rfl, more ++ further, ?_⟩
        rw [added, show later.output = after.output ++ more from written, String.append_assoc]

theorem cutting_refl {action : Evaluation α} (appends : action.Appends) :
    cutting.Relates action action := ⟨appends, fun _ => .inl rfl⟩

/-- A lower limit opens a level as a higher one does, or it cuts off here. -/
theorem cutting_enter {low high : Scope} (lower : low.maxDepth ≤ high.maxDepth) :
    cutting.Relates (enter low) (enter high) := by
  refine ⟨appends_enter high, fun state => ?_⟩
  by_cases room : state.depth < low.maxDepth
  · left
    rw [outcome_enter room, outcome_enter (Nat.lt_of_lt_of_le room lower)]
  · right
    rw [outcome_enter_of_le (Nat.le_of_not_lt room)]
    refine ⟨rfl, "", ?_⟩
    rw [String.append_empty]
    by_cases more : state.depth < high.maxDepth
    · rw [outcome_enter more]
    · rw [outcome_enter_of_le (Nat.le_of_not_lt more)]

end Evaluation

namespace Formatter

variable {π : Type} {tree : Tree π}

/-- On a tree without registered kinds, limits make no difference but where they cut off. -/
theorem relatesOn_limits (formatter : Formatter π) (builtin : tree.IsBuiltin) (args : Args)
    (booleans : BooleanPolicy) {low high : Nat} (lower : low ≤ high) :
    RelatesOn Evaluation.cutting formatter formatter ⟨args, booleans, low⟩
      ⟨args, booleans, high⟩ tree where
  write text := Evaluation.cutting_refl (Evaluation.appends_write text)
  deeper := Evaluation.cutting.relates_deeper (Evaluation.cutting_enter lower)
    (Evaluation.cutting_refl Evaluation.appends_leave)
  text _ _ := Evaluation.cutting_refl (Evaluation.appends_lift _)
  resolve kind _ _ _ _ := by
    cases kind <;> exact Evaluation.cutting_refl (Evaluation.appends_lift _)
  day _ _ _ := Evaluation.cutting_refl (Evaluation.appends_lift _)
  custom kind key payload occurs := absurd occurs (builtin kind key payload)

/-- A tree without registered kinds fails for a limit only if it is deeper. -/
theorem lt_depth_of_maxDepthExceeded {formatter : Formatter π} {scope : Scope}
    {pound output : String} {after : EvaluationState} (builtin : tree.IsBuiltin)
    (refused : formatter.evaluate scope pound tree ⟨0, output⟩ =
      (.error .maxDepthExceeded, after)) : scope.maxDepth < tree.depth := by
  by_contra enough
  have typed {error : FormatError} (type : error.IsArgumentType) :
      error ≠ .maxDepthExceeded := by
    rintro rfl
    obtain ⟨expected, actual, same⟩ := type
    cases same
  have steps : FailsOnly (· ≠ .maxDepthExceeded) formatter scope tree := by
    constructor
    case text => exact fun name error _ failed => typed (Args.text_eq_error failed)
    case resolve =>
      intro kind key choices offset error _ failed
      rcases resolve_eq_error failed with type | ⟨-, rfl⟩
      · exact typed type
      · exact fun same => by cases same
    case day => exact fun key width error _ failed => typed (dateText_eq_error failed)
    case custom => exact fun kind key payload occurs => absurd occurs (builtin kind key payload)
  have room : 0 + tree.depth ≤ scope.maxDepth := by omega
  have safe := steps.safe_evaluateTree room pound ⟨0, output⟩ rfl
  rw [Evaluation.outcome, ← evaluate, refused] at safe
  exact safe rfl

/-- A tree without registered kinds is evaluated under two limits from the same output. Unless the
lower one is exceeded, the higher one makes no difference to the result, to what is written and to
the depth. If it is exceeded, then the tree is deeper than it, and what is written under it begins
what is written under the higher one. -/
theorem evaluate_of_maxDepth_le (formatter : Formatter π) (builtin : tree.IsBuiltin) (args : Args)
    (booleans : BooleanPolicy) (pound output : String) {low high : Nat} (lower : low ≤ high)
    {result : Except FormatError Unit} {after : EvaluationState}
    (ran : formatter.evaluate ⟨args, booleans, low⟩ pound tree ⟨0, output⟩ = (result, after)) :
    (result ≠ .error .maxDepthExceeded →
      formatter.evaluate ⟨args, booleans, high⟩ pound tree ⟨0, output⟩ = (result, after)) ∧
    (result = .error .maxDepthExceeded → low < tree.depth ∧
      ∃ written more, after.output = output ++ written ∧
        (formatter.evaluate ⟨args, booleans, high⟩ pound tree ⟨0, output⟩).2.output =
          output ++ written ++ more) := by
  have cut := ((relatesOn_limits formatter builtin args booleans lower).evaluateTree pound).2
    ⟨0, output⟩
  rw [Evaluation.outcome, Evaluation.outcome, ← evaluate, ← evaluate, ran] at cut
  constructor
  · intro other
    rcases cut with same | ⟨refused, -⟩
    · exact same
    · exact absurd refused other
  · rintro rfl
    refine ⟨lt_depth_of_maxDepthExceeded builtin ran, ?_⟩
    have appends : (evaluateTree formatter ⟨args, booleans, low⟩ pound tree).Appends :=
      appends_evaluateTree (fun kind key payload occurs => absurd occurs (builtin kind key payload))
        pound
    obtain ⟨written, added⟩ := appends.exists_output ⟨0, output⟩
    rw [Evaluation.outcome, ← evaluate, ran] at added
    change after.output = output ++ written at added
    rcases cut with same | ⟨-, more, begun⟩
    · refine ⟨written, "", added, ?_⟩
      rw [same, added, String.append_empty]
    · refine ⟨written, more, added, ?_⟩
      rw [begun, added]

/-- A choice in a choice, behind some text. -/
def nestedChoice : Tree Unit :=
  [.select "A" [("other", [.literal [.text "B: "], .select "B" [("other", [.var "C"])]])]]

/-- The inner choice is cut off behind the text that stands before it. -/
theorem evaluate_of_maxDepth_le_nested :
    nestedChoice.IsBuiltin ∧
    standard.evaluate ⟨Args.empty.insert "C" (.string "ok"), .reject, 1⟩ "" nestedChoice
      ⟨0, "A: "⟩ = (.error .maxDepthExceeded, ⟨1, "A: B: "⟩) ∧
    ∃ written more, "A: B: " = "A: " ++ written ∧
      (standard.evaluate ⟨Args.empty.insert "C" (.string "ok"), .reject, 2⟩ "" nestedChoice
        ⟨0, "A: "⟩).2.output = "A: " ++ written ++ more := by
  have parsed : Parser.parse {}
      "\x7bA, select, other\x7bB: \x7bB, select, other\x7b\x7bC\x7d\x7d\x7d\x7d\x7d" =
      .ok nestedChoice := by with_unfolding_all rfl
  have builtin := Parser.isBuiltin_of_parse parsed
  have ran : standard.evaluate ⟨Args.empty.insert "C" (.string "ok"), .reject, 1⟩ "" nestedChoice
      ⟨0, "A: "⟩ = (.error .maxDepthExceeded, ⟨1, "A: B: "⟩) := by cbv
  have cut := evaluate_of_maxDepth_le standard builtin _ _ _ _ (show 1 ≤ 2 by decide) ran
  exact ⟨builtin, ran, (cut.2 rfl).2⟩

end Formatter

end MessageTemplate
