import MessageTemplate.Proofs.Configuration
import MessageTemplate.Proofs.Execution
import MessageTemplate.Proofs.Shape

/-!
# Parsing is adequate for formatting

A parsed tree has whatever its evaluation needs: every choice finds a body, the limit is never
met, every kind is registered. A formatter that was built has a selector, and no call takes it
away. What is left to fail are arguments of the wrong type and the registered kinds themselves.
-/

namespace MessageTemplate

/-! ## Faults of arguments -/

/-- An argument is of another type than its expression needs. -/
def FormatError.IsArgumentType (error : FormatError) : Prop :=
  ∃ expected actual, error = .invalidArgType expected actual

theorem Value.mismatch_isArgumentType (expected : ArgumentKind) (value : Value) :
    (value.mismatch expected).IsArgumentType := ⟨expected, value.typeName, rfl⟩

theorem Value.text_eq_error {booleans : BooleanPolicy} {value : Value} {error : FormatError}
    (failed : value.text booleans = .error error) : error.IsArgumentType := by
  cases value with
  | null | string | number | duration | datetime | display => simp [Value.text] at failed
  | list | map =>
    obtain rfl := Except.error.inj failed
    exact Value.mismatch_isArgumentType _ _
  | bool =>
    cases booleans with
    | render => simp [Value.text] at failed
    | reject =>
      obtain rfl := Except.error.inj failed
      exact Value.mismatch_isArgumentType _ _

theorem Value.toNumber_eq_error {value : Value} {error : FormatError}
    (failed : value.toNumber = .error error) : error.IsArgumentType := by
  unfold Value.toNumber at failed
  split at failed
  · cases failed
  · split at failed
    · cases failed
    · obtain rfl := Except.error.inj failed
      exact Value.mismatch_isArgumentType _ _
  · obtain rfl := Except.error.inj failed
    exact Value.mismatch_isArgumentType _ _

theorem Args.text_eq_error {args : Args} {name : String} {booleans : BooleanPolicy}
    {error : FormatError} (failed : args.text name booleans = .error error) :
    error.IsArgumentType := by
  unfold Args.text at failed
  split at failed
  · cases failed
  · exact Value.text_eq_error failed

theorem Formatter.exactChoice_eq_error {value : Value} {error : FormatError}
    (failed : exactChoice value = .error error) : error.IsArgumentType := by
  unfold exactChoice at failed
  split at failed
  · cases failed
  · cases failed
  · obtain rfl := Except.error.inj failed
    exact Value.mismatch_isArgumentType _ _

theorem Formatter.dateText_eq_error {π : Type} {formatter : Formatter π} {scope : Scope}
    {key : String} {width : DateWidth} {error : FormatError}
    (failed : formatter.dateText scope key width = .error error) : error.IsArgumentType := by
  unfold dateText at failed
  split at failed
  · cases failed
  · obtain rfl := Except.error.inj failed
    exact Value.mismatch_isArgumentType _ _
  · obtain rfl := Except.error.inj failed
    exact ⟨_, _, rfl⟩

/-! ## Choices -/

namespace Formatter

variable {π : Type} {formatter : Formatter π} {scope : Scope} {kind : ChoiceKind} {key : String}
  {choices : Choices π} {offset : UInt64}

/-- A number lacks a category only where nothing selects one. -/
theorem categoryName_eq_error {number : Number} {type : PluralType} {error : FormatError}
    (failed : formatter.categoryName number type = .error error) :
    formatter.selector? = none ∧ error = .undefinedPluralFunc := by
  unfold categoryName at failed
  split at failed
  · cases failed
  · exact ⟨‹_›, (Except.error.inj failed).symm⟩

/-- Choosing fails for the type of the argument, or for want of a selector. -/
theorem resolve_eq_error {error : FormatError}
    (failed : formatter.resolve scope kind key choices offset = .error error) :
    error.IsArgumentType ∨ formatter.selector? = none ∧ error = .undefinedPluralFunc := by
  cases kind with
  | select =>
    rcases bind_eq_error_iff.mp failed with failed | ⟨text, -, failed⟩
    · exact .inl (Args.text_eq_error failed)
    · cases failed
  | selectOrdinal =>
    simp only [resolve, resolveOrdinal] at failed
    split at failed
    · cases failed
    rcases bind_eq_error_iff.mp failed with failed | ⟨number, -, failed⟩
    · exact .inl (Value.toNumber_eq_error failed)
    rcases bind_eq_error_iff.mp failed with failed | ⟨category, -, failed⟩
    · exact .inr (categoryName_eq_error failed)
    rcases bind_eq_error_iff.mp failed with failed | ⟨text, -, failed⟩
    · exact .inl (Value.text_eq_error failed)
    · cases failed
  | plural =>
    simp only [resolve, resolvePlural] at failed
    split at failed
    · cases failed
    rcases bind_eq_error_iff.mp failed with failed | ⟨exact, -, failed⟩
    · exact .inl (exactChoice_eq_error failed)
    rcases bind_eq_error_iff.mp failed with failed | ⟨text, -, failed⟩
    · exact .inl (Value.text_eq_error failed)
    split at failed
    · cases failed
    rcases bind_eq_error_iff.mp failed with failed | ⟨number, -, failed⟩
    · exact .inl (Value.toNumber_eq_error failed)
    rcases bind_eq_error_iff.mp failed with failed | ⟨category, -, failed⟩
    · exact .inr (categoryName_eq_error failed)
    · cases failed

/-- Where there is a choice `other`, some choice is always chosen. -/
theorem chosen?_isSome_of_resolve (complete : otherChoice ∈ choices.map (·.1))
    {resolution : Resolution}
    (resolved : formatter.resolve scope kind key choices offset = .ok resolution) :
    (resolution.chosen? choices).isSome := by
  have standIn : (choices.get? otherChoice).isSome := Choices.get?_isSome_iff.mpr complete
  cases kind with
  | select =>
    obtain ⟨text, -, same⟩ := bind_eq_ok_iff.mp resolved
    obtain rfl := Except.ok.inj same
    exact Resolution.chosen?_isSome (List.mem_cons_of_mem _ List.mem_cons_self) standIn
  | selectOrdinal =>
    simp only [resolve, resolveOrdinal] at resolved
    split at resolved
    · obtain rfl := Except.ok.inj resolved
      exact Resolution.chosen?_isSome List.mem_cons_self standIn
    · obtain ⟨number, -, resolved⟩ := bind_eq_ok_iff.mp resolved
      obtain ⟨category, -, resolved⟩ := bind_eq_ok_iff.mp resolved
      obtain ⟨text, -, same⟩ := bind_eq_ok_iff.mp resolved
      obtain rfl := Except.ok.inj same
      exact Resolution.chosen?_isSome (List.mem_cons_of_mem _ List.mem_cons_self) standIn
  | plural =>
    simp only [resolve, resolvePlural] at resolved
    split at resolved
    · obtain rfl := Except.ok.inj resolved
      exact Resolution.chosen?_isSome List.mem_cons_self standIn
    · obtain ⟨exact, -, resolved⟩ := bind_eq_ok_iff.mp resolved
      obtain ⟨text, -, resolved⟩ := bind_eq_ok_iff.mp resolved
      split at resolved
      · rename_i present
        obtain rfl := Except.ok.inj resolved
        exact Resolution.chosen?_isSome List.mem_cons_self present
      · obtain ⟨number, -, resolved⟩ := bind_eq_ok_iff.mp resolved
        obtain ⟨category, -, same⟩ := bind_eq_ok_iff.mp resolved
        obtain rfl := Except.ok.inj same
        exact Resolution.chosen?_isSome (List.mem_cons_of_mem _ List.mem_cons_self) standIn

end Formatter

/-! ## Safe evaluation -/

/-- From a depth, an action either comes back to this depth or fails as `expected`. -/
def Evaluation.Safe {α : Type} (expected : FormatError → Prop) (depth : Nat)
    (action : Evaluation α) : Prop :=
  ∀ state, state.depth = depth →
    match action.outcome state with
    | (.ok _, after) => after.depth = depth
    | (.error error, _) => expected error

namespace Evaluation

variable {α β : Type} {expected : FormatError → Prop} {depth : Nat}

theorem Safe.pure (value : α) : (Pure.pure value : Evaluation α).Safe expected depth :=
  fun _ here => here

theorem Safe.bind {action : Evaluation α} {next : α → Evaluation β}
    (first : action.Safe expected depth) (rest : ∀ value, (next value).Safe expected depth) :
    (action >>= next).Safe expected depth := by
  intro state here
  have came := first state here
  rw [outcome_bind]
  rcases result : action.outcome state with ⟨error | value, after⟩ <;> rw [result] at came
  · exact came
  · exact rest value after came

/-- A value is used only where there is one. -/
theorem Safe.lift_bind {result : Except FormatError α} {next : α → Evaluation β}
    (fails : ∀ error, result = .error error → expected error)
    (rest : ∀ value, result = .ok value → (next value).Safe expected depth) :
    (lift result >>= next).Safe expected depth := by
  intro state here
  rw [outcome_bind, outcome_lift]
  cases result with
  | error error => exact fails error rfl
  | ok value => exact rest value rfl state here

theorem safe_write (text : String) : (write text).Safe expected depth :=
  fun _ here => here

/-- One level deeper, where the limit allows it. -/
theorem Safe.deeper {scope : Scope} {action : Evaluation Unit} (room : depth < scope.maxDepth)
    (inner : action.Safe expected (depth + 1)) : (deeper scope action).Safe expected depth := by
  intro state here
  subst here
  rw [Evaluation.deeper, outcome_bind_of_ok (outcome_enter room), outcome_bind]
  have came := inner { state with depth := state.depth + 1 } rfl
  rcases result : action.outcome { state with depth := state.depth + 1 } with
    ⟨error | value, after⟩ <;> rw [result] at came
  · exact came
  · have back : after.depth = state.depth + 1 := came
    simp [back]

theorem safe_ofWriter {writer : Writer Unit}
    (fails : ∀ buffer error written, writer.run.run buffer = (.error error, written) →
      expected error) : (ofWriter writer).Safe expected depth := by
  intro state here
  rw [outcome_ofWriter]
  rcases written : writer.run.run state.output with ⟨error | value, output⟩
  · exact fails state.output error output written
  · exact here

end Evaluation

namespace Formatter

variable {π : Type}

/-- Where a fault of formatting a tree may come from: an argument of the wrong type, a kind
that is registered for parsing only, or a registered kind that failed itself. -/
inductive Attributable (kinds : KindRegistry π) (args : Args) (tree : Tree π) :
    FormatError → Prop where
  | argument {error : FormatError} (type : error.IsArgumentType) :
      Attributable kinds args tree error
  | unformatted {name key : String} {payload : π} {kind : Kind π}
      (occurs : tree.Occurs (.custom name key payload)) (known : kinds.get? name = some kind)
      (parsingOnly : kind.format? = none) :
      Attributable kinds args tree (.undefinedFormatFunc name)
  | raised {name key buffer written : String} {payload : π} {kind : Kind π}
      {format : CustomExpression π → Args → Writer Unit} {error : FormatError}
      (occurs : tree.Occurs (.custom name key payload)) (known : kinds.get? name = some kind)
      (formats : kind.format? = some format)
      (failed : (format ⟨name, key, payload⟩ args).run.run buffer = (.error error, written)) :
      Attributable kinds args tree error

section Evaluation

variable {formatter : Formatter π} {scope : Scope} {pound : String} {depth : Nat}

/-- A tree is safe to evaluate if each of its constituents is. -/
theorem safe_evaluateTree_of_nodes {expected : FormatError → Prop} {tree : Tree π}
    (each : ∀ node ∈ tree, (evaluateNode formatter scope pound node).Safe expected depth) :
    (evaluateTree formatter scope pound tree).Safe expected depth := by
  induction tree with
  | nil =>
    rw [evaluateTree]
    exact .pure ()
  | cons node tree inductionHypothesis =>
    obtain ⟨first, rest⟩ := List.forall_mem_cons.mp each
    rw [evaluateTree]
    exact first.bind fun _ => inductionHypothesis rest

/-- A choice is safe to evaluate if each of its bodies is, one level deeper. -/
theorem safe_evaluateChoice {expected : FormatError → Prop} {choices : Choices π}
    (bodies : ∀ choice ∈ choices,
      (Evaluation.deeper scope (evaluateTree formatter scope pound choice.2)).Safe expected depth)
    (chosen? : Option String) :
    (evaluateChoice formatter scope pound chosen? choices).Safe expected depth := by
  induction choices with
  | nil =>
    rw [evaluateChoice]
    exact .pure ()
  | cons choice choices inductionHypothesis =>
    obtain ⟨name, body⟩ := choice
    obtain ⟨here, others⟩ := List.forall_mem_cons.mp bodies
    rw [evaluateChoice]
    split
    · exact here
    · exact inductionHypothesis others

/-- What the constituents of a tree ask for fails as expected only. -/
structure FailsOnly (expected : FormatError → Prop) (formatter : Formatter π) (scope : Scope)
    (tree : Tree π) : Prop where
  text : ∀ name error, tree.Occurs (.var name) → scope.text name = .error error → expected error
  resolve : ∀ (kind : ChoiceKind) (key : String) (choices : Choices π) (offset : UInt64) error,
    tree.Occurs (kind.node key choices offset) →
      formatter.resolve scope kind key choices offset = .error error → expected error
  day : ∀ key width error, tree.Occurs (.date key width) →
    formatter.dateText scope key width = .error error → expected error
  custom : ∀ kind key payload, tree.Occurs (.custom kind key payload) → ∀ depth,
    (Evaluation.lift (formatter.customWriter scope ⟨kind, key, payload⟩) >>=
      Evaluation.ofWriter).Safe expected depth

theorem FailsOnly.mono {expected : FormatError → Prop} {tree whole : Tree π}
    (steps : FailsOnly expected formatter scope whole)
    (part : ∀ node, tree.Occurs node → whole.Occurs node) :
    FailsOnly expected formatter scope tree where
  text name error occurs := steps.text name error (part _ occurs)
  resolve kind key choices offset error occurs :=
    steps.resolve kind key choices offset error (part _ occurs)
  day key width error occurs := steps.day key width error (part _ occurs)
  custom kind key payload occurs := steps.custom kind key payload (part _ occurs)

/-- A tree fails as expected only, where the limit leaves room for its depth. -/
theorem FailsOnly.safe_evaluateTree {expected : FormatError → Prop} {tree : Tree π}
    (steps : FailsOnly expected formatter scope tree)
    (room : depth + tree.depth ≤ scope.maxDepth) (pound : String) :
    (evaluateTree formatter scope pound tree).Safe expected depth := by
  induction tree using Tree.bodyInduction generalizing depth pound with
  | step tree inductionHypothesis =>
    refine safe_evaluateTree_of_nodes fun node member => ?_
    cases node using Node.casesKind with
    | literal parts =>
      rw [evaluateNode]
      exact Evaluation.safe_write _
    | var name =>
      rw [evaluateNode]
      exact .lift_bind (fun error => steps.text name error (.here member))
        fun text _ => Evaluation.safe_write text
    | choices kind key choices offset =>
      rw [evaluateNode_node]
      refine .lift_bind (fun error => steps.resolve kind key choices offset error (.here member)) ?_
      intro resolution _
      refine safe_evaluateChoice (fun choice listed => ?_) _
      have shallower := Tree.depth_body_lt member listed
      refine .deeper (by omega) ?_
      apply inductionHypothesis kind key choices offset member choice listed
      · exact steps.mono fun node within => .inside member listed within
      · omega
    | date key width =>
      rw [evaluateNode]
      exact .lift_bind (fun error => steps.day key width error (.here member))
        fun text _ => Evaluation.safe_write text
    | custom kind key payload =>
      rw [evaluateNode]
      exact steps.custom kind key payload (.here member) depth

/-- An expression of a kind that is registered fails for its formatting half only. -/
theorem safe_customWriter {tree : Tree π} {name key : String} {payload : π}
    (occurs : tree.Occurs (.custom name key payload)) (registered : formatter.kinds.Parses name) :
    (Evaluation.lift (formatter.customWriter scope ⟨name, key, payload⟩) >>=
      Evaluation.ofWriter).Safe (Attributable formatter.kinds scope.args tree) depth := by
  obtain ⟨kind, known, -⟩ := registered
  cases formats : kind.format? with
  | none =>
    refine .lift_bind ?_ ?_
    · intro error failed
      obtain rfl : FormatError.undefinedFormatFunc name = error := by
        simpa [customWriter, known, formats] using failed
      exact .unformatted occurs known formats
    · intro writer given
      simp [customWriter, known, formats] at given
  | some format =>
    refine .lift_bind ?_ ?_
    · intro error failed
      simp [customWriter, known, formats] at failed
    · intro writer given
      obtain rfl : format ⟨name, key, payload⟩ scope.args = writer := by
        simpa [customWriter, known, formats] using given
      exact Evaluation.safe_ofWriter fun buffer error written failed =>
        .raised occurs known formats failed

/-- A proper part of a tree is safe to evaluate where the limit leaves room for its depth. -/
theorem safe_evaluateTree (selects : formatter.selector?.isSome) (whole : Tree π) {tree : Tree π}
    (part : ∀ node, tree.Occurs node → whole.Occurs node)
    (proper : IsProperTree formatter.kinds.Parses tree)
    (room : depth + tree.depth ≤ scope.maxDepth) (pound : String) :
    (evaluateTree formatter scope pound tree).Safe
      (Attributable formatter.kinds scope.args whole) depth := by
  have steps : FailsOnly (Attributable formatter.kinds scope.args whole) formatter scope tree := by
    constructor
    case text => exact fun name error _ failed => .argument (Args.text_eq_error failed)
    case resolve =>
      intro kind key choices offset error _ failed
      rcases resolve_eq_error failed with type | ⟨absent, -⟩
      · exact .argument type
      · rw [absent] at selects
        cases selects
    case day => exact fun key width error _ failed => .argument (dateText_eq_error failed)
    case custom =>
      intro kind key payload occurs depth
      exact safe_customWriter (part _ occurs) (proper.known_of_occurs occurs)
  exact steps.safe_evaluateTree room pound

end Evaluation

/-! ## Missing choices -/

mutual

/-- Evaluate constituents, and do `missing` wherever no choice has the chosen name. -/
def evaluateTreeOr (missing : Evaluation Unit) (formatter : Formatter π) (scope : Scope)
    (pound : String) : List (Node π) → Evaluation Unit
  | [] => pure ()
  | node :: nodes => do
    evaluateNodeOr missing formatter scope pound node
    evaluateTreeOr missing formatter scope pound nodes

/-- Evaluate a constituent, and do `missing` wherever no choice has the chosen name. -/
def evaluateNodeOr (missing : Evaluation Unit) (formatter : Formatter π) (scope : Scope)
    (pound : String) : Node π → Evaluation Unit
  | .select key choices => do
    let resolution ← Evaluation.lift (resolveSelect scope key)
    evaluateChoiceOr missing formatter scope resolution.pound (resolution.chosen? choices) choices
  | .selectOrdinal key choices => do
    let resolution ← Evaluation.lift (formatter.resolveOrdinal scope key)
    evaluateChoiceOr missing formatter scope resolution.pound (resolution.chosen? choices) choices
  | .plural key choices offset => do
    let resolution ← Evaluation.lift (formatter.resolvePlural scope key choices offset)
    evaluateChoiceOr missing formatter scope resolution.pound (resolution.chosen? choices) choices
  | .literal parts => evaluateNode formatter scope pound (.literal parts)
  | .var name => evaluateNode formatter scope pound (.var name)
  | .date key width => evaluateNode formatter scope pound (.date key width)
  | .custom kind key payload => evaluateNode formatter scope pound (.custom kind key payload)

/-- Evaluate the first choice of a name, or do `missing` if there is none. -/
def evaluateChoiceOr (missing : Evaluation Unit) (formatter : Formatter π) (scope : Scope)
    (pound : String) (chosen? : Option String) : List (String × List (Node π)) → Evaluation Unit
  | [] => missing
  | (name, body) :: choices =>
    if chosen? = some name then
      Evaluation.deeper scope (evaluateTreeOr missing formatter scope pound body)
    else evaluateChoiceOr missing formatter scope pound chosen? choices

end

mutual

/-- Formatting does nothing for a missing choice. -/
theorem evaluateTreeOr_pure (formatter : Formatter π) (scope : Scope) (pound : String) :
    ∀ tree : List (Node π), evaluateTreeOr (pure ()) formatter scope pound tree =
      evaluateTree formatter scope pound tree
  | [] => by rw [evaluateTreeOr, evaluateTree]
  | node :: nodes => by
    rw [evaluateTreeOr, evaluateTree, evaluateNodeOr_pure formatter scope pound node,
      evaluateTreeOr_pure formatter scope pound nodes]

theorem evaluateNodeOr_pure (formatter : Formatter π) (scope : Scope) (pound : String) :
    ∀ node : Node π, evaluateNodeOr (pure ()) formatter scope pound node =
      evaluateNode formatter scope pound node
  | .literal _ | .var _ | .date _ _ | .custom _ _ _ => by rw [evaluateNodeOr]
  | .select _ choices | .selectOrdinal _ choices | .plural _ choices _ => by
    rw [evaluateNodeOr, evaluateNode]
    exact congrArg _ (funext fun _ => evaluateChoiceOr_pure formatter scope _ _ choices)

theorem evaluateChoiceOr_pure (formatter : Formatter π) (scope : Scope) (pound : String)
    (chosen? : Option String) :
    ∀ choices : List (String × List (Node π)),
      evaluateChoiceOr (pure ()) formatter scope pound chosen? choices =
        evaluateChoice formatter scope pound chosen? choices
  | [] => by rw [evaluateChoiceOr, evaluateChoice]
  | (_, body) :: choices => by
    rw [evaluateChoiceOr, evaluateChoice, evaluateTreeOr_pure formatter scope pound body,
      evaluateChoiceOr_pure formatter scope pound chosen? choices]

end

section Missing

variable {missing : Evaluation Unit} {formatter : Formatter π} {scope : Scope} {pound : String}

/-- Where the chosen choice is there, what stands in for a missing one makes no difference. -/
theorem evaluateChoiceOr_eq {choices : Choices π} {name : String}
    (present : (choices.get? name).isSome)
    (bodies : ∀ choice ∈ choices, evaluateTreeOr missing formatter scope pound choice.2 =
      evaluateTree formatter scope pound choice.2) :
    evaluateChoiceOr missing formatter scope pound (some name) choices =
      evaluateChoice formatter scope pound (some name) choices := by
  rw [Choices.get?_isSome_iff] at present
  induction choices with
  | nil => simp at present
  | cons choice choices inductionHypothesis =>
    obtain ⟨first, body⟩ := choice
    obtain ⟨here, others⟩ := List.forall_mem_cons.mp bodies
    rw [evaluateChoiceOr, evaluateChoice, here]
    by_cases same : name = first
    · rw [if_pos (congrArg some same), if_pos (congrArg some same)]
    · have apart : some name ≠ some first := fun equal => same (Option.some.inj equal)
      rw [if_neg apart, if_neg apart]
      exact inductionHypothesis (by simpa [same] using present) others

theorem evaluateNodeOr_node (kind : ChoiceKind) (key : String) (choices : Choices π)
    (offset : UInt64) :
    evaluateNodeOr missing formatter scope pound (kind.node key choices offset) =
      (Evaluation.lift (formatter.resolve scope kind key choices offset) >>= fun resolution =>
        evaluateChoiceOr missing formatter scope resolution.pound (resolution.chosen? choices)
          choices) := by
  cases kind <;> simp only [ChoiceKind.node, evaluateNodeOr, resolve]

/-- The evaluation of a proper tree never misses a choice: whatever is done for a missing one
makes no difference. -/
theorem evaluateTreeOr_eq {known : String → Prop} {tree : Tree π}
    (proper : IsProperTree known tree) :
    evaluateTreeOr missing formatter scope pound tree =
      evaluateTree formatter scope pound tree := by
  induction tree using Tree.bodyInduction generalizing pound with
  | step tree inductionHypothesis =>
    obtain ⟨-, nodes⟩ := proper
    have each : ∀ node ∈ tree, evaluateNodeOr missing formatter scope pound node =
        evaluateNode formatter scope pound node := by
      intro node member
      have properNode := nodes node member
      cases node using Node.casesKind with
      | literal | var | date | custom => rw [evaluateNodeOr]
      | choices kind key choices offset =>
        obtain ⟨-, complete, -, bodies⟩ := isProperNode_node_iff.mp properNode
        rw [evaluateNodeOr_node, evaluateNode_node]
        cases resolved : formatter.resolve scope kind key choices offset with
        | error error => rfl
        | ok resolution =>
          obtain ⟨name, chosen⟩ := Option.isSome_iff_exists.mp
            (chosen?_isSome_of_resolve complete resolved)
          change evaluateChoiceOr missing formatter scope _ (resolution.chosen? choices) choices =
            evaluateChoice formatter scope _ (resolution.chosen? choices) choices
          rw [chosen]
          exact evaluateChoiceOr_eq (Resolution.get?_chosen chosen) fun choice listed =>
            inductionHypothesis kind key choices offset member choice listed (bodies choice listed)
    clear nodes inductionHypothesis
    induction tree with
    | nil => rw [evaluateTreeOr, evaluateTree]
    | cons node tree inductionHypothesis =>
      obtain ⟨first, rest⟩ := List.forall_mem_cons.mp each
      rw [evaluateTreeOr, evaluateTree, first, inductionHypothesis rest]

end Missing

/-! ## Parsed trees -/

/-- A parsed tree, formatted by a formatter that was built for the parser's kinds and for at
least its limit, whatever calls have configured it since and whatever the arguments are: each
fault is one of an argument or of a registered kind, and no choice is ever missing. Of any tree,
formatting is the evaluation that does nothing for a missing choice, and of this one it is also
the evaluation that does anything else. -/
theorem format_parsed {parser : Parser π} {template : String} {tree : Tree π}
    (parsed : parser.parse template = .ok tree) {options : FormatterOptions π}
    (sameKinds : options.kinds = parser.kinds) (enough : parser.maxDepth ≤ options.maxDepth)
    {formatter : Formatter π} (built : build options = .ok formatter) (calls : List FormatterCall)
    (args : Args) :
    (∀ error, (formatter.afterCalls calls).format tree args = .error error →
      Attributable parser.kinds args tree error) ∧
    (∀ missing scope pound,
      evaluateTreeOr missing (formatter.afterCalls calls) scope pound tree =
        evaluateTree (formatter.afterCalls calls) scope pound tree) ∧
    ∀ scope pound (other : Tree π),
      evaluateTreeOr (pure ()) (formatter.afterCalls calls) scope pound other =
        evaluateTree (formatter.afterCalls calls) scope pound other := by
  obtain ⟨proper, shallow⟩ := Parser.isProper_of_parse (fun _ readable => readable) parsed
  obtain ⟨kinds, limit, selects⟩ := build_eq_ok built
  have kept := formatter.preserves_afterCalls calls
  refine ⟨?_, fun missing scope pound => evaluateTreeOr_eq proper, evaluateTreeOr_pure _⟩
  intro error failed
  have givenKinds : (formatter.afterCalls calls).kinds = parser.kinds :=
    kept.kinds.trans (kinds.trans sameKinds)
  have room : 0 + tree.depth ≤ ((formatter.afterCalls calls).scope args).maxDepth := by
    rw [scope, kept.maxDepth, limit, Nat.zero_add]
    exact Nat.le_trans shallow enough
  rw [← givenKinds] at proper ⊢
  obtain ⟨after, failed⟩ := format_eq_error_iff.mp failed
  have safe := safe_evaluateTree (kept.selects selects) tree (fun _ occurs => occurs) proper room
    "" ⟨0, ""⟩ rfl
  rw [failed] at safe
  exact safe

/-- A kind that is registered for parsing only, and a formatter for more depth than the parser
has, after calls of which two are refused. -/
theorem format_parsed_bareKind :
    Parser.parse { kinds := ⟨[("shout", Parser.bareKind)]⟩, maxDepth := 1 }
        "\x7bx, shout\x7d" = .ok [.custom "shout" "x" ()] ∧
      build { kinds := ⟨[("shout", Parser.bareKind)]⟩, maxDepth := 2 } =
        .ok { standard (π := Unit) with kinds := ⟨[("shout", Parser.bareKind)]⟩, maxDepth := 2 } ∧
      Attributable ⟨[("shout", Parser.bareKind)]⟩ .empty [.custom "shout" "x" ()]
        (.undefinedFormatFunc "shout") := by
  have parsed : Parser.parse { kinds := ⟨[("shout", Parser.bareKind)]⟩, maxDepth := 1 }
      "\x7bx, shout\x7d" = .ok [.custom "shout" "x" ()] := by cbv
  have built : build { kinds := ⟨[("shout", Parser.bareKind)]⟩, maxDepth := 2 } =
      .ok { standard (π := Unit) with kinds := ⟨[("shout", Parser.bareKind)]⟩, maxDepth := 2 } := by
    cbv
  have attributed := (format_parsed parsed rfl (by decide) built
    [.culture "xx", .booleans .render, .selector none] .empty).1
  exact ⟨parsed, built, attributed _ (by cbv)⟩

end Formatter

end MessageTemplate
