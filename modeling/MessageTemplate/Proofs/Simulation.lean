import MessageTemplate.Proofs.Execution

/-!
# Two evaluations side by side

Two formatters, each in a scope of its own, evaluate one tree. A relation of actions that goes
along with their sequences relates the two evaluations if it relates what both do for each
constituent, such as looking up a text or resolving a choice, and if it goes along with doing
something one level deeper. What the two runs may differ in is up to the relation.
-/

namespace MessageTemplate

namespace Evaluation

/-- A relation of actions that goes along with their sequences. -/
structure Congruence where
  Relates : {α : Type} → Evaluation α → Evaluation α → Prop
  relates_pure : ∀ {α : Type} (value : α), Relates (pure value) (pure value)
  relates_bind : ∀ {α β : Type} {first second : Evaluation α} {next other : α → Evaluation β},
    Relates first second → (∀ value, Relates (next value) (other value)) →
      Relates (first >>= next) (second >>= other)

variable {relation : Congruence} {left right : Scope}

/-- One level deeper, actions are related if they are related here and so is opening the level. -/
theorem Congruence.relates_deeper (opening : relation.Relates (enter left) (enter right))
    (closing : relation.Relates leave leave) {action other : Evaluation Unit}
    (inner : relation.Relates action other) :
    relation.Relates (deeper left action) (deeper right other) := by
  apply relation.relates_bind opening
  intro _
  apply relation.relates_bind inner
  exact fun _ => closing

end Evaluation

namespace Formatter

variable {π : Type} {relation : Evaluation.Congruence} {first second : Formatter π}
  {left right : Scope} {tree : Tree π}

/-- What two formatters do for the constituents of a tree, each in its scope, is related. -/
structure RelatesOn (relation : Evaluation.Congruence) (first second : Formatter π)
    (left right : Scope) (tree : Tree π) : Prop where
  write : ∀ text, relation.Relates (Evaluation.write text) (Evaluation.write text)
  deeper : ∀ {action other : Evaluation Unit}, relation.Relates action other →
    relation.Relates (Evaluation.deeper left action) (Evaluation.deeper right other)
  text : ∀ name, tree.Occurs (.var name) →
    relation.Relates (Evaluation.lift (left.text name)) (Evaluation.lift (right.text name))
  resolve : ∀ (kind : ChoiceKind) (key : String) (choices : Choices π) (offset : UInt64),
    tree.Occurs (kind.node key choices offset) →
      relation.Relates (Evaluation.lift (first.resolve left kind key choices offset))
        (Evaluation.lift (second.resolve right kind key choices offset))
  day : ∀ key width, tree.Occurs (.date key width) →
    relation.Relates (Evaluation.lift (first.dateText left key width))
      (Evaluation.lift (second.dateText right key width))
  custom : ∀ kind key payload, tree.Occurs (.custom kind key payload) →
    relation.Relates
      (Evaluation.lift (first.customWriter left ⟨kind, key, payload⟩) >>= Evaluation.ofWriter)
      (Evaluation.lift (second.customWriter right ⟨kind, key, payload⟩) >>= Evaluation.ofWriter)

/-- What is related on a tree is related on its parts. -/
theorem RelatesOn.mono {whole : Tree π} (steps : RelatesOn relation first second left right whole)
    (part : ∀ node, tree.Occurs node → whole.Occurs node) :
    RelatesOn relation first second left right tree where
  write := steps.write
  deeper := steps.deeper
  text name occurs := steps.text name (part _ occurs)
  resolve kind key choices offset occurs := steps.resolve kind key choices offset (part _ occurs)
  day key width occurs := steps.day key width (part _ occurs)
  custom kind key payload occurs := steps.custom kind key payload (part _ occurs)

/-- Whole trees are related if their constituents are. -/
theorem relates_evaluateTree_of_nodes {pound : String}
    (each : ∀ node ∈ tree, relation.Relates (evaluateNode first left pound node)
      (evaluateNode second right pound node)) :
    relation.Relates (evaluateTree first left pound tree)
      (evaluateTree second right pound tree) := by
  induction tree with
  | nil =>
    rw [evaluateTree, evaluateTree]
    exact relation.relates_pure ()
  | cons node tree inductionHypothesis =>
    obtain ⟨here, others⟩ := List.forall_mem_cons.mp each
    rw [evaluateTree, evaluateTree]
    exact relation.relates_bind here fun _ => inductionHypothesis others

/-- A choice is related if each of its bodies is, one level deeper. -/
theorem relates_evaluateChoice {choices : Choices π} {pound : String}
    (bodies : ∀ choice ∈ choices,
      relation.Relates (Evaluation.deeper left (evaluateTree first left pound choice.2))
        (Evaluation.deeper right (evaluateTree second right pound choice.2)))
    (chosen? : Option String) :
    relation.Relates (evaluateChoice first left pound chosen? choices)
      (evaluateChoice second right pound chosen? choices) := by
  induction choices with
  | nil =>
    rw [evaluateChoice, evaluateChoice]
    exact relation.relates_pure ()
  | cons choice choices inductionHypothesis =>
    obtain ⟨name, body⟩ := choice
    obtain ⟨here, others⟩ := List.forall_mem_cons.mp bodies
    rw [evaluateChoice, evaluateChoice]
    split
    · exact here
    · exact inductionHypothesis others

/-- Two evaluations of a tree are related if what they do for its constituents is. -/
theorem RelatesOn.evaluateTree (steps : RelatesOn relation first second left right tree)
    (pound : String) :
    relation.Relates (evaluateTree first left pound tree)
      (evaluateTree second right pound tree) := by
  induction tree using Tree.bodyInduction generalizing pound with
  | step tree inductionHypothesis =>
    apply relates_evaluateTree_of_nodes
    intro node member
    cases node using Node.casesKind with
    | literal parts =>
      rw [evaluateNode, evaluateNode]
      exact steps.write _
    | var name =>
      rw [evaluateNode, evaluateNode]
      exact relation.relates_bind (steps.text name (.here member)) fun text => steps.write text
    | choices kind key choices offset =>
      rw [evaluateNode_node, evaluateNode_node]
      apply relation.relates_bind (steps.resolve kind key choices offset (.here member))
      intro resolution
      apply relates_evaluateChoice
      intro choice listed
      apply steps.deeper
      apply inductionHypothesis kind key choices offset member choice listed
      exact steps.mono fun node within => .inside member listed within
    | date key width =>
      rw [evaluateNode, evaluateNode]
      exact relation.relates_bind (steps.day key width (.here member)) fun text => steps.write text
    | custom kind key payload =>
      rw [evaluateNode, evaluateNode]
      exact steps.custom kind key payload (.here member)

end Formatter

end MessageTemplate
