import MessageTemplate.Proofs.Grammar

/-!
# Trees and their parts

How depth, choices and bodies of a tree go together. The three kinds of choices are treated as
one. Proofs about whole trees go by induction on the bodies of their expressions, and inside a
tree by its list of constituents.
-/

namespace MessageTemplate

namespace Choices

variable {π : Type} {choices : Choices π} {name : String}

theorem get?_isSome_iff : (choices.get? name).isSome ↔ name ∈ choices.map (·.1) := by
  rw [Choices.get?]
  induction choices with
  | nil => simp
  | cons choice choices inductionHypothesis =>
    rw [List.lookup_cons]
    by_cases same : name = choice.1
    · simp [same]
    · rw [beq_eq_false_iff_ne.mpr same]
      simp [same, inductionHypothesis]

end Choices

namespace Node

variable {π : Type}

/-- A constituent that is literal text. -/
def IsLiteral (node : Node π) : Prop := ∃ parts, node = .literal parts

theorem isLiteral_of_mem_nodes {run : List Char} {node : Node π}
    (member : node ∈ (Literal.nodes run : Tree π)) : node.IsLiteral := by
  unfold Literal.nodes at member
  split at member
  · simp at member
  · exact ⟨_, by simpa using member⟩

/-- A constituent is of one of the kinds that hold no choices, or it holds choices. -/
@[elab_as_elim]
theorem casesKind {motive : Node π → Prop} (literal : ∀ parts, motive (.literal parts))
    (var : ∀ name, motive (.var name))
    (choices : ∀ (kind : ChoiceKind) (key : String) (choices : Choices π) (offset : UInt64),
      motive (kind.node key choices offset))
    (date : ∀ key width, motive (.date key width))
    (custom : ∀ kind key payload, motive (.custom kind key payload)) (node : Node π) :
    motive node := by
  cases node with
  | literal parts => exact literal parts
  | var name => exact var name
  | select key found => exact choices .select key found 0
  | selectOrdinal key found => exact choices .selectOrdinal key found 0
  | plural key found offset => exact choices .plural key found offset
  | date key width => exact date key width
  | custom kind key payload => exact custom kind key payload

theorem treeDepth_append (before after : Tree π) :
    treeDepth (before ++ after) = max (treeDepth before) (treeDepth after) := by
  induction before with
  | nil => simp [treeDepth]
  | cons node before inductionHypothesis =>
    simp [treeDepth, inductionHypothesis, Nat.max_assoc]

theorem depth_node (kind : ChoiceKind) (key : String) (choices : Choices π) (offset : UInt64) :
    (kind.node key choices offset).depth = 1 + choicesDepth choices := by
  cases kind <;> simp [ChoiceKind.node, depth]

theorem treeDepth_le_iff {tree : Tree π} {limit : Nat} :
    treeDepth tree ≤ limit ↔ ∀ node ∈ tree, node.depth ≤ limit := by
  induction tree with
  | nil => simp [treeDepth]
  | cons node tree inductionHypothesis =>
    rw [treeDepth, Nat.max_le, inductionHypothesis, List.forall_mem_cons]

theorem choicesDepth_le_iff {choices : Choices π} {limit : Nat} :
    choicesDepth choices ≤ limit ↔ ∀ choice ∈ choices, treeDepth choice.2 ≤ limit := by
  induction choices with
  | nil => simp [choicesDepth]
  | cons choice choices inductionHypothesis =>
    rw [choicesDepth, Nat.max_le, inductionHypothesis, List.forall_mem_cons]

end Node

namespace Tree

variable {π : Type}

/-- Choices are nested less deeply in a body than in the tree whose expression holds it. -/
theorem depth_body_lt {tree : Tree π} {kind : ChoiceKind} {key : String} {choices : Choices π}
    {offset : UInt64} {choice : String × Tree π} (expression : kind.node key choices offset ∈ tree)
    (listed : choice ∈ choices) : depth choice.2 < tree.depth := by
  have inTree := Node.treeDepth_le_iff.mp (Nat.le_refl (Node.treeDepth tree)) _ expression
  have inChoices := Node.choicesDepth_le_iff.mp (Nat.le_refl (Node.choicesDepth choices)) _ listed
  rw [Node.depth_node] at inTree
  exact Nat.lt_of_lt_of_le (Nat.lt_add_of_pos_left Nat.one_pos)
    (Nat.le_trans (Nat.add_le_add_left inChoices 1) inTree)

/-- What holds of a tree whenever it holds of the bodies of its expressions holds of all trees. -/
@[elab_as_elim]
theorem bodyInduction {motive : Tree π → Prop}
    (step : ∀ tree : Tree π,
      (∀ (kind : ChoiceKind) (key : String) (choices : Choices π) (offset : UInt64),
        kind.node key choices offset ∈ tree → ∀ choice ∈ choices, motive choice.2) → motive tree)
    (tree : Tree π) : motive tree := by
  induction bound : tree.depth using Nat.strongRecOn generalizing tree with
  | ind bound inductionHypothesis =>
    refine step tree fun kind key choices offset expression choice listed => ?_
    exact inductionHypothesis _ (bound ▸ depth_body_lt expression listed) choice.2 rfl

/-- A constituent stands in a tree or in a body of one of its expressions. -/
inductive Occurs (node : Node π) : Tree π → Prop where
  | here {tree : Tree π} (member : node ∈ tree) : Occurs node tree
  | inside {tree : Tree π} {kind : ChoiceKind} {key : String} {choices : Choices π}
      {offset : UInt64} {choice : String × Tree π}
      (expression : kind.node key choices offset ∈ tree) (listed : choice ∈ choices)
      (within : Occurs node choice.2) : Occurs node tree

/-- No expression of a registered kind stands in a tree. -/
def IsBuiltin (tree : Tree π) : Prop := ∀ kind key payload, ¬tree.Occurs (.custom kind key payload)

end Tree

end MessageTemplate
