import MessageTemplate.Proofs.Execution
import MessageTemplate.Proofs.Shape

/-!
# Literal text that is pushed together

A tree is built by pushing constituents behind it one by one, where literal text joins the literal
text that it meets. The tree is another one than the list of what was pushed, but it means the
same: whatever does not tell joined text from its pieces does not tell the two apart, and neither
an evaluation nor the depth does.
-/

namespace MessageTemplate

namespace Evaluation

/-- Actions that come to the same from every state are the same. -/
theorem ext_outcome {α : Type} {first second : Evaluation α}
    (same : ∀ state, first.outcome state = second.outcome state) : first = second :=
  funext same

/-- A text may be written in two pieces. -/
theorem write_append (before after : String) :
    write (before ++ after) = write before >>= fun _ => write after := by
  apply ext_outcome
  intro state
  rw [outcome_bind_of_ok (outcome_write before state), outcome_write, outcome_write,
    String.append_assoc]

end Evaluation

namespace Tree

variable {π : Type}

/-- Only the last constituent matters to what is pushed. -/
theorem push_concat (front : Tree π) (last node : Node π) :
    push (front ++ [last]) node = front ++ push [last] node := by
  induction front with
  | nil => rfl
  | cons first front inductionHypothesis =>
    rw [List.cons_append, List.cons_append, ← inductionHypothesis, push]
    rintro before parts - - alone
    exact absurd alone (by simp)

theorem push_literal (front : Tree π) (before parts : List LiteralPart) :
    push (front ++ [.literal before]) (.literal parts) = front ++ [.literal (before ++ parts)] := by
  rw [push_concat, push]

/-- Unless literal text meets literal text, what is pushed comes to stand behind the tree. -/
theorem push_of_apart {tree : Tree π} {node : Node π}
    (apart : ∀ last, tree.getLast? = some last → ¬(last.IsLiteral ∧ node.IsLiteral)) :
    push tree node = tree ++ [node] := by
  rcases tree.eq_nil_or_concat' with rfl | ⟨front, last, rfl⟩
  · rfl
  · rw [push_concat, push, push, List.append_assoc]
    · rfl
    · rintro before parts rfl rfl -
      exact apart (.literal before) (by simp) ⟨⟨before, rfl⟩, ⟨parts, rfl⟩⟩

/-- Literal text joins the literal text that it is pushed behind. Anything else comes to stand
behind the tree. -/
theorem push_cases (tree : Tree π) (node : Node π) :
    (∃ front before parts, tree = front ++ [.literal before] ∧ node = .literal parts ∧
      push tree node = front ++ [.literal (before ++ parts)]) ∨
    (∀ last, tree.getLast? = some last → ¬(last.IsLiteral ∧ node.IsLiteral)) ∧
      push tree node = tree ++ [node] := by
  by_cases meets : ∃ last, tree.getLast? = some last ∧ last.IsLiteral ∧ node.IsLiteral
  · obtain ⟨_, there, ⟨before, rfl⟩, ⟨parts, rfl⟩⟩ := meets
    obtain ⟨front, rfl⟩ := List.getLast?_eq_some_iff.mp there
    exact .inl ⟨front, before, parts, rfl, rfl, push_literal front before parts⟩
  · have apart : ∀ last, tree.getLast? = some last → ¬(last.IsLiteral ∧ node.IsLiteral) :=
      fun last there both => meets ⟨last, there, both⟩
    exact .inr ⟨apart, push_of_apart apart⟩

/-- What does not tell joined literal text from its pieces does not tell a tree from the
constituents that were pushed together. -/
theorem view_ofNodes {β : Type} (view : Tree π → β)
    (joins : ∀ front before parts behind,
      view (front ++ .literal (before ++ parts) :: behind) =
        view (front ++ .literal before :: .literal parts :: behind))
    (nodes : List (Node π)) : view (ofNodes nodes) = view nodes := by
  -- Pushing goes on behind a tree that has been pushed together already.
  have onward : ∀ tree, view (nodes.foldl push tree) = view (tree ++ nodes) := by
    induction nodes with
    | nil => simp
    | cons node nodes inductionHypothesis =>
      intro tree
      rw [List.foldl_cons, inductionHypothesis]
      rcases push_cases tree node with ⟨front, before, parts, rfl, rfl, joined⟩ | ⟨-, behind⟩
      · rw [joined]
        simpa using joins front before parts nodes
      · rw [behind, List.append_assoc, List.singleton_append]
  exact onward []

/-! ## Literal text that stands apart -/

theorem apart_push {tree : Tree π} (apart : Apart Node.IsLiteral tree) (node : Node π) :
    Apart Node.IsLiteral (push tree node) := by
  rcases push_cases tree node with ⟨front, before, parts, rfl, rfl, joined⟩ | ⟨ends, behind⟩
  · rw [joined]
    obtain ⟨inFront, -, seam⟩ := List.isChain_append.mp apart
    refine List.isChain_append.mpr ⟨inFront, .singleton _, fun last there next here => ?_⟩
    obtain rfl := Option.some.inj here
    exact fun both => seam last there _ rfl ⟨both.1, before, rfl⟩
  · rw [behind]
    refine List.isChain_append.mpr ⟨apart, .singleton _, fun last there next here => ?_⟩
    obtain rfl := Option.some.inj here
    exact ends last there

theorem apart_ofNodes (nodes : List (Node π)) : Apart Node.IsLiteral (ofNodes nodes) := by
  have onward : ∀ tree : Tree π, Apart Node.IsLiteral tree →
      Apart Node.IsLiteral (nodes.foldl push tree) := by
    induction nodes with
    | nil => exact fun _ apart => apart
    | cons node nodes inductionHypothesis =>
      exact fun tree apart => inductionHypothesis _ (apart_push apart node)
  exact onward [] .nil

/-! ## What pushing keeps -/

/-- The literal text of a tree around its other constituents: the parts in front of the first of
these, and with each of them the parts behind it, up to the next one. -/
def literalRuns : List (Node π) → List LiteralPart × List (Node π × List LiteralPart)
  | [] => ([], [])
  | .literal parts :: nodes => (parts ++ (literalRuns nodes).1, (literalRuns nodes).2)
  | node :: nodes => ([], (node, (literalRuns nodes).1) :: (literalRuns nodes).2)

theorem literalRuns_joins (front : Tree π) (before parts : List LiteralPart) (behind : Tree π) :
    literalRuns (front ++ .literal (before ++ parts) :: behind) =
      literalRuns (front ++ .literal before :: .literal parts :: behind) := by
  induction front with
  | nil => simp [literalRuns]
  | cons node front inductionHypothesis =>
    cases node <;> simp only [List.cons_append, literalRuns, inductionHypothesis]

theorem depth_joins (front : Tree π) (before parts : List LiteralPart) (behind : Tree π) :
    depth (front ++ .literal (before ++ parts) :: behind) =
      depth (front ++ .literal before :: .literal parts :: behind) := by
  simp [depth, Node.treeDepth_append, Node.treeDepth, Node.depth]

end Tree

namespace Formatter

variable {π : Type}

/-- Joined literal text writes what its pieces write one after the other. -/
theorem evaluateTree_joins (formatter : Formatter π) (scope : Scope) (pound : String)
    (front : Tree π) (before parts : List LiteralPart) (behind : Tree π) :
    evaluateTree formatter scope pound (front ++ .literal (before ++ parts) :: behind) =
      evaluateTree formatter scope pound
        (front ++ .literal before :: .literal parts :: behind) := by
  rw [evaluateTree_append, evaluateTree_append]
  congr 1
  funext _
  rw [evaluateTree, evaluateTree, evaluateTree, evaluateNode, evaluateNode, evaluateNode,
    List.map_append, String.join_append, Evaluation.write_append, bind_assoc]

end Formatter

/-- Pushing constituents together keeps what they mean: every evaluation comes to the same result,
writes the same and leaves as many levels open, whether it fails or not, and choices are nested as
deeply. In the tree no two neighbours are literal text, and around all other constituents the
literal text is the same. -/
theorem Tree.evaluate_ofNodes {π : Type} (nodes : List (Node π)) :
    (∀ (formatter : Formatter π) (scope : Scope) (pound : String) (state : EvaluationState),
      formatter.evaluate scope pound (ofNodes nodes) state =
        formatter.evaluate scope pound nodes state) ∧
    depth (ofNodes nodes) = depth nodes ∧ Apart Node.IsLiteral (ofNodes nodes) ∧
      literalRuns (ofNodes nodes) = literalRuns nodes := by
  refine ⟨fun formatter scope pound state => ?_, ?_, apart_ofNodes nodes, ?_⟩
  · apply view_ofNodes fun tree => formatter.evaluate scope pound tree state
    intro front before parts behind
    rw [Formatter.evaluate, Formatter.evaluate, Formatter.evaluateTree_joins]
  · exact view_ofNodes depth depth_joins nodes
  · exact view_ofNodes literalRuns literalRuns_joins nodes

end MessageTemplate
