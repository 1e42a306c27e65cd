import MessageTemplate.Proofs.Shape

/-!
# Where the constituents of parsed trees come from

Whatever occurs in a parsed tree, at the root or in a choice, is literal text or was found by the
reader of expressions. What that reader ensures of the expressions it finds therefore holds at
every depth of a parsed tree.
-/

namespace MessageTemplate

namespace Node

variable {π : Type}

theorem not_isLiteral_node {kind : ChoiceKind} {key : String} {choices : Choices π}
    {offset : UInt64} : ¬(kind.node key choices offset).IsLiteral := by
  rintro ⟨parts, same⟩
  cases kind <;> cases same

/-- An expression holds one list of choices. -/
theorem choices_eq_of_node_eq {left right : ChoiceKind} {key other : String}
    {choices found : Choices π} {offset shift : UInt64}
    (same : left.node key choices offset = right.node other found shift) : choices = found := by
  cases left <;> cases right <;> cases same <;> rfl

end Node

namespace Tree

variable {π : Type} {node : Node π}

theorem Occurs.of_subset {tree whole : Tree π} (occurs : tree.Occurs node)
    (subset : tree ⊆ whole) : whole.Occurs node := by
  cases occurs with
  | here member => exact .here (subset member)
  | inside expression listed within => exact .inside (subset expression) listed within

/-- What occurs in a tree occurs in one of its constituents. -/
theorem occurs_iff_exists_mem {tree : Tree π} :
    tree.Occurs node ↔ ∃ member ∈ tree, Occurs node [member] := by
  constructor
  · intro occurs
    cases occurs with
    | here member => exact ⟨node, member, .here List.mem_cons_self⟩
    | inside expression listed within =>
      exact ⟨_, expression, .inside List.mem_cons_self listed within⟩
  · rintro ⟨member, inTree, occurs⟩
    exact occurs.of_subset (by simpa using inTree)

theorem occurs_append_iff {before after : Tree π} :
    Occurs node (before ++ after) ↔ before.Occurs node ∨ after.Occurs node := by
  iterate 3 rw [occurs_iff_exists_mem]
  simp only [List.mem_append, or_and_right, exists_or]

theorem occurs_cons_iff {first : Node π} {tree : Tree π} :
    Occurs node (first :: tree) ↔ Occurs node [first] ∨ tree.Occurs node :=
  @occurs_append_iff _ _ [first] tree

/-- In an expression with choices occur the expression itself and what occurs in its bodies. -/
theorem occurs_node_iff {kind : ChoiceKind} {key : String} {choices : Choices π}
    {offset : UInt64} : Occurs node [kind.node key choices offset] ↔
      node = kind.node key choices offset ∨ ∃ choice ∈ choices, Occurs node choice.2 := by
  constructor
  · intro occurs
    cases occurs with
    | here member => exact .inl (by simpa using member)
    | inside expression listed within =>
      have same := Node.choices_eq_of_node_eq (List.mem_singleton.mp expression)
      exact .inr ⟨_, same ▸ listed, within⟩
  · rintro (rfl | ⟨choice, listed, within⟩)
    · exact .here List.mem_cons_self
    · exact .inside List.mem_cons_self listed within

/-- In any other constituent nothing else occurs. -/
theorem occurs_leaf_iff {leaf : Node π}
    (plain : ∀ kind key choices offset, leaf ≠ ChoiceKind.node kind key choices offset) :
    Occurs node [leaf] ↔ node = leaf := by
  constructor
  · intro occurs
    cases occurs with
    | here member => simpa using member
    | inside expression => exact absurd (List.mem_singleton.mp expression).symm (plain _ _ _ _)
  · rintro rfl
    exact .here List.mem_cons_self

/-- Nothing occurs inside the literal text of a run. -/
theorem mem_of_occurs_nodes {run : List Char} (occurs : Occurs node (Literal.nodes run)) :
    node ∈ (Literal.nodes run : Tree π) := by
  cases occurs with
  | here member => exact member
  | inside expression =>
    exact absurd (Node.isLiteral_of_mem_nodes expression) Node.not_isLiteral_node

end Tree

namespace Parser

variable {π : Type}

/-- What occurs in an expression that was read is the expression itself, which is no literal text,
or it occurs in a body that the reader of its choices found. -/
theorem occurs_of_expressionOf {parser : Parser π} {body : Reader (Tree π × BodyEnd)}
    {cursor stop : Cursor} {node found : Node π}
    (read : (parser.expressionOf body).run cursor = .done node stop)
    (occurs : Tree.Occurs found [node]) :
    found = node ∧ ¬found.IsLiteral ∨
      ∃ (kind : ChoiceKind) (key : String) (middle tail : Cursor) (choices : Choices π)
        (offset : UInt64),
        (Reader.identifier.run cursor = .done key middle ∧ key ≠ "" ∧
          middle.peek? ≠ some '}' ∧
          Reader.identifier.run middle.advance = .done kind.name tail ∧
          tail.peek? = some ',' ∧
          choicesFrom body kind.takesOffset [] tail.advance = .done (choices, offset) stop) ∧
        ∃ choice ∈ choices, choice.2.Occurs found := by
  have leaf (plain : ∀ kind key choices offset, node ≠ ChoiceKind.node kind key choices offset)
      (expression : ¬node.IsLiteral) : found = node ∧ ¬found.IsLiteral := by
    obtain rfl := (Tree.occurs_leaf_iff plain).mp occurs
    exact ⟨rfl, expression⟩
  obtain ⟨key, middle, keyed, named, ⟨-, rfl, -⟩ | ⟨more, kind, tail, kinded, ⟨choiceKind, choices,
    offset, rfl, inner, rfl⟩ | ⟨width, -, -, rfl⟩ | ⟨-, inner⟩⟩⟩ := expressionOf_eq_done_iff.mp read
  · exact .inl (leaf (by rintro ⟨⟩ <;> simp [ChoiceKind.node]) (by rintro ⟨_, ⟨⟩⟩))
  · rcases Tree.occurs_node_iff.mp occurs with rfl | within
    · exact .inl ⟨rfl, Node.not_isLiteral_node⟩
    · obtain ⟨comma, listed⟩ := choices_eq_done_iff.mp inner
      exact .inr ⟨choiceKind, key, middle, tail, choices, offset,
        ⟨keyed, named, more, kinded, comma, listed⟩, within⟩
  · exact .inl (leaf (by rintro ⟨⟩ <;> simp [ChoiceKind.node]) (by rintro ⟨_, ⟨⟩⟩))
  · obtain ⟨registered, parse, payload, -, -, -, rfl⟩ := customNode_eq_done_iff.mp inner
    exact .inl (leaf (by rintro ⟨⟩ <;> simp [ChoiceKind.node]) (by rintro ⟨_, ⟨⟩⟩))

/-- The reader of expressions finds a constituent somewhere, with some depth left below it. -/
def Reads (parser : Parser π) (node : Node π) : Prop :=
  ∃ depth cursor stop, (parser.expressionOf (parser.body depth)).run cursor = .done node stop

/-- Whatever occurs in a tree is literal text or was read as an expression. -/
def Made (parser : Parser π) (tree : Tree π) : Prop :=
  ∀ node, tree.Occurs node → node.IsLiteral ∨ parser.Reads node

theorem made_nodes (parser : Parser π) (run : List Char) : parser.Made (Literal.nodes run) := by
  intro node occurs
  exact .inl (Node.isLiteral_of_mem_nodes (Tree.mem_of_occurs_nodes occurs))

theorem made_nodes_append {parser : Parser π} (run : List Char) {node : Node π} {tree : Tree π}
    (first : parser.Made [node]) (following : parser.Made tree) :
    parser.Made (Literal.nodes run ++ node :: tree) := by
  intro found occurs
  rcases Tree.occurs_append_iff.mp occurs with inRun | inRest
  · exact parser.made_nodes run found inRun
  rcases Tree.occurs_cons_iff.mp inRest with inNode | inTree
  · exact first found inNode
  · exact following found inTree

/-- An expression is read with bodies whose constituents were read before. -/
theorem ensures_made_expressionOf {parser : Parser π} {depth : Nat}
    (bodies : (parser.body depth).Ensures fun found => parser.Made found.1) :
    (parser.expressionOf (parser.body depth)).Ensures fun node => parser.Made [node] := by
  intro cursor node stop read other occurs
  rcases occurs_of_expressionOf read occurs with ⟨rfl, -⟩ |
    ⟨kind, key, middle, tail, choices, offset, ⟨-, -, -, -, -, listed⟩, choice, member, within⟩
  · exact .inr ⟨depth, cursor, stop, read⟩
  · obtain ⟨members, -⟩ := choicesFrom_done bodies listed
    exact (members choice member).2 other within

theorem ensures_made_body (parser : Parser π) (depth : Nat) :
    (parser.body depth).Ensures fun found => parser.Made found.1 := by
  induction depth with
  | zero =>
    refine ensures_bodyOf parser.made_nodes (fun run node tree => made_nodes_append run) ?_
    intro reader impossible
    cases impossible
  | succ depth inductionHypothesis =>
    refine ensures_bodyOf parser.made_nodes (fun run node tree => made_nodes_append run) ?_
    intro reader same
    obtain rfl := Option.some.inj same
    exact ensures_made_expressionOf inductionHypothesis

/-- Every expression of a parsed tree, at any depth, was found by the reader of expressions. -/
theorem reads_of_occurs {parser : Parser π} {template : String} {tree : Tree π} {node : Node π}
    (parsed : parser.parse template = .ok tree) (occurs : tree.Occurs node)
    (expression : ¬node.IsLiteral) : parser.Reads node := by
  obtain ⟨stop, read⟩ := parse_eq_ok_iff_body.mp parsed
  have made := parser.ensures_made_body parser.maxDepth _ _ _ read node occurs
  exact made.resolve_left expression

/-! ## Plurals and registered kinds -/

/-- The value of an offset is a signed word that is not negative. -/
theorem offsetValue_le {numeral : List Char} {offset : UInt64}
    (valued : Reader.offsetValue numeral = .ok offset) : offset.toNat ≤ Number.maxInt := by
  unfold Reader.offsetValue at valued
  split at valued
  · cases valued
  split at valued
  · cases valued
  rename_i word _
  split at valued
  · cases valued
  rename_i nonnegative
  obtain rfl := Except.ok.inj valued
  have sign : 0 ≤ word.toInt := by
    rw [Int64.lt_iff_toInt_lt, Int64.toInt_zero] at nonnegative
    omega
  have limit : Number.maxInt = 2 ^ 63 - 1 := rfl
  have above := word.toInt_lt
  rw [Int64.toNat_toUInt64_of_le (Int64.le_iff_toInt_le.mpr sign), Int64.toNatClampNeg]
  omega

theorem choicesFrom_offset_le {body : Reader (Tree π × BodyEnd)} {offsetAllowed : Bool}
    {seen : List String} {cursor stop : Cursor} {choices : Choices π} {offset : UInt64}
    (read : choicesFrom body offsetAllowed seen cursor = .done (choices, offset) stop) :
    offset.toNat ≤ Number.maxInt := by
  rcases choicesFrom_eq_done_iff.mp read with ⟨-, -, -, rfl, -⟩ |
    ⟨-, name, tree, others, brace, place, head, -⟩
  · exact Nat.zero_le _
  obtain ⟨first, place, -, ⟨-, -, rfl, -⟩ | ⟨-, -, -, -, numeral, found, -⟩, -⟩ :=
    choiceHead_eq_done_iff.mp head
  · exact Nat.zero_le _
  · obtain ⟨_, -, ⟨_, _, -, -, valued⟩, -⟩ := (Reader.takes_offset _ _ _).mp found
    exact offsetValue_le valued

/-- A plural that was read has a choice `other`, and its offset is a signed word. -/
theorem Reads.plural {parser : Parser π} {key : String} {choices : Choices π} {offset : UInt64}
    (reads : parser.Reads (.plural key choices offset)) :
    otherChoice ∈ choices.map (·.1) ∧ offset.toNat ≤ Number.maxInt := by
  obtain ⟨depth, cursor, stop, read⟩ := reads
  obtain ⟨name, place, -, -, ⟨-, same, -⟩ | ⟨-, kind, tail, -, ⟨choiceKind, found, shift, -, inner,
    same⟩ | ⟨width, -, -, same⟩ | ⟨-, inner⟩⟩⟩ := expressionOf_eq_done_iff.mp read
  · cases same
  · have whole := (choices_eq_done_iff.mp inner).2
    cases choiceKind <;> cases same
    obtain ⟨-, complete⟩ := choicesFrom_done (parser.ensures_made_body depth) whole
    exact ⟨by simpa using complete, choicesFrom_offset_le whole⟩
  · cases same
  · obtain ⟨registered, parse, payload, -, -, -, same⟩ := customNode_eq_done_iff.mp inner
    cases same

/-- An expression of a registered kind was read with that kind. -/
theorem Reads.custom {parser : Parser π} {kind key : String} {payload : π}
    (reads : parser.Reads (.custom kind key payload)) : parser.kinds.contains kind := by
  obtain ⟨depth, cursor, stop, read⟩ := reads
  obtain ⟨name, place, -, -, ⟨-, same, -⟩ | ⟨-, found, tail, -, ⟨choiceKind, _, _, -, -, same⟩ |
    ⟨width, -, -, same⟩ | ⟨-, inner⟩⟩⟩ := expressionOf_eq_done_iff.mp read
  · cases same
  · cases choiceKind <;> cases same
  · cases same
  · obtain ⟨registered, parse, payload, known, -, -, same⟩ := customNode_eq_done_iff.mp inner
    cases same
    rw [KindRegistry.contains, known]
    rfl

/-- At any depth of a parsed tree, a plural has a choice `other` and a signed word as offset. -/
theorem plural_of_parse {parser : Parser π} {template : String} {tree : Tree π}
    (parsed : parser.parse template = .ok tree) {key : String} {choices : Choices π}
    {offset : UInt64} (occurs : tree.Occurs (.plural key choices offset)) :
    otherChoice ∈ choices.map (·.1) ∧ offset.toNat ≤ Number.maxInt := by
  apply Reads.plural
  apply reads_of_occurs parsed occurs
  rintro ⟨parts, ⟨⟩⟩

/-- At any depth of a parsed tree, a kind that is not built in is a kind of the parser. -/
theorem contains_of_parse {parser : Parser π} {template : String} {tree : Tree π}
    (parsed : parser.parse template = .ok tree) {kind key : String} {payload : π}
    (occurs : tree.Occurs (.custom kind key payload)) : parser.kinds.contains kind := by
  apply Reads.custom
  apply reads_of_occurs parsed occurs
  rintro ⟨parts, ⟨⟩⟩

/-- With the built-in kinds only, parsed trees hold no other kinds. -/
theorem isBuiltin_of_parse {maxDepth : Nat} {template : String} {tree : Tree π}
    (parsed : Parser.parse { maxDepth } template = .ok tree) : tree.IsBuiltin := by
  intro kind key payload occurs
  have known := contains_of_parse parsed occurs
  simp [KindRegistry.contains, KindRegistry.get?, KindRegistry.empty] at known

end Parser

end MessageTemplate
