import MessageTemplate.Proofs.Inversion
import MessageTemplate.Proofs.Registration
import MessageTemplate.Proofs.Trees

/-!
# The shape of parsed trees

What holds of every tree that the parser makes, whatever kinds are registered and however
their readers behave: literal text is merged and not empty, names are names, choices are
complete, and choices are nested no deeper than the limit. Each reader of the parser ensures
its part of this; the induction is on the limit, and inside one body on what is left of the
text.
-/

namespace MessageTemplate

/-- No two neighbours in a list both satisfy `property`. -/
def Apart {α : Type} (property : α → Prop) (list : List α) : Prop :=
  list.IsChain fun left right => ¬(property left ∧ property right)

theorem apart_cons_iff {α : Type} {property : α → Prop} {first : α} {list : List α} :
    Apart property (first :: list) ↔
      (property first → ∀ next, list.head? = some next → ¬property next) ∧
        Apart property list := by
  unfold Apart
  rw [List.isChain_cons]
  refine and_congr_left fun _ => ?_
  constructor
  · intro separate here next following there
    exact separate next following ⟨here, there⟩
  · rintro separate next following ⟨here, there⟩
    exact separate here next following there

/-- Something without the property may stand anywhere. -/
theorem Apart.cons_of_not {α : Type} {property : α → Prop} {first : α} {list : List α}
    (apart : Apart property list) (without : ¬property first) : Apart property (first :: list) :=
  apart_cons_iff.mpr ⟨fun here => absurd here without, apart⟩

/-! ## Literal text -/

/-- A part that is text, and not `#`. -/
def LiteralPart.IsText (part : LiteralPart) : Prop := ∃ text, part = .text text

/-- Parts whose text is not empty and in which no text could be joined with the next. -/
structure IsMerged (parts : List LiteralPart) : Prop where
  filled : ∀ text, .text text ∈ parts → text ≠ ""
  apart : Apart LiteralPart.IsText parts

namespace Literal

variable {π : Type}

theorem isMerged_nil : IsMerged [] := ⟨by simp, .nil⟩

theorem isMerged_pound {parts : List LiteralPart} (merged : IsMerged parts) :
    IsMerged (.pound :: parts) := by
  refine ⟨?_, merged.apart.cons_of_not ?_⟩
  · intro text member
    exact merged.filled text (by simpa using member)
  · rintro ⟨text, same⟩
    cases same

/-- Text that is put in front of parts is joined with the text that they begin with. -/
theorem isMerged_prepend (text : List Char) {parts : List LiteralPart} (merged : IsMerged parts) :
    IsMerged (prepend text parts) := by
  unfold prepend
  split
  · exact merged
  · rename_i nonempty
    have filled : String.ofList text ≠ "" := by
      simpa [String.ofList_eq_empty_iff] using nonempty
    split
    · rename_i following others
      obtain ⟨ahead, behind⟩ := apart_cons_iff.mp merged.apart
      refine ⟨?_, apart_cons_iff.mpr ⟨fun _ => ahead ⟨following, rfl⟩, behind⟩⟩
      intro found member
      rcases List.mem_cons.mp member with same | member
      · obtain rfl := LiteralPart.text.inj same
        rw [Ne, String.append_eq_empty_iff]
        exact fun empty => filled empty.1
      · exact merged.filled found (List.mem_cons_of_mem _ member)
    · rename_i noText
      refine ⟨?_, apart_cons_iff.mpr ⟨?_, merged.apart⟩⟩
      · intro found member
        rcases List.mem_cons.mp member with same | member
        · obtain rfl := LiteralPart.text.inj same
          exact filled
        · exact merged.filled found member
      · rintro - next following ⟨found, rfl⟩
        obtain ⟨others, rfl⟩ := List.head?_eq_some_iff.mp following
        exact noText found others rfl

theorem isMerged_partsFrom (segment : List Char) (escapes : Nat) (rest : List Char) :
    IsMerged (partsFrom segment escapes rest) := by
  fun_induction partsFrom segment escapes rest with
  | case1 segment escapes => exact isMerged_prepend _ isMerged_nil
  | case2 segment escapes rest inductionHypothesis => exact inductionHypothesis
  | case3 segment escapes character rest _ _ inductionHypothesis => exact inductionHypothesis
  | case4 segment character rest _ _ inductionHypothesis =>
    exact isMerged_prepend _ (isMerged_pound inductionHypothesis)
  | case5 segment escapes character rest _ _ _ inductionHypothesis =>
    exact isMerged_prepend _ inductionHypothesis

/-- A run of literal text is at most one constituent, and one of merged parts. -/
theorem nodes_cases (run : List Char) :
    (nodes run : Tree π) = [] ∨
      ∃ parts, (nodes run : Tree π) = [.literal parts] ∧ parts ≠ [] ∧ IsMerged parts := by
  have merged := isMerged_partsFrom [] 0 run
  unfold nodes parts
  split
  · exact .inl rfl
  · rename_i some
    exact .inr ⟨_, rfl, fun none => some none, merged⟩

end Literal

/-! ## Trees -/

mutual

/-- A tree as a parser makes it, whose registered kinds are all `known`. -/
inductive IsProperTree {π : Type} (known : String → Prop) : Tree π → Prop where
  | intro {tree : Tree π} (apart : Apart Node.IsLiteral tree)
      (nodes : ∀ node ∈ tree, IsProperNode known node) : IsProperTree known tree

/-- A constituent of such a tree. -/
inductive IsProperNode {π : Type} (known : String → Prop) : Node π → Prop where
  | literal {parts : List LiteralPart} (nonempty : parts ≠ []) (merged : IsMerged parts) :
      IsProperNode known (.literal parts)
  | var {name : String} (identifier : IsIdentifier name) : IsProperNode known (.var name)
  | select {key : String} {choices : Choices π} (identifier : IsIdentifier key)
      (proper : AreProperChoices known choices) : IsProperNode known (.select key choices)
  | selectOrdinal {key : String} {choices : Choices π} (identifier : IsIdentifier key)
      (proper : AreProperChoices known choices) : IsProperNode known (.selectOrdinal key choices)
  | plural {key : String} {choices : Choices π} {offset : UInt64} (identifier : IsIdentifier key)
      (proper : AreProperChoices known choices) : IsProperNode known (.plural key choices offset)
  | date {key : String} {width : DateWidth} (identifier : IsIdentifier key) :
      IsProperNode known (.date key width)
  | custom {kind key : String} {payload : π} (identifier : IsIdentifier key)
      (registered : known kind) : IsProperNode known (.custom kind key payload)

/-- The choices of such a tree: one of them stands in for every missing one. -/
inductive AreProperChoices {π : Type} (known : String → Prop) : Choices π → Prop where
  | intro {choices : Choices π} (complete : otherChoice ∈ choices.map (·.1))
      (named : ∀ choice ∈ choices, IsChoiceName choice.1)
      (bodies : ∀ choice ∈ choices, IsProperTree known choice.2) :
      AreProperChoices known choices

end

section Proper

variable {π : Type} {known : String → Prop}

/-- The three kinds of choices have one shape. -/
theorem isProperNode_node_iff {kind : ChoiceKind} {key : String} {choices : Choices π}
    {offset : UInt64} : IsProperNode known (kind.node key choices offset) ↔
      IsIdentifier key ∧ AreProperChoices known choices := by
  constructor
  · intro proper
    cases kind with
    | select | selectOrdinal | plural =>
      cases proper
      exact ⟨‹_›, ‹_›⟩
  · rintro ⟨identifier, proper⟩
    cases kind with
    | select => exact .select identifier proper
    | selectOrdinal => exact .selectOrdinal identifier proper
    | plural => exact .plural identifier proper

/-- A registered kind of a proper tree is known, at any depth. -/
theorem IsProperTree.known_of_occurs {tree : Tree π} {kind key : String} {payload : π}
    (proper : IsProperTree known tree) (occurs : tree.Occurs (.custom kind key payload)) :
    known kind := by
  induction occurs with
  | here member =>
    obtain ⟨-, nodes⟩ := proper
    cases nodes _ member with
    | custom identifier registered => exact registered
  | inside expression listed within inductionHypothesis =>
    obtain ⟨-, nodes⟩ := proper
    obtain ⟨-, -, -, bodies⟩ := isProperNode_node_iff.mp (nodes _ expression)
    exact inductionHypothesis (bodies _ listed)

theorem isProperTree_nodes (run : List Char) :
    IsProperTree known (Literal.nodes run : Tree π) := by
  rcases Literal.nodes_cases (π := π) run with none | ⟨parts, one, nonempty, merged⟩
  · rw [none]
    exact ⟨.nil, by simp⟩
  · rw [one]
    exact ⟨.singleton _, by simpa using .literal nonempty merged⟩

/-- A run of literal text may be put in front of a tree that begins with something else. -/
theorem isProperTree_nodes_append (run : List Char) {node : Node π} {tree : Tree π}
    (plain : ¬node.IsLiteral) (proper : IsProperNode known node)
    (following : IsProperTree known tree) :
    IsProperTree known (Literal.nodes run ++ node :: tree) := by
  obtain ⟨apart, nodes⟩ := following
  have behind : Apart Node.IsLiteral (node :: tree) := apart.cons_of_not plain
  have members : ∀ member ∈ node :: tree, IsProperNode known member :=
    List.forall_mem_cons.mpr ⟨proper, nodes⟩
  rcases Literal.nodes_cases (π := π) run with none | ⟨parts, one, nonempty, merged⟩
  · rw [none]
    exact ⟨behind, members⟩
  · rw [one]
    refine ⟨apart_cons_iff.mpr ⟨?_, behind⟩,
      List.forall_mem_cons.mpr ⟨.literal nonempty merged, members⟩⟩
    rintro - next first
    obtain rfl : node = next := by simpa using first
    exact plain

end Proper

/-! ## Depth -/

theorem treeDepth_nodes {π : Type} (run : List Char) :
    Node.treeDepth (Literal.nodes run : Tree π) = 0 := by
  rcases Literal.nodes_cases (π := π) run with none | ⟨parts, one, -, -⟩
  · simp [none, Node.treeDepth]
  · simp [one, Node.treeDepth, Node.depth]

/-- A proper tree whose choices are nested within a depth. -/
def IsProperWithin {π : Type} (known : String → Prop) (depth : Nat) (tree : Tree π) : Prop :=
  IsProperTree known tree ∧ tree.depth ≤ depth

/-- An expression that may stand in such a tree. -/
def IsProperExpression {π : Type} (known : String → Prop) (depth : Nat) (node : Node π) : Prop :=
  ¬node.IsLiteral ∧ IsProperNode known node ∧ node.depth ≤ depth

theorem isProperWithin_nodes {π : Type} {known : String → Prop} (depth : Nat) (run : List Char) :
    IsProperWithin known depth (Literal.nodes run : Tree π) := by
  refine ⟨isProperTree_nodes run, ?_⟩
  rw [Tree.depth, treeDepth_nodes]
  exact Nat.zero_le depth

theorem isProperWithin_nodes_append {π : Type} {known : String → Prop} {depth : Nat}
    (run : List Char) {node : Node π} {tree : Tree π}
    (expression : IsProperExpression known depth node)
    (following : IsProperWithin known depth tree) :
    IsProperWithin known depth (Literal.nodes run ++ node :: tree) := by
  obtain ⟨plain, proper, shallow⟩ := expression
  obtain ⟨behind, nested⟩ := following
  refine ⟨isProperTree_nodes_append run plain proper behind, ?_⟩
  rw [Tree.depth, Node.treeDepth_append, treeDepth_nodes, Nat.zero_max, Node.treeDepth]
  exact Nat.max_le.mpr ⟨shallow, nested⟩

/-! ## What readers ensure -/

/-- A reader finds only values that satisfy `property`. -/
def Reader.Ensures {α : Type} (reader : Reader α) (property : α → Prop) : Prop :=
  ∀ cursor value stop, reader.run cursor = .done value stop → property value

namespace Parser

variable {π : Type}

/-- What holds of runs of literal text, and of them with an expression and a tree behind,
holds of bodies. -/
theorem ensures_bodyOf {expression : Option (Reader (Node π))} {inner : Node π → Prop}
    {property : Tree π → Prop} (literal : ∀ run, property (Literal.nodes run))
    (extend : ∀ run node tree, inner node → property tree →
      property (Literal.nodes run ++ node :: tree))
    (expressions : ∀ reader, expression = some reader → reader.Ensures inner) :
    (bodyOf expression).Ensures fun found => property found.1 := by
  rintro cursor ⟨tree, bodyEnd⟩ stop read
  change bodyFrom expression cursor = .done (tree, bodyEnd) stop at read
  change property tree
  fun_induction bodyFrom expression cursor generalizing tree with
  | case1 cursor run brace atEnd =>
    obtain ⟨rfl, -⟩ := Prod.mk.inj (Reading.done_inj.mp read).1
    exact literal _
  | case2 cursor run brace present =>
    obtain ⟨rfl, -⟩ := Prod.mk.inj (Reading.done_inj.mp read).1
    exact literal _
  | case3 cursor => simp at read
  | case4 cursor => simp [Reading.done] at read
  | case5 cursor run brace next present opening reader given node place inner close
      inductionHypothesis =>
    subst given
    obtain ⟨⟨nodes, _⟩, following, same⟩ := Reading.map_eq_done_iff.mp read
    obtain ⟨rfl, rfl⟩ := Prod.mk.inj same
    exact extend _ node nodes (expressions reader rfl _ node place inner)
      (inductionHypothesis nodes following)
  | case6 cursor => simp at read

/-- A choice has a name, and its body is what the reader of bodies ensures. -/
theorem ensures_choiceBody {body : Reader (Tree π × BodyEnd)} {property : Tree π → Prop}
    (bodies : body.Ensures fun found => property found.1) : (choiceBody body).Ensures property := by
  intro cursor tree stop read
  obtain ⟨place, inner, -⟩ := choiceBody_eq_done_iff.mp read
  exact bodies cursor (tree, .close) place inner

theorem ensures_choiceHead (offsetAllowed : Bool) (seen : List String) :
    (choiceHead offsetAllowed seen).Ensures fun found => IsChoiceName found.1 := by
  rintro cursor ⟨name, offset⟩ stop read
  obtain ⟨first, place, found, ⟨-, rfl, -⟩ | ⟨-, -, -, -, numeral, -, named⟩, -⟩ :=
    choiceHead_eq_done_iff.mp read
  · obtain ⟨-, -, proper, -⟩ := (Reader.takes_choiceName _ _ _).mp found
    exact proper
  · obtain ⟨-, -, proper, -⟩ := (Reader.takes_choiceName _ _ _).mp named
    exact proper

/-- The choices behind those whose names are in `seen` are choices, and with these they are
complete. -/
theorem choicesFrom_done {body : Reader (Tree π × BodyEnd)} {property : Tree π → Prop}
    (bodies : body.Ensures fun found => property found.1) {offsetAllowed : Bool}
    {seen : List String} {cursor stop : Cursor} {choices : Choices π} {offset : UInt64}
    (read : choicesFrom body offsetAllowed seen cursor = .done (choices, offset) stop) :
    (∀ choice ∈ choices, IsChoiceName choice.1 ∧ property choice.2) ∧
      (otherChoice ∈ seen ∨ otherChoice ∈ choices.map (·.1)) := by
  fun_induction choicesFrom body offsetAllowed seen cursor generalizing choices offset with
  | case1 seen cursor =>
    obtain ⟨complete, rfl, -⟩ := finishChoices_eq_done_iff.mp read
    exact ⟨by simp, .inl complete⟩
  | case2 | case3 => simp [Reading.done] at read
  | case4 seen cursor _ name shift brace head tree place inner inductionHypothesis =>
    obtain ⟨⟨others, ignored⟩, rest, same⟩ := Reading.map_eq_done_iff.mp read
    obtain ⟨rfl, -⟩ := Prod.mk.inj same
    have named : IsChoiceName name := ensures_choiceHead _ _ _ _ _ head
    have proper : property tree := ensures_choiceBody bodies _ _ _ inner
    have following : (∀ choice ∈ others, IsChoiceName choice.1 ∧ property choice.2) ∧
        (otherChoice ∈ name :: seen ∨ otherChoice ∈ others.map (·.1)) := by
      split at rest
      · obtain ⟨complete, rfl, -⟩ := finishChoices_eq_done_iff.mp rest
        exact ⟨by simp, .inl complete⟩
      · exact inductionHypothesis rest
    refine ⟨List.forall_mem_cons.mpr ⟨⟨named, proper⟩, following.1⟩, ?_⟩
    simpa [or_left_comm, or_assoc] using following.2

/-- Choices are proper, and nested no deeper than the bodies that are read. -/
theorem ensures_choices {body : Reader (Tree π × BodyEnd)} {known : String → Prop} {depth : Nat}
    (bodies : body.Ensures fun found => IsProperWithin known depth found.1) (offsetAllowed : Bool) :
    (choices body offsetAllowed).Ensures fun found =>
      AreProperChoices known found.1 ∧ Node.choicesDepth found.1 ≤ depth := by
  rintro cursor ⟨choices, offset⟩ stop read
  obtain ⟨members, complete⟩ := choicesFrom_done bodies (choices_eq_done_iff.mp read).2
  refine ⟨⟨?_, ?_, ?_⟩, Node.choicesDepth_le_iff.mpr ?_⟩
  · simpa using complete
  · exact fun choice member => (members choice member).1
  · exact fun choice member => (members choice member).2.1
  · exact fun choice member => (members choice member).2.2

/-- An expression is a proper constituent other than literal text, and nested at most one
deeper than the bodies that are read. -/
theorem ensures_expressionOf {parser : Parser π} {body : Reader (Tree π × BodyEnd)}
    {known : String → Prop} {depth : Nat} (readable : ∀ kind, parser.kinds.Parses kind → known kind)
    (bodies : body.Ensures fun found => IsProperWithin known depth found.1) :
    (parser.expressionOf body).Ensures (IsProperExpression known (depth + 1)) := by
  intro cursor node stop read
  obtain ⟨key, place, keyed, nonempty, rest⟩ := expressionOf_eq_done_iff.mp read
  obtain ⟨-, -, -, letters, -⟩ := (Reader.takes_identifier _ _ _).mp keyed
  have identifier : IsIdentifier key := ⟨nonempty, letters⟩
  rcases rest with ⟨-, rfl, -⟩ | ⟨-, kind, tail, -, ⟨choiceKind, found, offset, -, inner, rfl⟩ |
    ⟨width, -, -, rfl⟩ | ⟨-, inner⟩⟩
  · exact ⟨by simp [Node.IsLiteral], .var identifier, by simp [Node.depth]⟩
  · obtain ⟨proper, nested⟩ := ensures_choices bodies _ _ _ _ inner
    refine ⟨?_, isProperNode_node_iff.mpr ⟨identifier, proper⟩, ?_⟩
    · cases choiceKind <;> simp [Node.IsLiteral, ChoiceKind.node]
    · rw [Node.depth_node, Nat.add_comm]
      exact Nat.succ_le_succ nested
  · exact ⟨by simp [Node.IsLiteral], .date identifier, by simp [Node.depth]⟩
  · obtain ⟨registered, parse, payload, found, parsing, -, rfl⟩ := customNode_eq_done_iff.mp inner
    have registered : known kind := readable kind ⟨registered, found, by simp [parsing]⟩
    exact ⟨by simp [Node.IsLiteral], .custom identifier registered, by simp [Node.depth]⟩

/-- A body is a proper tree, nested no deeper than the expressions that may be open in it. -/
theorem ensures_body {parser : Parser π} {known : String → Prop}
    (readable : ∀ kind, parser.kinds.Parses kind → known kind) (depth : Nat) :
    (parser.body depth).Ensures fun found => IsProperWithin known depth found.1 := by
  induction depth with
  | zero =>
    refine ensures_bodyOf (isProperWithin_nodes 0)
      (fun run node tree => isProperWithin_nodes_append run) ?_
    intro reader impossible
    cases impossible
  | succ depth inductionHypothesis =>
    refine ensures_bodyOf (isProperWithin_nodes (depth + 1))
      (fun run node tree => isProperWithin_nodes_append run) ?_
    intro reader same
    obtain rfl := Option.some.inj same
    exact ensures_expressionOf readable inductionHypothesis

/-- Every parsed tree is proper for the kinds that the parser can read. -/
theorem isProper_of_parse {parser : Parser π} {known : String → Prop}
    (readable : ∀ kind, parser.kinds.Parses kind → known kind) {template : String}
    {tree : Tree π} (parsed : parser.parse template = .ok tree) :
    IsProperWithin known parser.maxDepth tree := by
  obtain ⟨stop, read⟩ := parse_eq_ok_iff_body.mp parsed
  exact ensures_body readable parser.maxDepth _ _ _ read

/-- A kind whose expressions hold nothing but a key, and which nothing formats. -/
def bareKind : Kind Unit := ⟨some fun _ => pure (), none⟩

/-- A parser whose kinds come from calls of `register` makes trees of this shape: no literal
text beside literal text, no empty text, identifiers and choice names as such, a choice `other`
wherever there are choices, and only kinds that can be read and are not reserved. No tree has
more choices inside each other than the limit. -/
theorem isProperTree_of_parse (calls : List (String × Kind π)) (maxDepth : Nat) (template : String)
    (tree : Tree π)
    (parsed : Parser.parse { kinds := KindRegistry.empty.afterCalls calls, maxDepth } template =
      .ok tree) :
    IsProperTree (fun kind => (KindRegistry.empty.afterCalls calls).Parses kind ∧
        kind ∉ reservedKinds) tree ∧
      tree.depth ≤ maxDepth :=
  isProper_of_parse (fun _ readable => ⟨readable, readable.unreserved⟩) parsed

/-- Two calls of `register`, of which the second is refused, and a tree of the kind that the
first one registers. -/
theorem isProperTree_of_parse_shout :
    Parser.parse
        { kinds := KindRegistry.empty.afterCalls [("shout", bareKind), ("var", bareKind)]
          maxDepth := 1 }
        "\x7bx, shout\x7d \\##1" =
      .ok [.custom "shout" "x" (), .literal [.text " #", .pound, .text "1"]] ∧
    IsProperTree (fun kind =>
        (KindRegistry.empty.afterCalls [("shout", bareKind), ("var", bareKind)]).Parses kind ∧
          kind ∉ reservedKinds)
      [.custom "shout" "x" (), .literal [.text " #", .pound, .text "1"]] ∧
    Tree.depth (π := Unit) [.custom "shout" "x" (),
      .literal [.text " #", .pound, .text "1"]] ≤ 1 := by
  refine ⟨?parsed, isProperTree_of_parse _ 1 "\x7bx, shout\x7d \\##1" _ ?parsed⟩
  cbv

end Parser

end MessageTemplate
