import MessageTemplate.Proofs.Faults
import MessageTemplate.Proofs.Lockstep
import MessageTemplate.Proofs.LowerLimits
import MessageTemplate.Proofs.Trees

/-!
# The nesting limit of the parser

A higher limit changes nothing but where a lower one cuts a template off. The two parsers run side
by side; they differ only in a body for which the lower limit leaves no level, and there the one
with the lower limit ends, before the brace of an expression.

The limit counts every expression, the depth of a tree only those with choices: a variable or a
date may stand one level further in, but nothing stands inside of it.
-/

namespace MessageTemplate

namespace Node

variable {π : Type}

theorem treeNesting_le_iff {tree : Tree π} {limit : Nat} :
    treeNesting tree ≤ limit ↔ ∀ node ∈ tree, node.nesting ≤ limit := by
  induction tree with
  | nil => simp [treeNesting]
  | cons node tree inductionHypothesis =>
    rw [treeNesting, Nat.max_le, inductionHypothesis, List.forall_mem_cons]

theorem choicesNesting_le_iff {choices : Choices π} {limit : Nat} :
    choicesNesting choices ≤ limit ↔ ∀ choice ∈ choices, treeNesting choice.2 ≤ limit := by
  induction choices with
  | nil => simp [choicesNesting]
  | cons choice choices inductionHypothesis =>
    rw [choicesNesting, Nat.max_le, inductionHypothesis, List.forall_mem_cons]

/-- At most the innermost expression holds no choices. -/
theorem treeNesting_le_depth_succ (tree : Tree π) : treeNesting tree ≤ tree.depth + 1 := by
  induction tree using Tree.bodyInduction with
  | step tree inductionHypothesis =>
  refine treeNesting_le_iff.mpr fun node member => ?_
  cases node using casesKind with
  | literal | var | date | custom => simp [nesting]
  | choices kind key choices offset =>
    have bodies : choicesNesting choices ≤ tree.depth := by
      refine choicesNesting_le_iff.mpr fun choice listed => ?_
      exact (inductionHypothesis kind key choices offset member choice listed).trans
        (Tree.depth_body_lt member listed)
    rw [nesting_node, Nat.add_comm]
    exact Nat.succ_le_succ bodies

end Node

namespace Parser

variable {π : Type}

/-- The error of a parser for which a template is nested too deeply. -/
def CutOff (error : ParseError) : Prop := error.fault = .maxDepthExceeded

variable {parser other : Parser π}

/-- A body that may hold more levels is read alike. -/
theorem alike_body_of_le (kinds : parser.kinds = other.kinds) {depth more : Nat}
    (le : depth ≤ more) : Reader.Alike CutOff (parser.body depth) (other.body more) := by
  have customs (key kind : String) :
      Reader.Alike CutOff (parser.customNode key kind) (other.customNode key kind) := by
    rw [customNode, customNode, kinds]
    exact .refl _
  induction depth generalizing more with
  | zero =>
    cases more with
    | zero => exact .refl _
    | succ more =>
      -- The lower limit leaves no level here.
      exact alike_bodyOf fun _ => rfl
  | succ depth inductionHypothesis =>
    obtain ⟨more, rfl⟩ := Nat.exists_eq_succ_of_ne_zero (Nat.ne_zero_of_lt le)
    have bodies := inductionHypothesis (Nat.le_of_succ_le_succ le)
    exact alike_bodyOf (alike_expressionOf bodies customs)

theorem alike_message_of_le (kinds : parser.kinds = other.kinds)
    (le : parser.maxDepth ≤ other.maxDepth) :
    Reader.Alike CutOff parser.message other.message := by
  apply (alike_body_of_le kinds le).bind
  exact fun found => .refl _

/-- With the built-in kinds only, a higher limit changes no answer but that of a template which the
lower limit cuts off, and it is read further then. -/
theorem parse_eq_or_cutOff {lower upper : Nat} (le : lower ≤ upper) (template : String) :
    (Parser.parse { maxDepth := upper } template : Except ParseError (Tree π)) =
        Parser.parse { maxDepth := lower } template ∨
      ∃ position, (Parser.parse { maxDepth := lower } template : Except ParseError (Tree π)) =
          .error ⟨.maxDepthExceeded, position⟩ ∧
        ∀ error, (Parser.parse { maxDepth := upper } template : Except ParseError (Tree π)) =
          .error error → position ≤ error.position := by
  have alike : Reader.Alike CutOff (message ({ maxDepth := lower } : Parser π))
      (message ({ maxDepth := upper } : Parser π)) := alike_message_of_le rfl le
  rcases alike (.start template) with same | ⟨⟨fault, position⟩, stop, read, cut, further⟩
  · exact .inl (congrArg Prod.fst same)
  · obtain rfl : fault = .maxDepthExceeded := cut
    have failed : (Parser.parse { maxDepth := lower } template : Except ParseError (Tree π)) =
        .error ⟨.maxDepthExceeded, position⟩ := congrArg Prod.fst read
    refine .inr ⟨position, failed, fun error failedAbove => ?_⟩
    obtain ⟨place, below, positioned⟩ := (parse_eq_error_iff KindRegistry.isLocal_empty).mp failed
    obtain ⟨end', above, positioned'⟩ :=
      (parse_eq_error_iff KindRegistry.isLocal_empty).mp failedAbove
    obtain rfl : place = stop := congrArg Prod.snd (below.symm.trans read)
    rw [above] at further
    rw [← positioned', ← show place.position = position from positioned]
    exact further.position_le

/-- With the built-in kinds only, the nesting limit only cuts off: unless the lower one of two
limits is exceeded, both give the same answer. Where it is exceeded an expression opens, and with
the higher limit the template has a tree at least as deep as the lower limit, or it fails there or
later. No expression is ever entered while as many others are open as the limit allows. What is
entered is recorded, and the record is tied to the answers: if there is a tree it keeps within the
same limits as the tree, and for any template, also one with a fault, it tells the answer under
every lower limit. -/
theorem parse_of_maxDepth_le (lower upper : Nat) (le : lower ≤ upper) (template : String) :
    ((∀ position, (Parser.parse { maxDepth := lower } template : Except ParseError (Tree π)) ≠
        .error ⟨.maxDepthExceeded, position⟩) →
      (Parser.parse { maxDepth := upper } template : Except ParseError (Tree π)) =
        Parser.parse { maxDepth := lower } template) ∧
    (∀ position, (Parser.parse { maxDepth := lower } template : Except ParseError (Tree π)) =
        .error ⟨.maxDepthExceeded, position⟩ →
      template.toList[position]? = some '{' ∧
        ((∃ tree : Tree π, Parser.parse { maxDepth := upper } template = .ok tree ∧
            lower ≤ tree.depth) ∨
          ∃ error, (Parser.parse { maxDepth := upper } template : Except ParseError (Tree π)) =
            .error error ∧ position ≤ error.position)) ∧
    (∀ before position after,
      events ({ maxDepth := lower } : Parser π) template = before ++ .entered position :: after →
        ParserEvent.openAfter 0 before < lower) ∧
    (∀ tree : Tree π, Parser.parse { maxDepth := lower } template = .ok tree →
      ∀ limit, ParserEvent.Within limit 0 (events ({ maxDepth := lower } : Parser π) template) ↔
        Node.treeNesting tree ≤ limit) ∧
    ∀ limit ≤ lower, (Parser.parse { maxDepth := limit } template : Except ParseError (Tree π)) =
      match ParserEvent.firstBeyond limit 0
          (events ({ maxDepth := lower } : Parser π) template) with
      | none => Parser.parse { maxDepth := lower } template
      | some position => .error ⟨.maxDepthExceeded, position⟩ := by
  refine ⟨fun fits => ?_, fun position failed => ⟨showsAt_of_parse failed, ?_⟩, ?_,
    fun tree parsed => within_events_iff parsed,
    fun limit below => parse_eq_of_events { maxDepth := lower } below template⟩
  · rcases parse_eq_or_cutOff le template with same | ⟨position, failed, -⟩
    · exact same
    · exact absurd failed (fits position)
  · cases parsed : (Parser.parse { maxDepth := upper } template : Except ParseError (Tree π)) with
    | ok tree =>
      refine .inl ⟨tree, rfl, ?_⟩
      have deep : ¬Node.treeNesting tree ≤ lower := by
        intro shallow
        rw [parse_of_isMessage (isMessage_of_parse parsed).1 shallow] at failed
        cases failed
      have nested := Node.treeNesting_le_depth_succ tree
      omega
    | error error =>
      refine .inr ⟨error, rfl, ?_⟩
      rcases parse_eq_or_cutOff le template with same | ⟨place, failed', later⟩
      · rw [same, failed] at parsed
        exact (congrArg ParseError.position (Except.error.inj parsed)).le
      · rw [failed] at failed'
        obtain rfl : position = place :=
          congrArg ParseError.position (Except.error.inj failed')
        exact later error parsed
  · intro before position after same
    exact openAfter_lt_of_events _ same

/-- A variable in a choice, which is one more level than the depth of the tree. -/
def enclosedVariable : String := "\x7bA, select, other\x7b\x7bB\x7d\x7d\x7d"

/-- The same without the closing braces of the choice and of the expression around it. -/
def unclosedVariable : String := "\x7bA, select, other\x7b\x7bB\x7d"

/-- With one level the variable is cut off, with two there is room for it, and with more nothing
changes. Without the closing braces there is no tree, and still one level is too few. -/
theorem parse_of_maxDepth_le_enclosedVariable :
    (Parser.parse { maxDepth := 1 } enclosedVariable : Except ParseError (Tree Unit)) =
        .error ⟨.maxDepthExceeded, 18⟩ ∧
      enclosedVariable.toList[18]? = some '{' ∧
      (∃ tree : Tree Unit, Parser.parse { maxDepth := 2 } enclosedVariable = .ok tree ∧
        1 ≤ tree.depth) ∧
      (Parser.parse { maxDepth := 64 } enclosedVariable : Except ParseError (Tree Unit)) =
        Parser.parse { maxDepth := 2 } enclosedVariable ∧
      events ({ maxDepth := 2 } : Parser Unit) enclosedVariable =
        [.entered 0, .entered 18, .left 20, .left 22] ∧
      ParserEvent.openAfter 0 [.entered 0] < 2 ∧
      ParserEvent.Within 2 0 [.entered 0, .entered 18, .left 20, .left 22] ∧
      (Parser.parse { maxDepth := 2 } unclosedVariable : Except ParseError (Tree Unit)) =
        .error ⟨.unbalancedBraces, 21⟩ ∧
      events ({ maxDepth := 2 } : Parser Unit) unclosedVariable =
        [.entered 0, .entered 18, .left 20] ∧
      (Parser.parse { maxDepth := 1 } unclosedVariable : Except ParseError (Tree Unit)) =
        .error ⟨.maxDepthExceeded, 18⟩ := by
  have failed : (Parser.parse { maxDepth := 1 } enclosedVariable : Except ParseError (Tree Unit)) =
      .error ⟨.maxDepthExceeded, 18⟩ := by with_unfolding_all rfl
  have parsed : (Parser.parse { maxDepth := 2 } enclosedVariable : Except ParseError (Tree Unit)) =
      .ok [.select "A" [("other", [.var "B"])]] := by with_unfolding_all rfl
  have recorded : events ({ maxDepth := 2 } : Parser Unit) enclosedVariable =
      [.entered 0, .entered 18, .left 20, .left 22] := by with_unfolding_all rfl
  have unclosed : (Parser.parse { maxDepth := 2 } unclosedVariable :
      Except ParseError (Tree Unit)) = .error ⟨.unbalancedBraces, 21⟩ := by
    with_unfolding_all rfl
  have recordedUnclosed : events ({ maxDepth := 2 } : Parser Unit) unclosedVariable =
      [.entered 0, .entered 18, .left 20] := by with_unfolding_all rfl
  obtain ⟨brace, higher⟩ := (parse_of_maxDepth_le 1 2 (by decide) _).2.1 18 failed
  obtain ⟨same, -, entered, nested, -⟩ :=
    parse_of_maxDepth_le (π := Unit) 2 64 (by decide) enclosedVariable
  obtain ⟨-, -, -, -, told⟩ := parse_of_maxDepth_le (π := Unit) 2 64 (by decide) unclosedVariable
  refine ⟨failed, brace, ?_, ?_, recorded, ?_, ?_, unclosed, recordedUnclosed, ?_⟩
  · rcases higher with found | ⟨error, refused, -⟩
    · exact found
    · cases parsed.symm.trans refused
  · exact same fun position refused => by cases parsed.symm.trans refused
  · exact entered [.entered 0] 18 _ recorded
  · rw [← recorded, nested _ parsed 2]
    simp [Node.treeNesting, Node.nesting, Node.choicesNesting]
  · rw [told 1 (by decide), recordedUnclosed]
    rfl

end Parser

end MessageTemplate
