/-!
# Template trees

What a template means: literal text, variables, choices, dates and expressions of registered
kinds, in the order in which they stand. Registered kinds attach a payload of the type `π`
to their expressions.
-/

namespace MessageTemplate

/-- A piece of literal text. -/
inductive LiteralPart where
  | text (text : String)
  /-- An unescaped `#`: the number of the innermost choice. -/
  | pound
  deriving DecidableEq, Repr

/-- How much of a date is written. -/
inductive DateWidth where
  | short
  | medium
  | long
  | full
  deriving DecidableEq, Repr

namespace DateWidth

/-- The name of a width in a template. -/
def name : DateWidth → String
  | short => "short"
  | medium => "medium"
  | long => "long"
  | full => "full"

/-- The width of a name. -/
def ofName? : String → Option DateWidth
  | "short" => some short
  | "medium" => some medium
  | "long" => some long
  | "full" => some full
  | _ => none

end DateWidth

/-- One constituent of a template. Choices are named messages in the order of the template. -/
inductive Node (π : Type) where
  | literal (parts : List LiteralPart)
  | var (name : String)
  | select (key : String) (choices : List (String × List (Node π)))
  | selectOrdinal (key : String) (choices : List (String × List (Node π)))
  | plural (key : String) (choices : List (String × List (Node π))) (offset : UInt64)
  | date (key : String) (width : DateWidth)
  | custom (kind key : String) (payload : π)

/-- A message: its constituents in order. -/
abbrev Tree (π : Type) := List (Node π)

/-- Named messages; the first of a name counts. -/
abbrev Choices (π : Type) := List (String × Tree π)

/-- The name of the choice that stands in for every missing one. -/
def otherChoice : String := "other"

namespace Node

variable {π : Type}

/-- The name of a constituent's kind; a registered kind goes by its own name. -/
def kind : Node π → String
  | literal _ => "literal"
  | var _ => "var"
  | select _ _ => "select"
  | selectOrdinal _ _ => "selectordinal"
  | plural _ _ _ => "plural"
  | date _ _ => "date"
  | custom kind _ _ => kind

mutual

/-- How deeply choices are nested in a constituent. -/
def depth : Node π → Nat
  | select _ choices => 1 + choicesDepth choices
  | selectOrdinal _ choices => 1 + choicesDepth choices
  | plural _ choices _ => 1 + choicesDepth choices
  | _ => 0

/-- The greatest depth of a constituent. -/
def treeDepth : List (Node π) → Nat
  | [] => 0
  | node :: nodes => max node.depth (treeDepth nodes)

/-- The greatest depth of a choice. -/
def choicesDepth : List (String × List (Node π)) → Nat
  | [] => 0
  | (_, body) :: choices => max (treeDepth body) (choicesDepth choices)

end

end Node

namespace Choices

variable {π : Type}

/-- The choice of a name. -/
def get? (choices : Choices π) (name : String) : Option (Tree π) := choices.lookup name

end Choices

namespace Tree

variable {π : Type}

/-- How deeply choices are nested. -/
def depth (tree : Tree π) : Nat := Node.treeDepth tree

/-- Add a constituent at the end; literal text joins the literal text before it. -/
def push (tree : Tree π) (node : Node π) : Tree π :=
  match tree, node with
  | [], node => [node]
  | [.literal before], .literal parts => [.literal (before ++ parts)]
  | first :: rest, node => first :: push rest node

/-- Add constituents one by one. -/
def ofNodes (nodes : List (Node π)) : Tree π := nodes.foldl push []

end Tree

end MessageTemplate
