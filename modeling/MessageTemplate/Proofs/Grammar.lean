import Mathlib
import MessageTemplate.Template.Literal
import MessageTemplate.Template.Token

/-!
# The grammar of templates

Which texts are templates, and which trees they stand for, without a cursor and without an
order of reading. The grammar has the built-in kinds only. It knows no nesting limit:
`Node.treeNesting` counts how many expressions of a tree stand one inside the other.
-/

namespace MessageTemplate

/-- Any number of blanks. -/
def IsBlankText (text : List Char) : Prop := ∀ character ∈ text, isBlank character = true

/-- A word with any number of blanks before and after it. -/
def IsPadded (word : String) (text : List Char) : Prop :=
  ∃ before after, IsBlankText before ∧ IsBlankText after ∧ text = before ++ word.toList ++ after

/-- The blanks around no word may all stand before it. -/
theorem IsPadded.tight {word : String} {text : List Char} (padded : IsPadded word text) :
    ∃ before after, IsBlankText before ∧ IsBlankText after ∧
      text = before ++ word.toList ++ after ∧ (word.toList = [] → after = []) := by
  obtain ⟨before, after, beforeBlank, afterBlank, rfl⟩ := padded
  by_cases empty : word.toList = []
  · exact ⟨before ++ after, [], List.forall_mem_append.mpr ⟨beforeBlank, afterBlank⟩,
      by simp [IsBlankText], by simp [empty], fun _ => rfl⟩
  · exact ⟨before, after, beforeBlank, afterBlank, rfl, fun nothing => absurd nothing empty⟩

theorem isPadded_self (word : String) : IsPadded word word.toList :=
  ⟨[], [], by simp [IsBlankText], by simp [IsBlankText], by simp⟩

/-- A word behind one blank. -/
theorem isPadded_blank (word : String) : IsPadded word (' ' :: word.toList) :=
  ⟨[' '], [], by simp [IsBlankText, isBlank], by simp [IsBlankText], by simp⟩

/-- A name of a variable: ASCII letters, ASCII digits and `_`, at least one of them. -/
def IsIdentifier (name : String) : Prop :=
  name ≠ "" ∧ ∀ character ∈ name.toList, isNameCharacter character = true

/-- A name of a choice: any characters but blanks and `:`, `,`, `{`, `}`, at least one. -/
def IsChoiceName (name : String) : Prop :=
  name ≠ "" ∧
    ∀ character ∈ name.toList, isBlank character = false ∧ endsChoiceName character = false

instance (name : String) : Decidable (IsIdentifier name) :=
  decidable_of_iff (name ≠ "" ∧ name.toList.all isNameCharacter = true)
    (and_congr_right fun _ => List.all_eq_true)

instance (name : String) : Decidable (IsChoiceName name) :=
  decidable_of_iff
    (name ≠ "" ∧ (name.toList.all fun character =>
      !isBlank character && !endsChoiceName character) = true)
    (and_congr_right fun _ => by simp)

theorem isChoiceName_otherChoice : IsChoiceName otherChoice := by decide

theorem isChoiceName_offset : IsChoiceName "offset" := by decide

theorem isIdentifier_date : IsIdentifier "date" := by decide

theorem isIdentifier_width (width : DateWidth) : IsIdentifier width.name := by
  cases width <;> decide

/-- A run of literal text: a backslash of the run stands right before each brace of it. -/
def IsLiteralRun (run : List Char) : Prop :=
  ∀ before brace after, run = before ++ brace :: after → brace = '{' ∨ brace = '}' →
    before.getLast? = some '\\'

/-- The kinds of expressions that hold choices. -/
inductive ChoiceKind where
  | select
  | selectOrdinal
  | plural
  deriving DecidableEq, Repr

namespace ChoiceKind

/-- The name of a kind in a template. -/
def name : ChoiceKind → String
  | select => "select"
  | selectOrdinal => "selectordinal"
  | plural => "plural"

theorem isIdentifier_name (kind : ChoiceKind) : IsIdentifier kind.name := by
  cases kind <;> decide

/-- An expression of a kind; only plurals have an offset. -/
def node {π : Type} (kind : ChoiceKind) (key : String) (choices : Choices π) (offset : UInt64) :
    Node π :=
  match kind with
  | select => .select key choices
  | selectOrdinal => .selectOrdinal key choices
  | plural => .plural key choices offset

theorem exists_iff {property : ChoiceKind → Prop} :
    (∃ kind, property kind) ↔ property select ∨ property selectOrdinal ∨ property plural := by
  constructor
  · rintro ⟨kind, holds⟩
    cases kind with
    | select => exact .inl holds
    | selectOrdinal => exact .inr (.inl holds)
    | plural => exact .inr (.inr holds)
  · rintro (holds | holds | holds) <;> exact ⟨_, holds⟩

/-- Whether an offset may stand before the choices. -/
def takesOffset : ChoiceKind → Bool
  | plural => true
  | _ => false

end ChoiceKind

/-- What may stand before choices: nothing, or, where an offset is allowed, `offset: value` and
at least one blank. -/
inductive IsOffset : Bool → List Char → UInt64 → Prop where
  | absent {allowed : Bool} : IsOffset allowed [] 0
  | present {word gap numeral blanks : List Char} {offset : UInt64}
      (named : IsPadded "offset" word) (gapBlank : IsBlankText gap)
      (value : Reader.offsetValue numeral = .ok offset)
      (blanksBlank : IsBlankText blanks) (separated : blanks ≠ []) :
      IsOffset true (word ++ ':' :: (gap ++ numeral ++ blanks)) offset

theorem isOffset_false_iff {text : List Char} {offset : UInt64} :
    IsOffset false text offset ↔ text = [] ∧ offset = 0 := by
  constructor
  · rintro ⟨⟩
    exact ⟨rfl, rfl⟩
  · rintro ⟨rfl, rfl⟩
    exact .absent

mutual

/-- A message: runs of literal text and expressions in turn. A run in front of an expression
does not end with a backslash, which would escape the brace that opens the expression. -/
inductive IsMessage {π : Type} : List Char → Tree π → Prop where
  | literal {run : List Char} (escaped : IsLiteralRun run) : IsMessage run (Literal.nodes run)
  | expression {run inside rest : List Char} {node : Node π} {tree : Tree π}
      (escaped : IsLiteralRun run) (opening : run.getLast? ≠ some '\\')
      (inner : IsExpression inside node) (following : IsMessage rest tree) :
      IsMessage (run ++ '{' :: (inside ++ '}' :: rest)) (Literal.nodes run ++ node :: tree)

/-- The inside of an expression, between its braces. -/
inductive IsExpression {π : Type} : List Char → Node π → Prop where
  | var {key : String} {keyText : List Char}
      (identifier : IsIdentifier key) (keyed : IsPadded key keyText) :
      IsExpression keyText (.var key)
  | date {key : String} {width : DateWidth} {keyText kindText widthText : List Char}
      (identifier : IsIdentifier key) (keyed : IsPadded key keyText)
      (kinded : IsPadded "date" kindText) (sized : IsPadded width.name widthText) :
      IsExpression (keyText ++ ',' :: (kindText ++ ',' :: widthText)) (.date key width)
  | choices {kind : ChoiceKind} {key : String} {offset : UInt64} {choices : Choices π}
      {keyText kindText offsetText choicesText : List Char}
      (identifier : IsIdentifier key) (keyed : IsPadded key keyText)
      (kinded : IsPadded kind.name kindText) (shifted : IsOffset kind.takesOffset offsetText offset)
      (listed : AreChoices choicesText choices) (distinct : (choices.map (·.1)).Nodup)
      (complete : otherChoice ∈ choices.map (·.1)) :
      IsExpression (keyText ++ ',' :: (kindText ++ ',' :: (offsetText ++ choicesText)))
        (kind.node key choices offset)

/-- Choices one after the other: a name and a message in braces, with blanks around both. The
message does not end with a backslash, which would escape its closing brace. -/
inductive AreChoices {π : Type} : List Char → Choices π → Prop where
  | nil : AreChoices [] []
  | cons {name : String} {body : Tree π} {choices : Choices π}
      {nameText bodyText gap choicesText : List Char}
      (proper : IsChoiceName name) (named : IsPadded name nameText)
      (message : IsMessage bodyText body) (closing : bodyText.getLast? ≠ some '\\')
      (gapBlank : IsBlankText gap) (listed : AreChoices choicesText choices) :
      AreChoices (nameText ++ '{' :: (bodyText ++ '}' :: (gap ++ choicesText)))
        ((name, body) :: choices)

end

namespace Node

variable {π : Type}

mutual

/-- How many expressions stand one inside the other in a constituent, itself included. Every
expression counts, also one that holds no choices. -/
def nesting : Node π → Nat
  | literal _ => 0
  | var _ => 1
  | date _ _ => 1
  | custom _ _ _ => 1
  | select _ choices => 1 + choicesNesting choices
  | selectOrdinal _ choices => 1 + choicesNesting choices
  | plural _ choices _ => 1 + choicesNesting choices

/-- The greatest nesting of a constituent. -/
def treeNesting : List (Node π) → Nat
  | [] => 0
  | node :: nodes => max node.nesting (treeNesting nodes)

/-- The greatest nesting of a choice. -/
def choicesNesting : List (String × List (Node π)) → Nat
  | [] => 0
  | (_, body) :: choices => max (treeNesting body) (choicesNesting choices)

end

end Node

end MessageTemplate
