import MessageTemplate.Format.Formatter

/-!
# Evaluation

Writes a tree with the arguments of a scope. Literal text is copied, and `#` stands for the
text of the number that the innermost choice was made by. A choice is first resolved, which
needs no recursion, and then the chosen body is evaluated one level deeper. What was written
before a fault stays written, and the levels that were open at the fault stay open.
-/

namespace MessageTemplate

/-- The arguments of an evaluation and its limits. -/
structure Scope where
  args : Args
  booleans : BooleanPolicy := .reject
  maxDepth : Nat := 64

/-- How far an evaluation is. -/
structure EvaluationState where
  /-- How many choice bodies are open. -/
  depth : Nat
  /-- What is written. -/
  output : String
  deriving DecidableEq, Repr

/-- A step of an evaluation. -/
abbrev Evaluation := ExceptT FormatError (StateM EvaluationState)

namespace Scope

/-- The text of an argument. -/
def text (scope : Scope) (name : String) : Except FormatError String :=
  scope.args.text name scope.booleans

/-- The text of a value. -/
def render (scope : Scope) (value : Value) : Except FormatError String :=
  value.text scope.booleans

/-- Open one more level, if the limit allows it. -/
def enter (scope : Scope) (depth : Nat) : Except FormatError Nat :=
  if scope.maxDepth ≤ depth then .error .maxDepthExceeded else .ok (depth + 1)

/-- Close a level. -/
def leave (depth : Nat) : Nat := depth - 1

end Scope

namespace Evaluation

/-- Fail with `error`, or go on with a value. -/
def lift {α : Type} (result : Except FormatError α) : Evaluation α :=
  match result with
  | .ok value => pure value
  | .error error => throw error

/-- Write text. -/
def write (text : String) : Evaluation Unit :=
  modify fun state => { state with output := state.output ++ text }

/-- Open a level. -/
def enter (scope : Scope) : Evaluation Unit := do
  let depth ← lift (scope.enter (← get).depth)
  modify fun state => { state with depth }

/-- Close a level. -/
def leave : Evaluation Unit :=
  modify fun state => { state with depth := Scope.leave state.depth }

/-- Do something one level deeper. A fault inside keeps the level from being closed. -/
def deeper (scope : Scope) (action : Evaluation Unit) : Evaluation Unit := do
  enter scope
  action
  leave

/-- Let a registered kind write to the output. -/
def ofWriter (writer : Writer Unit) : Evaluation Unit := do
  let state ← get
  let (result, output) := writer.run.run state.output
  set { state with output }
  lift result

end Evaluation

/-- A choice that has been made. -/
structure Resolution where
  /-- The names of choices in the order of preference. -/
  candidates : List String
  /-- What `#` stands for in the choice. -/
  pound : String
  deriving DecidableEq, Repr

/-- The first of the candidates that is a choice. -/
def Resolution.chosen? {π : Type} (resolution : Resolution) (choices : Choices π) :
    Option String :=
  resolution.candidates.find? fun name => (choices.get? name).isSome

/-- The text that a part of a literal writes: an unset `#` stands for itself. -/
def LiteralPart.render (replacement : String) : LiteralPart → String
  | text characters => characters
  | pound => if replacement.isEmpty then "#" else replacement

namespace Formatter

variable {π : Type}

/-- Choose by the text of an argument. -/
def resolveSelect (scope : Scope) (key : String) : Except FormatError Resolution := do
  let text ← scope.text key
  pure ⟨[text, otherChoice], text⟩

/-- The name of a number's category. -/
def categoryName (formatter : Formatter π) (number : Number) (type : PluralType) :
    Except FormatError String :=
  match formatter.selector? with
  | some selector => .ok (selector number type)
  | none => .error .undefinedPluralFunc

/-- Choose by the rank that an argument denotes. An absent argument chooses `other`. -/
def resolveOrdinal (formatter : Formatter π) (scope : Scope) (key : String) :
    Except FormatError Resolution :=
  match scope.args.present? key with
  | none => .ok ⟨[otherChoice], ""⟩
  | some value => do
    let number ← value.toNumber
    let category ← formatter.categoryName number .ordinal
    let text ← scope.render value
    pure ⟨[category, otherChoice], text⟩

/-- The name of the choice for exactly this value: `=` and the text of the number. -/
def exactChoice (value : Value) : Except FormatError String :=
  match value with
  | .number number => .ok ("=" ++ number.text)
  | .string text => .ok ("=" ++ text)
  | _ => .error (value.mismatch .number)

/-- Choose by the amount that an argument denotes: the choice for exactly this amount if there
is one, else the one for the category of the amount less the offset. Only an amount that has
no choice of its own needs a selector. An absent argument chooses `other`. -/
def resolvePlural (formatter : Formatter π) (scope : Scope) (key : String)
    (choices : Choices π) (offset : UInt64) : Except FormatError Resolution :=
  match scope.args.present? key with
  | none => .ok ⟨[otherChoice], ""⟩
  | some value => do
    let exact ← exactChoice value
    let text ← scope.render value
    if (choices.get? exact).isSome then pure ⟨[exact], text⟩
    else
      let number ← value.toNumber
      let adjusted := number.minus offset
      let category ← formatter.categoryName adjusted .cardinal
      pure ⟨[category, otherChoice], if offset = 0 then text else adjusted.text⟩

/-- The text of the day that an argument is. Null is present here, but no day. -/
def dateText (formatter : Formatter π) (scope : Scope) (key : String) (width : DateWidth) :
    Except FormatError String :=
  match scope.args.get? key with
  | some (.datetime timestamp) => .ok (formatter.dates.format timestamp.date width)
  | some value => .error (value.mismatch .datetime)
  | none => .error (.invalidArgType .datetime "absent")

/-- What writes an expression of a registered kind. -/
def customWriter (formatter : Formatter π) (scope : Scope) (expression : CustomExpression π) :
    Except FormatError (Writer Unit) :=
  match formatter.kinds.get? expression.kind with
  | none => .error (.unknownType expression.kind)
  | some kind =>
    match kind.format? with
    | none => .error (.undefinedFormatFunc expression.kind)
    | some format => .ok (format expression scope.args)

open Evaluation

mutual

/-- Evaluate constituents one after the other. -/
def evaluateTree (formatter : Formatter π) (scope : Scope) (pound : String) :
    List (Node π) → Evaluation Unit
  | [] => pure ()
  | node :: nodes => do
    evaluateNode formatter scope pound node
    evaluateTree formatter scope pound nodes

/-- Evaluate a constituent. -/
def evaluateNode (formatter : Formatter π) (scope : Scope) (pound : String) :
    Node π → Evaluation Unit
  | .literal parts => write (String.join (parts.map (·.render pound)))
  | .var name => do
    let text ← lift (scope.text name)
    write text
  | .select key choices => do
    let resolution ← lift (resolveSelect scope key)
    evaluateChoice formatter scope resolution.pound (resolution.chosen? choices) choices
  | .selectOrdinal key choices => do
    let resolution ← lift (formatter.resolveOrdinal scope key)
    evaluateChoice formatter scope resolution.pound (resolution.chosen? choices) choices
  | .plural key choices offset => do
    let resolution ← lift (formatter.resolvePlural scope key choices offset)
    evaluateChoice formatter scope resolution.pound (resolution.chosen? choices) choices
  | .date key width => do
    let text ← lift (formatter.dateText scope key width)
    write text
  | .custom kind key payload => do
    let writer ← lift (formatter.customWriter scope ⟨kind, key, payload⟩)
    ofWriter writer

/-- Evaluate the first choice of a name, one level deeper. Without a name nothing is written. -/
def evaluateChoice (formatter : Formatter π) (scope : Scope) (pound : String)
    (chosen? : Option String) : List (String × List (Node π)) → Evaluation Unit
  | [] => pure ()
  | (name, body) :: choices =>
    if chosen? = some name then deeper scope (evaluateTree formatter scope pound body)
    else evaluateChoice formatter scope pound chosen? choices

end

/-- Evaluating a choice is evaluating its body one level deeper, if there is such a choice. -/
theorem evaluateChoice_eq (formatter : Formatter π) (scope : Scope) (pound : String)
    (name : String) (choices : Choices π) :
    evaluateChoice formatter scope pound (some name) choices =
      match choices.get? name with
      | none => pure ()
      | some body => deeper scope (evaluateTree formatter scope pound body) := by
  induction choices with
  | nil => simp [evaluateChoice, Choices.get?]
  | cons choice choices inductionHypothesis =>
    obtain ⟨other, body⟩ := choice
    by_cases same : name = other
    · subst same
      simp [evaluateChoice, Choices.get?]
    · have apart : (name == other) = false := beq_eq_false_iff_ne.mpr same
      simp [evaluateChoice, Choices.get?, List.lookup_cons, apart, same]
      simpa [Choices.get?] using inductionHypothesis

/-- Evaluate a tree from a state: the result and the state afterwards. -/
def evaluate (formatter : Formatter π) (scope : Scope) (pound : String) (tree : Tree π)
    (state : EvaluationState) : Except FormatError Unit × EvaluationState :=
  (formatter.evaluateTree scope pound tree).run.run state

/-- The text of a tree with given arguments. -/
def format (formatter : Formatter π) (tree : Tree π) (args : Args) :
    Except FormatError String :=
  let scope : Scope := ⟨args, formatter.booleans, formatter.maxDepth⟩
  match formatter.evaluate scope "" tree ⟨0, ""⟩ with
  | (.ok _, state) => .ok state.output
  | (.error error, _) => .error error

end Formatter

end MessageTemplate
