import MessageTemplate.Value.Number
import MessageTemplate.Value.Calendar
import MessageTemplate.Value.Duration
import MessageTemplate.Format.Error

/-!
# Values and arguments

What a template can be given, and how a value turns into text or into a number. A value that
is present but null has an empty text; lists and maps have none.
-/

namespace MessageTemplate

/-- A value of an argument. -/
inductive Value where
  | null
  | bool (value : Bool)
  | string (value : String)
  | number (value : Number)
  | duration (value : Duration)
  | datetime (value : Timestamp)
  /-- A value that is known by its text alone. -/
  | display (text : String)
  | list (items : List Value)
  /-- Named values, sorted by name. -/
  | map (entries : List (String × Value))

/-- Whether truth values have a text. -/
inductive BooleanPolicy where
  | reject
  | render
  deriving DecidableEq, Repr

namespace Value

/-- The name of a value's type, as error texts show it. -/
def typeName : Value → String
  | null => "null"
  | bool _ => "bool"
  | string _ => "string"
  | number (.int _) => "integer"
  | number (.uint _) => "unsigned integer"
  | number (.float _) => "float"
  | duration _ => "duration"
  | datetime _ => "datetime"
  | display _ => "display"
  | list _ => "list"
  | map _ => "map"

/-- Whether a value is null. -/
def isNull : Value → Bool
  | null => true
  | _ => false

/-- The number that a value is. -/
def number? : Value → Option Number
  | number value => some value
  | _ => none

/-- The string that a value is. -/
def string? : Value → Option String
  | string value => some value
  | _ => none

/-- The point in time that a value is. -/
def datetime? : Value → Option Timestamp
  | datetime value => some value
  | _ => none

/-- The fault of a value that is not what an expression needs. -/
def mismatch (expected : ArgumentKind) (value : Value) : FormatError :=
  .invalidArgType expected value.typeName

/-- The text of a value. -/
def text (booleans : BooleanPolicy) (value : Value) : Except FormatError String :=
  match value with
  | null => .ok ""
  | string text => .ok text
  | bool truth =>
    match booleans with
    | .render => .ok (if truth then "true" else "false")
    | .reject => .error (mismatch .string value)
  | number amount => .ok amount.text
  | duration length => .ok length.text
  | datetime timestamp => .ok timestamp.text
  | display text => .ok text
  | list _ | map _ => .error (mismatch .string value)

/-- The number that a value is or that its string denotes. -/
def toNumber (value : Value) : Except FormatError Number :=
  match value with
  | number amount => .ok amount
  | string text =>
    match Number.ofText? text with
    | some amount => .ok amount
    | none => .error (mismatch .number value)
  | _ => .error (mismatch .number value)

end Value

/-- Named values, each name at most once. -/
structure Args where
  bindings : List (String × Value)

namespace Args

/-- No arguments. -/
def empty : Args := ⟨[]⟩

/-- The value of a name, null included. -/
def get? (args : Args) (name : String) : Option Value := args.bindings.lookup name

/-- The value of a name; null counts as absent. -/
def present? (args : Args) (name : String) : Option Value :=
  (args.get? name).filter fun value => !value.isNull

/-- Bind a name, in place of any value it had. -/
def insert (args : Args) (name : String) (value : Value) : Args :=
  ⟨(name, value) :: args.bindings.filter fun binding => binding.1 ≠ name⟩

/-- Bind names one after the other: the last value of a name counts. -/
def ofList (bindings : List (String × Value)) : Args :=
  bindings.foldl (fun args binding => args.insert binding.1 binding.2) empty

/-- The number of names. -/
def size (args : Args) : Nat := args.bindings.length

/-- The text of an argument; an absent argument has an empty text. -/
def text (args : Args) (name : String) (booleans : BooleanPolicy) : Except FormatError String :=
  match args.get? name with
  | none => .ok ""
  | some value => value.text booleans

@[simp] theorem get?_empty (name : String) : empty.get? name = none := rfl

theorem get?_insert_self (args : Args) (name : String) (value : Value) :
    (args.insert name value).get? name = some value := by
  simp [insert, get?]

theorem get?_insert_of_ne (args : Args) {name other : String} (value : Value)
    (different : other ≠ name) : (args.insert name value).get? other = args.get? other := by
  obtain ⟨bindings⟩ := args
  have apart : (other == name) = false := beq_eq_false_iff_ne.mpr different
  simp only [insert, get?, List.lookup_cons, apart]
  induction bindings with
  | nil => rfl
  | cons binding bindings inductionHypothesis =>
    obtain ⟨key, bound⟩ := binding
    by_cases same : key = name
    · subst same
      simpa [List.lookup_cons, apart] using inductionHypothesis
    · by_cases found : other = key
      · simp [same, found]
      · simpa [same, List.lookup_cons, beq_eq_false_iff_ne.mpr found] using inductionHypothesis

end Args

end MessageTemplate
