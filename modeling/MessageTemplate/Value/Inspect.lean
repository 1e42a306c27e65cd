import MessageTemplate.Text.Quoted
import MessageTemplate.Value.Basic

/-!
# Values for inspection

A text that shows a value's type and content on one line.
-/

namespace MessageTemplate

/-- A number for inspection; a double always shows a point or an exponent. -/
def Number.inspect : Number → String
  | int value => "Int(" ++ toString value.toInt ++ ")"
  | uint value => "UInt(" ++ toString value.toNat ++ ")"
  | float value => "Float(" ++ inspectFloat value ++ ")"

namespace Value

mutual

/-- A value for inspection. -/
def inspect : Value → String
  | null => "Null"
  | bool truth => "Bool(" ++ (if truth then "true" else "false") ++ ")"
  | string text => "String(" ++ Quoted.encode text ++ ")"
  | number amount => "Number(" ++ amount.inspect ++ ")"
  | duration length => "Duration(" ++ length.unitText ++ ")"
  | datetime timestamp => "DateTime(" ++ timestamp.isoText ++ ")"
  | display text => "Display(" ++ Quoted.encode text ++ ")"
  | list items => "List([" ++ inspectItems items ++ "])"
  | map entries => "Map(\x7b" ++ inspectEntries entries ++ "\x7d)"

/-- The items of a list, with commas between them. -/
def inspectItems : List Value → String
  | [] => ""
  | [item] => item.inspect
  | item :: items => item.inspect ++ ", " ++ inspectItems items

/-- The entries of a map, with commas between them. -/
def inspectEntries : List (String × Value) → String
  | [] => ""
  | [(name, value)] => Quoted.encode name ++ ": " ++ value.inspect
  | (name, value) :: entries =>
    Quoted.encode name ++ ": " ++ value.inspect ++ ", " ++ inspectEntries entries

end

end Value

end MessageTemplate
