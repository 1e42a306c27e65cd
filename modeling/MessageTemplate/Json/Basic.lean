import MessageTemplate.Value.Basic

/-!
# JSON documents

A JSON document as this library keeps it: numbers are words where they fit, else doubles. A
document that was read has the members of its objects sorted by name, one to a name; a
document that is to be written has them in the order of writing.
-/

namespace MessageTemplate

/-- A JSON document. -/
inductive Json where
  | null
  | bool (value : Bool)
  | number (value : Number)
  | string (value : String)
  | array (items : List Json)
  | object (members : List (String × Json))

namespace Json

/-- Put a member at its place among sorted members; it replaces a member of its name. -/
def insertMember {α : Type} (name : String) (value : α) : List (String × α) → List (String × α)
  | [] => [(name, value)]
  | (other, current) :: members =>
    if name = other then (name, value) :: members
    else if name < other then (name, value) :: (other, current) :: members
    else (other, current) :: insertMember name value members

/-- Sort members by name; the last of a name counts. -/
def sortMembers {α : Type} (members : List (String × α)) : List (String × α) :=
  members.foldl (fun sorted member => insertMember member.1 member.2 sorted) []

mutual

/-- A document as the value of an argument. -/
def toValue : Json → Value
  | null => .null
  | bool value => .bool value
  | number value => .number value
  | string value => .string value
  | array items => .list (itemValues items)
  | object members => .map (memberValues members)

/-- The values of a list's items. -/
def itemValues : List Json → List Value
  | [] => []
  | item :: items => item.toValue :: itemValues items

/-- The values of an object's members. -/
def memberValues : List (String × Json) → List (String × Value)
  | [] => []
  | (name, member) :: members => (name, member.toValue) :: memberValues members

end

end Json

end MessageTemplate
