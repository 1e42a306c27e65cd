import MessageTemplate.Json.Basic

/-!
# Writing JSON documents

Writes a document over several lines, two blanks to a level. Empty lists and objects stay on
one line. Characters beyond ASCII are written as they are.
-/

namespace MessageTemplate.Json

/-- A character as it stands in a string. -/
def escape (character : Char) : String :=
  match character with
  | '"' => "\\\""
  | '\\' => "\\\\"
  | '\n' => "\\n"
  | '\r' => "\\r"
  | '\t' => "\\t"
  | character =>
    let code := character.toNat
    if code = 8 then "\\b"
    else if code = 12 then "\\f"
    else if code < 0x10 then "\\u000" ++ String.ofList (Nat.toDigits 16 code)
    else if code < 0x20 then "\\u00" ++ String.ofList (Nat.toDigits 16 code)
    else character.toString

/-- A string between quotes. -/
def quote (text : String) : String := "\"" ++ String.join (text.toList.map escape) ++ "\""

/-- The blanks before a line of a level. -/
def indentation (level : Nat) : String := String.ofList (List.replicate (2 * level) ' ')

mutual

/-- A document whose lists and objects are indented from `level` on. -/
def render (level : Nat) : Json → String
  | null => "null"
  | bool value => if value then "true" else "false"
  | number value => value.text
  | string value => quote value
  | array [] => "[]"
  | array (item :: items) =>
    "[\n" ++ indentation (level + 1) ++ render (level + 1) item ++
      renderItems (level + 1) items ++ "\n" ++ indentation level ++ "]"
  | object [] => "\x7b\x7d"
  | object ((name, member) :: members) =>
    "\x7b\n" ++ indentation (level + 1) ++ quote name ++ ": " ++ render (level + 1) member ++
      renderMembers (level + 1) members ++ "\n" ++ indentation level ++ "\x7d"

/-- The items after the first, each after a comma on a line of its own. -/
def renderItems (level : Nat) : List Json → String
  | [] => ""
  | item :: items => ",\n" ++ indentation level ++ render level item ++ renderItems level items

/-- The members after the first, each after a comma on a line of its own. -/
def renderMembers (level : Nat) : List (String × Json) → String
  | [] => ""
  | (name, member) :: members =>
    ",\n" ++ indentation level ++ quote name ++ ": " ++ render level member ++
      renderMembers level members

end

/-- The text of a document. -/
def pretty (document : Json) : String := document.render 0

end MessageTemplate.Json
