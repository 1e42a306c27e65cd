import MessageTemplate.Json.Basic
import MessageTemplate.Json.Lexeme

/-!
# Reading JSON documents

Builds a document from its lexemes, one after the other, on a stack of the lists and objects
that are still open. Lists and objects may be nested up to a limit.
-/

namespace MessageTemplate.Json

/-- A list or an object that is still open, with what it holds so far, last first. -/
inductive Frame where
  | array (items : List Json)
  | object (members : List (String × Json)) (name : String)

/-- What may come next. -/
inductive Place where
  /-- A document. -/
  | value
  /-- The first item of a list, or its end. -/
  | firstItem
  /-- The first name of an object, or its end. -/
  | firstName
  /-- A name of an object. -/
  | name
  /-- A colon. -/
  | colon
  /-- A comma, or the end of the list or object. -/
  | separator
  /-- Nothing: the document is complete. -/
  | complete (document : Json)

/-- How far a document is read. -/
structure Progress where
  stack : List Frame
  place : Place

namespace Progress

/-- A document that is not read at all. -/
def start : Progress := ⟨[], .value⟩

/-- Put a complete value where it belongs. -/
def deliver (value : Json) : List Frame → Progress
  | [] => ⟨[], .complete value⟩
  | .array items :: stack => ⟨.array (value :: items) :: stack, .separator⟩
  | .object members name :: stack => ⟨.object ((name, value) :: members) name :: stack, .separator⟩

/-- Read a lexeme that begins a value. -/
def beginValue (maxDepth : Nat) (stack : List Frame) : Lexeme → Option Progress
  | .openObject =>
    if stack.length < maxDepth then some ⟨.object [] "" :: stack, .firstName⟩ else none
  | .openArray =>
    if stack.length < maxDepth then some ⟨.array [] :: stack, .firstItem⟩ else none
  | .string text => some (deliver (.string text) stack)
  | .number value => some (deliver (.number value) stack)
  | .word "null" => some (deliver .null stack)
  | .word "true" => some (deliver (.bool true) stack)
  | .word "false" => some (deliver (.bool false) stack)
  | _ => none

/-- Read the mark that ends the innermost list or object. -/
def close : Lexeme → List Frame → Option Progress
  | .closeArray, .array items :: stack => some (deliver (.array items.reverse) stack)
  | .closeObject, .object members _ :: stack =>
    some (deliver (.object (sortMembers members.reverse)) stack)
  | _, _ => none

/-- Read the name of a member. -/
def beginMember (stack : List Frame) : Lexeme → Option Progress
  | .string name =>
    match stack with
    | .object members _ :: stack => some ⟨.object members name :: stack, .colon⟩
    | _ => none
  | _ => none

/-- Read a lexeme after an item or a member. -/
def separate (stack : List Frame) : Lexeme → Option Progress
  | .comma =>
    match stack with
    | .array _ :: _ => some ⟨stack, .value⟩
    | .object _ _ :: _ => some ⟨stack, .name⟩
    | [] => none
  | lexeme => close lexeme stack

/-- Read one lexeme. -/
def step (maxDepth : Nat) (progress : Progress) (lexeme : Lexeme) : Option Progress :=
  match progress.place with
  | .value => beginValue maxDepth progress.stack lexeme
  | .firstItem =>
    match lexeme with
    | .closeArray => close lexeme progress.stack
    | _ => beginValue maxDepth progress.stack lexeme
  | .firstName =>
    match lexeme with
    | .closeObject => close lexeme progress.stack
    | _ => beginMember progress.stack lexeme
  | .name => beginMember progress.stack lexeme
  | .colon =>
    match lexeme with
    | .colon => some ⟨progress.stack, .value⟩
    | _ => none
  | .separator => separate progress.stack lexeme
  | .complete _ => none

end Progress

/-- The document that lexemes make up. -/
def ofLexemes? (maxDepth : Nat) (lexemes : List Lexeme) : Option Json :=
  match lexemes.foldlM (Progress.step maxDepth) Progress.start with
  | some ⟨_, .complete document⟩ => some document
  | _ => none

/-- The document that a text denotes, with at most `maxDepth` lists and objects inside each
other. -/
def ofTextWithin? (maxDepth : Nat) (text : String) : Option Json :=
  (Lexeme.ofText? text.toList).bind (ofLexemes? maxDepth)

/-- How deeply lists and objects of a document may be nested. -/
def defaultMaxDepth : Nat := 127

/-- The document that a text denotes. -/
def ofText? (text : String) : Option Json := ofTextWithin? defaultMaxDepth text

end MessageTemplate.Json
