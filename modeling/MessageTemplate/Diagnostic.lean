import MessageTemplate.Template.Help

/-!
# Diagnostics

What a user is shown about a fault of a template: a text, a hint and the bytes of the
template that the fault is about.
-/

namespace MessageTemplate

/-- A range of bytes of a text. -/
structure ByteSpan where
  offset : Nat
  length : Nat
  deriving DecidableEq, Repr

namespace ByteSpan

/-- The bytes of the code point that `position` code points precede, where `offset` bytes
precede the characters given; the empty range at the end if there is none. -/
def find (offset : Nat) : Nat → List Char → ByteSpan
  | _, [] => ⟨offset, 0⟩
  | 0, character :: _ => ⟨offset, character.utf8Size⟩
  | position + 1, character :: rest => find (offset + character.utf8Size) position rest

/-- The bytes of a text's code point at a position. -/
def ofPosition (text : String) (position : Nat) : ByteSpan := find 0 position text.toList

end ByteSpan

/-- A fault as it is shown. -/
structure Diagnostic where
  message : String
  help? : Option String
  label : String
  span : ByteSpan
  deriving DecidableEq, Repr

namespace Diagnostic

/-- The code of every diagnostic about a template. -/
def code : String := "messageformat::syntax"

/-- The diagnostic for an error in a template. -/
def ofParseError (template : String) (error : ParseError) (knownKinds : List String) :
    Diagnostic where
  message := "syntax error: " ++ error.fault.message
  help? := error.help? knownKinds
  label := "error here"
  span := .ofPosition template error.position

end Diagnostic

end MessageTemplate
