import MessageTemplate.Template.Reader
import MessageTemplate.Value.Basic

/-!
# Registered kinds

Expression kinds beyond the built-in ones. A kind has a parsing half, which reads the rest of
an expression into a payload, and a formatting half, which writes the expression; either may
be missing. Registering never replaces: a name is taken once.
-/

namespace MessageTemplate

/-- An expression of a registered kind, as its formatting half sees it. -/
structure CustomExpression (π : Type) where
  kind : String
  key : String
  payload : π

/-- Something that writes to a buffer and may fail; what it wrote before failing stays. -/
abbrev Writer := ExceptT FormatError (StateM String)

/-- Append text to the buffer. -/
def Writer.append (text : String) : Writer Unit := modify (· ++ text)

/-- The two halves of a registered kind. -/
structure Kind (π : Type) where
  /-- Reads what follows the kind's name, given the expression's key. It starts behind the name and
  is to leave the cursor on the brace that closes the expression, so it only goes forward. -/
  parse? : Option (String → Reader π)
  /-- Writes an expression. -/
  format? : Option (CustomExpression π → Args → Writer Unit)

/-- The kinds that no registration may take: the built-in constituents of a template. -/
def reservedKinds : List String :=
  ["literal", "var", "plural", "select", "selectordinal", "date"]

/-- The registered kinds in the order of registration. -/
structure KindRegistry (π : Type) where
  entries : List (String × Kind π)

namespace KindRegistry

variable {π : Type}

/-- No registered kinds. -/
def empty : KindRegistry π := ⟨[]⟩

instance : Inhabited (KindRegistry π) := ⟨empty⟩

/-- The kind of a name. -/
def get? (registry : KindRegistry π) (name : String) : Option (Kind π) :=
  registry.entries.lookup name

/-- Whether a name is registered. -/
def contains (registry : KindRegistry π) (name : String) : Bool := (registry.get? name).isSome

/-- The registered names in the order of registration. -/
def names (registry : KindRegistry π) : List String := registry.entries.map (·.1)

/-- The number of registered kinds. -/
def size (registry : KindRegistry π) : Nat := registry.entries.length

/-- Register a kind under a name that is neither reserved nor taken. -/
def register (registry : KindRegistry π) (name : String) (kind : Kind π) :
    Except ConfigError (KindRegistry π) :=
  if reservedKinds.contains name || registry.contains name then
    .error (.parserAlreadyRegistered name)
  else .ok ⟨registry.entries ++ [(name, kind)]⟩

end KindRegistry

end MessageTemplate
