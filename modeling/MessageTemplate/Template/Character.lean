/-!
# Characters of a template

The characters that carry structure, and the two classes of characters the readers tell
apart. Both classes hold ASCII characters only: every other code point is ordinary text.
-/

namespace MessageTemplate

/-- Space, tab, carriage return and line feed may stand between tokens. -/
def isBlank (character : Char) : Bool :=
  character = ' ' || character = '\t' || character = '\r' || character = '\n'

/-- ASCII letters, ASCII digits and `_` make up variable names and expression kinds. -/
def isNameCharacter (character : Char) : Bool :=
  character.isAlphanum || character = '_'

/-- The characters `:`, `,`, `}` and `{` end a choice name. -/
def endsChoiceName (character : Char) : Bool :=
  character = ':' || character = ',' || character = '}' || character = '{'

/-- The characters `{`, `}` and `#` mean something in literal text unless a backslash precedes
them. -/
def isStructural (character : Char) : Bool :=
  character = '{' || character = '}' || character = '#'

end MessageTemplate
