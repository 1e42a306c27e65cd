import MessageTemplate.Template.Parser

/-!
# Responses

What the program sees of the system it runs on, and what it answers.
-/

namespace MessageTemplate.CommandLine

/-- What the program sees besides its arguments. -/
structure Surroundings where
  environment? : String → Option String
  /-- The content of a file that can be read. -/
  file? : String → Option String

/-- How the program ends. -/
inductive Exit where
  /-- All is well. -/
  | success
  /-- The arguments are wrong. -/
  | usage
  /-- A template or its arguments are at fault. -/
  | data
  /-- Anything else is at fault. -/
  | failure
  deriving DecidableEq, Repr

/-- The number that the program ends with. -/
def Exit.code : Exit → UInt32
  | success => 0
  | usage => 2
  | data => 65
  | failure => 70

/-- What the program answers. -/
structure Response where
  exit : Exit
  output : String := ""
  errors : String := ""
  deriving DecidableEq, Repr

/-- A text as a line. -/
def line (text : String) : String := text ++ "\n"

/-- The answer to a fault for which no output exists. -/
def Response.failed (reason : String) : Response :=
  { exit := .failure, errors := line ("Error: " ++ reason) }

/-- The parser of the program. -/
def parser : Parser Unit := {}

end MessageTemplate.CommandLine
