import MessageTemplate.CommandLine.Check
import MessageTemplate.CommandLine.Format

/-!
# The program

What the program answers to its arguments, given the environment variables and the files it
can read.
-/

namespace MessageTemplate.CommandLine

/-- The version of the program. -/
def version : String := "mf 0.1.0"

/-- How the program is used. -/
def help : String :=
  "ICU-style message template tools\n\n" ++
  "Usage: mf [--color WHEN] [--verbose] check FILES... [--json]\n" ++
  "       mf [--color WHEN] [--verbose] format --message TEMPLATE [--param NAME=VALUE]...\n" ++
  "          [--args FILE] [--culture ID] [--date-locale ID] [--bool reject|render] [--json]\n"

/-- What the program answers to its arguments. -/
def run (surroundings : Surroundings) (arguments : List String) : Response :=
  match Command.ofArguments arguments with
  | .error .usage => { exit := .usage, errors := help }
  | .error .version => { exit := .success, output := line version }
  | .error .help => { exit := .success, output := help }
  | .ok (.check request) => check surroundings request
  | .ok (.format request) => format surroundings request

/-- The files that a command reads. -/
def Command.files : Command → List String
  | .check request => request.files
  | .format request => request.argumentsFile?.toList

/-- The files that the program reads when it is given these arguments. -/
def filesOf (arguments : List String) : List String :=
  match Command.ofArguments arguments with
  | .ok command => command.files
  | .error _ => []

end MessageTemplate.CommandLine
