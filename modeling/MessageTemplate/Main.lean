import MessageTemplate.CommandLine.Program

/-!
# Entry point

Reads the files and the environment variables that the program needs and hands them to it.
-/

namespace MessageTemplate.CommandLine

/-- The content of a file, if it can be read as text. -/
def readFile? (path : String) : IO (Option String) := do
  try
    let content ← IO.FS.readFile path
    return some content
  catch _ => return none

/-- The environment variables that the program looks at. -/
def variableNames : List String := ["MF_CULTURE", "MF_DATE_LOCALE"]

/-- The surroundings that the program needs for its arguments. -/
def surroundings (arguments : List String) : IO Surroundings := do
  let files ← (filesOf arguments).mapM fun path => do return (path, ← readFile? path)
  let environment ← variableNames.mapM fun name => do return (name, ← IO.getEnv name)
  return ⟨fun name => (environment.lookup name).join, fun path => (files.lookup path).join⟩

end MessageTemplate.CommandLine

open MessageTemplate.CommandLine in
/-- Run the program. -/
def main (arguments : List String) : IO UInt32 := do
  let response := run (← surroundings arguments) arguments
  IO.print response.output
  IO.eprint response.errors
  return response.exit.code
