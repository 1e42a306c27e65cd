import MessageTemplate.CommandLine.Arguments
import MessageTemplate.CommandLine.Response
import MessageTemplate.Diagnostic
import MessageTemplate.Format.Message
import MessageTemplate.Json.Printer
import MessageTemplate.Json.Reader
import MessageTemplate.Value.Parameter

/-!
# Formatting a template

Formats one template with the arguments of a file and of the command line.
-/

namespace MessageTemplate.CommandLine

/-- The arguments in a file: an object of a JSON document. -/
def loadArguments (surroundings : Surroundings) (file : String) : Except String Args :=
  match surroundings.file? file with
  | none => .error ("Cannot read arguments file " ++ file)
  | some content =>
    match Json.ofText? content with
    | none => .error ("Invalid JSON in " ++ file)
    | some document =>
      match document.toValue with
      | .map entries => .ok (Args.ofList entries)
      | other =>
        .error ("Arguments file " ++ file ++ " must hold an object, found " ++ other.typeName)

/-- The arguments of a request: parameters take the place of what the file holds. -/
def argumentsOf (surroundings : Surroundings) (request : FormatRequest) : Except String Args :=
  let loaded : Except String Args := match request.argumentsFile? with
    | none => .ok .empty
    | some file => loadArguments surroundings file
  loaded.map fun args => request.parameters.foldl
    (fun args parameter => args.insert parameter.1 (Value.ofParameter parameter.2)) args

/-- The options of a request: what it leaves open is taken from the environment. -/
def optionsOf (surroundings : Surroundings) (request : FormatRequest) : FormatterOptions Unit where
  culture? := request.culture?.or (surroundings.environment? "MF_CULTURE")
  dateLocale? := request.dateLocale?.or (surroundings.environment? "MF_DATE_LOCALE")
  booleans := request.booleans

/-- Answer to a template with a fault. -/
def respondToFault (request : FormatRequest) (error : ParseError) : Response :=
  if request.json then
    let document := Json.object [("error", .string error.message),
      ("position", .number (.uint (UInt64.ofNat error.position)))]
    { exit := .data, errors := line document.pretty }
  else
    let diagnostic := Diagnostic.ofParseError request.message error parser.knownKinds
    .failed diagnostic.message

/-- Answer with the text of a template or with the reason why there is none. -/
def respondWithText (request : FormatRequest) (result : Except FormatError String) : Response :=
  match result with
  | .ok text =>
    { exit := .success
      output := line (if request.json then (Json.object [("result", .string text)]).pretty
        else text) }
  | .error error =>
    { exit := .data
      errors := line (if request.json then
          (Json.object [("error", .string error.message)]).pretty
        else "Format error: " ++ error.message) }

/-- Format a template. A fault of the arguments comes before one of the options, and that one
before a fault of the template. -/
def format (surroundings : Surroundings) (request : FormatRequest) : Response :=
  match argumentsOf surroundings request with
  | .error reason => .failed reason
  | .ok args =>
    match Formatter.build (optionsOf surroundings request) with
    | .error error => .failed error.message
    | .ok formatter =>
      match parser.parse request.message with
      | .error error => respondToFault request error
      | .ok tree => respondWithText request (formatter.format tree args)

end MessageTemplate.CommandLine
