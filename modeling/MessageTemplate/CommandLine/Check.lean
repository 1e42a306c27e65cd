import MessageTemplate.Catalog
import MessageTemplate.CommandLine.Arguments
import MessageTemplate.CommandLine.Response
import MessageTemplate.CommandLine.Table
import MessageTemplate.Diagnostic
import MessageTemplate.Json.Printer

/-!
# Checking catalogs

Reads catalogs and reports the templates with faults, as a table or as a JSON document.
-/

namespace MessageTemplate.CommandLine

/-- A template with a fault. -/
structure MessageFault where
  id : String
  template : String
  error : ParseError
  deriving DecidableEq, Repr

namespace MessageFault

/-- The hint for a fault. -/
def help? (fault : MessageFault) : Option String := fault.error.help? parser.knownKinds

/-- A fault as a JSON document. -/
def toJson (fault : MessageFault) : Json :=
  let help := match fault.help? with
    | some help => [("help", .string help)]
    | none => []
  .object ([("id", .string fault.id), ("error", .string fault.error.fault.message),
    ("position", .number (.uint (UInt64.ofNat fault.error.position)))] ++ help)

/-- A fault for a reader. -/
def describe (file : String) (fault : MessageFault) : String :=
  let diagnostic := Diagnostic.ofParseError fault.template fault.error parser.knownKinds
  let help := match diagnostic.help? with
    | some help => " (" ++ help ++ ")"
    | none => ""
  file ++ "#" ++ fault.id ++ ": " ++ diagnostic.message ++ " at byte " ++
    toString diagnostic.span.offset ++ help

end MessageFault

/-- What a file holds. -/
structure FileReport where
  file : String
  messages : Nat
  faults : List MessageFault
  deriving DecidableEq, Repr

namespace FileReport

/-- The report on a catalog. -/
def ofCatalog (file : String) (catalog : Catalog) : FileReport where
  file
  messages := catalog.length
  faults := catalog.filterMap fun (id, template) =>
    match parser.parse template with
    | .ok _ => none
    | .error error => some ⟨id, template, error⟩

/-- The report on a file. -/
def ofFile (surroundings : Surroundings) (file : String) : Except String FileReport :=
  match surroundings.file? file with
  | none => .error ("Cannot read " ++ file)
  | some content =>
    match Catalog.load content with
    | .error error => .error ("Cannot load catalog " ++ file ++ ": " ++ error.message)
    | .ok catalog => .ok (ofCatalog file catalog)

/-- A report as a JSON document. -/
def toJson (report : FileReport) : Json :=
  .object [("file", .string report.file),
    ("messages", .number (.uint (UInt64.ofNat report.messages))),
    ("errors", .array (report.faults.map MessageFault.toJson))]

/-- A report as a row of a table. -/
def row (report : FileReport) : List String :=
  [report.file, toString report.messages, toString report.faults.length]

end FileReport

/-- Answer with the reports on files. -/
def respondWithReports (json : Bool) (reports : List FileReport) : Response :=
  let table : Table := ⟨["File", "Messages", "Errors"], reports.map FileReport.row⟩
  let descriptions := reports.flatMap fun report =>
    report.faults.map fun fault => line (fault.describe report.file)
  { exit := if reports.all fun report => report.faults.isEmpty then .success else .data
    output := line (if json then (Json.array (reports.map FileReport.toJson)).pretty
      else table.render)
    errors := if json then "" else String.join descriptions }

/-- Check the catalogs in files. A file that is no catalog leaves nothing to report. -/
def check (surroundings : Surroundings) (request : CheckRequest) : Response :=
  match request.files.mapM (FileReport.ofFile surroundings) with
  | .error reason => .failed reason
  | .ok reports => respondWithReports request.json reports

end MessageTemplate.CommandLine
