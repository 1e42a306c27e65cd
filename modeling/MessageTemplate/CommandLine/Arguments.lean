import MessageTemplate.Value.Basic

/-!
# Command-line arguments

Reads the arguments of the program. Some settings stand before or after the subcommand, the
others after it; a setting stands at most once in its place unless it is repeatable. A
setting's value is the next argument, or the rest of its own.
-/

namespace MessageTemplate.CommandLine

/-- What can be set by an argument that starts with a hyphen. -/
inductive Setting where
  | color
  | verbose
  | message
  | parameter
  | arguments
  | culture
  | dateLocale
  | booleans
  | json
  deriving DecidableEq, Repr

/-- Where an argument stands. -/
inductive Place where
  /-- Before the subcommand. -/
  | program
  | check
  | format
  deriving DecidableEq, Repr

namespace Setting

/-- Whether a setting has a value. -/
def takesValue : Setting → Bool
  | verbose | json => false
  | _ => true

/-- Whether a setting may stand more than once. -/
def isRepeatable (setting : Setting) : Bool := setting = parameter

/-- Whether a text can be the value of a setting. -/
def accepts (setting : Setting) (value : String) : Bool :=
  match setting with
  | color => ["auto", "always", "never"].contains value
  | booleans => ["reject", "render"].contains value
  | parameter => value.contains '='
  | arguments => !value.isEmpty
  | _ => true

/-- The settings with their long names that may stand in a place. -/
def longNames : Place → List (String × Setting)
  | .program => [("color", color), ("verbose", verbose)]
  | .check => [("color", color), ("verbose", verbose), ("json", json)]
  | .format => [("color", color), ("verbose", verbose), ("message", message),
      ("param", parameter), ("args", arguments), ("culture", culture),
      ("date-locale", dateLocale), ("bool", booleans), ("json", json)]

/-- The settings with their one-letter names that may stand in a place. -/
def shortNames : Place → List (Char × Setting)
  | .program | .check => [('v', verbose)]
  | .format => [('v', verbose), ('m', message), ('p', parameter)]

end Setting

/-- Why reading ends before the last argument. -/
inductive Interruption where
  /-- The arguments are wrong. -/
  | usage
  /-- The version is asked for. -/
  | version
  /-- Help is asked for. -/
  | help
  deriving DecidableEq, Repr

/-- The arguments that are read, in reverse order. -/
structure Collected where
  settings : List (Setting × String) := []
  /-- Arguments that do not start with a hyphen. -/
  operands : List String := []
  deriving DecidableEq, Repr

namespace Collected

/-- Add a setting with its value. -/
def set (collected : Collected) (setting : Setting) (value : String) :
    Except Interruption Collected :=
  let repeated := collected.settings.any fun previous => previous.1 = setting
  if !setting.accepts value || (repeated && !setting.isRepeatable) then .error .usage
  else .ok { collected with settings := (setting, value) :: collected.settings }

/-- Add an operand. -/
def addOperand (collected : Collected) (operand : String) : Collected :=
  { collected with operands := operand :: collected.operands }

/-- The value of a setting. -/
def value? (collected : Collected) (setting : Setting) : Option String :=
  collected.settings.lookup setting

/-- Whether a setting is set. -/
def isSet (collected : Collected) (setting : Setting) : Bool := (collected.value? setting).isSome

/-- The values of a setting in the order of the arguments. -/
def values (collected : Collected) (setting : Setting) : List String :=
  (collected.settings.filterMap fun (other, value) =>
    if other = setting then some value else none).reverse

end Collected

/-- What is read so far, and the setting whose value comes next. -/
abbrev Pending := Collected × Option Setting

/-- Read an argument that starts with two hyphens, without them. -/
def readLong (place : Place) (collected : Collected) (argument : List Char) :
    Except Interruption Pending :=
  let name := String.ofList (argument.takeWhile (· ≠ '='))
  let attached? := match argument.dropWhile (· ≠ '=') with
    | [] => none
    | _ :: value => some (String.ofList value)
  match (Setting.longNames place).lookup name, attached? with
  | none, none =>
    if name = "help" then .error .help
    else if name = "version" ∧ place = .program then .error .version
    else .error .usage
  | none, some _ => .error .usage
  | some setting, none =>
    if setting.takesValue then .ok (collected, some setting)
    else (collected.set setting "").map fun collected => (collected, none)
  | some setting, some value =>
    if setting.takesValue then (collected.set setting value).map fun collected => (collected, none)
    else .error .usage

/-- Read one-letter settings; a setting with a value takes what follows its letter. -/
def readShort (place : Place) (collected : Collected) : List Char → Except Interruption Pending
  | [] => .ok (collected, none)
  | letter :: rest =>
    match (Setting.shortNames place).lookup letter with
    | none =>
      if letter = 'h' then .error .help
      else if letter = 'V' ∧ place = .program then .error .version
      else .error .usage
    | some setting =>
      if setting.takesValue then
        match rest with
        | [] => .ok (collected, some setting)
        | '=' :: value =>
          (collected.set setting (String.ofList value)).map fun collected => (collected, none)
        | value => (collected.set setting (String.ofList value)).map fun collected =>
            (collected, none)
      else
        match collected.set setting "" with
        | .error interruption => .error interruption
        | .ok collected => readShort place collected rest

/-- Whether an argument is not one that starts with a hyphen; a single hyphen is plain. -/
def isPlain (argument : String) : Bool :=
  match argument.toList with
  | '-' :: _ :: _ => false
  | _ => true

/-- Read arguments up to the first operand, and the arguments from there on; all arguments
after `--` are operands. -/
def readSettings (place : Place) : Pending → List String →
    Except Interruption (Collected × Option (String × List String))
  | (collected, none), [] => .ok (collected, none)
  | (_, some _), [] => .error .usage
  | (collected, some setting), argument :: rest =>
    if isPlain argument then
      match collected.set setting argument with
      | .error interruption => .error interruption
      | .ok collected => readSettings place (collected, none) rest
    else .error .usage
  | (collected, none), argument :: rest =>
    match argument.toList with
    | ['-', '-'] =>
      if place = .check then .ok (rest.foldl Collected.addOperand collected, none)
      else if rest.isEmpty then .ok (collected, none)
      else .error .usage
    | '-' :: '-' :: long =>
      match readLong place collected long with
      | .error interruption => .error interruption
      | .ok pending => readSettings place pending rest
    | '-' :: letter :: letters =>
      match readShort place collected (letter :: letters) with
      | .error interruption => .error interruption
      | .ok pending => readSettings place pending rest
    | _ =>
      match place with
      | .program => .ok (collected, some (argument, rest))
      | .check => readSettings place (collected.addOperand argument, none) rest
      | .format => .error .usage

/-- What `format` is asked to do. -/
structure FormatRequest where
  message : String
  /-- Names and values in the order of the arguments. -/
  parameters : List (String × String)
  argumentsFile? : Option String
  culture? : Option String
  dateLocale? : Option String
  booleans : BooleanPolicy
  json : Bool
  deriving DecidableEq, Repr

/-- What `check` is asked to do. -/
structure CheckRequest where
  files : List String
  json : Bool
  deriving DecidableEq, Repr

/-- What the program is asked to do. -/
inductive Command where
  | check (request : CheckRequest)
  | format (request : FormatRequest)
  deriving DecidableEq, Repr

/-- The name and the value of a parameter, around its first `=`. -/
def splitParameter (parameter : String) : String × String :=
  (String.ofList (parameter.toList.takeWhile (· ≠ '=')),
    String.ofList ((parameter.toList.dropWhile (· ≠ '=')).drop 1))

namespace Command

/-- What the arguments after `check` ask for. -/
def ofCheck (arguments : List String) : Except Interruption Command := do
  let (collected, _) ← readSettings .check ({}, none) arguments
  if collected.operands.isEmpty || collected.operands.any String.isEmpty then .error .usage
  else pure (.check ⟨collected.operands.reverse, collected.isSet .json⟩)

/-- What the arguments after `format` ask for. -/
def ofFormat (arguments : List String) : Except Interruption Command := do
  let (collected, _) ← readSettings .format ({}, none) arguments
  match collected.value? .message with
  | none => .error .usage
  | some message =>
    pure (.format {
      message
      parameters := (collected.values .parameter).map splitParameter
      argumentsFile? := collected.value? .arguments
      culture? := collected.value? .culture
      dateLocale? := collected.value? .dateLocale
      booleans := if collected.value? .booleans = some "render" then .render else .reject
      json := collected.isSet .json })

/-- The names of the subcommands. -/
def names : List String := ["check", "format", "help"]

/-- What the arguments after `help` ask for: help on the program or on one subcommand, none of
which has subcommands of its own. -/
def ofHelp (arguments : List String) : Interruption :=
  match arguments with
  | [] => .help
  | [name] => if names.contains name then .help else .usage
  | _ => .usage

/-- What the arguments of the program ask for. -/
def ofArguments (arguments : List String) : Except Interruption Command := do
  let (_, subcommand?) ← readSettings .program ({}, none) arguments
  match subcommand? with
  | some ("check", arguments) => ofCheck arguments
  | some ("format", arguments) => ofFormat arguments
  | some ("help", arguments) => .error (ofHelp arguments)
  | _ => .error .usage

end Command

end MessageTemplate.CommandLine
