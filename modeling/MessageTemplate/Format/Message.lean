import MessageTemplate.Format.Evaluation
import MessageTemplate.Template.Parser

/-!
# Messages

A template that is read, together with the formatter that writes it.
-/

namespace MessageTemplate

/-- A tree and a formatter for it. -/
structure Message (π : Type) where
  tree : Tree π
  formatter : Formatter π

namespace Message

variable {π : Type}

/-- Read a template without registered kinds, to be formatted in English. -/
def ofTemplate (template : String) : Except ParseError (Message π) :=
  (Parser.parse {} template).map fun tree => ⟨tree, .standard⟩

/-- The text of a message without arguments. -/
def format (message : Message π) : Except FormatError String :=
  message.formatter.format message.tree .empty

/-- The text of a message with arguments. -/
def formatWith (message : Message π) (args : Args) : Except FormatError String :=
  message.formatter.format message.tree args

/-- Select plural categories by the rules of a culture. -/
def setCulture (message : Message π) (culture : String) : Except ConfigError (Message π) :=
  (message.formatter.setCulture culture).map fun formatter => { message with formatter }

/-- Select plural categories by a given selector. -/
def setSelector (message : Message π) (selector? : Option PluralSelector) :
    Except ConfigError (Message π) :=
  (message.formatter.setSelector selector?).map fun formatter => { message with formatter }

/-- Write dates in the language of a locale. -/
def setDateLocale (message : Message π) (locale : String) : Except ConfigError (Message π) :=
  (message.formatter.setDateLocale locale).map fun formatter => { message with formatter }

/-- Decide whether truth values have a text. -/
def setBooleans (message : Message π) (booleans : BooleanPolicy) : Message π :=
  { message with formatter := message.formatter.setBooleans booleans }

end Message

/-- Why a template cannot be read and formatted at once. -/
inductive MessageError where
  | parse (error : ParseError)
  | format (error : FormatError)
  deriving DecidableEq, Repr

/-- Read a template and format it in English with given arguments. -/
def formatMessage (template : String) (args : Args) : Except MessageError String :=
  match (Message.ofTemplate template : Except ParseError (Message Unit)) with
  | .error error => .error (.parse error)
  | .ok message =>
    match message.formatWith args with
    | .error error => .error (.format error)
    | .ok text => .ok text

end MessageTemplate
