/-!
# Faults of a template

Why a text is not a template, and the place where that shows. The texts are what a user
sees; the suggestions that may accompany an unknown kind are computed in
`MessageTemplate.Suggestion`.
-/

namespace MessageTemplate

/-- Why a text is not a template. -/
inductive ParseFault where
  /-- A brace has no partner, or something else stands where a closing brace belongs. -/
  | unbalancedBraces
  /-- An expression names no variable. -/
  | missingVarName
  /-- A character that no name holds stands in a name. -/
  | invalidFormat
  /-- An expression opens inside the head of another. -/
  | invalidExpr
  /-- No expression of this kind exists. -/
  | unknownType (name : String)
  /-- The kind is registered, but only for formatting. -/
  | undefinedParseFunc (name : String)
  /-- An expression that takes options has none. -/
  | malformedOption
  /-- A choice has no name. -/
  | missingChoiceName
  /-- A choice name has no body. -/
  | missingChoiceContent
  /-- There is no choice called `other`. -/
  | missingMandatoryChoice
  /-- Two choices have one name. -/
  | duplicateChoice (name : String)
  /-- An extension stands where none may. -/
  | unexpectedExtension
  /-- No extension has this name. -/
  | unsupportedExtension (name : String)
  /-- The offset has no value. -/
  | missingOffsetValue
  /-- The offset is negative. -/
  | invalidOffsetValue
  /-- The offset is not an integer. -/
  | badCast
  /-- No date width has this name. -/
  | invalidDateFormat
  /-- Expressions are nested beyond the limit. -/
  | maxDepthExceeded
  /-- A registered kind found a fault of its own. -/
  | custom (text : String)
  deriving DecidableEq, Repr

/-- The text of a fault: its name, and the name it is about. -/
def ParseFault.message : ParseFault → String
  | unbalancedBraces => "UnbalancedBraces"
  | missingVarName => "MissingVarName"
  | invalidFormat => "InvalidFormat"
  | invalidExpr => "InvalidExpr"
  | unknownType name => "UnknownType: `" ++ name ++ "`"
  | undefinedParseFunc name => "UndefinedParseFunc: `" ++ name ++ "`"
  | malformedOption => "MalformedOption"
  | missingChoiceName => "MissingChoiceName"
  | missingChoiceContent => "MissingChoiceContent"
  | missingMandatoryChoice => "MissingMandatoryChoice"
  | duplicateChoice name => "DuplicateChoice: `" ++ name ++ "`"
  | unexpectedExtension => "UnexpectedExtension"
  | unsupportedExtension name => "UnsupportedExtension: `" ++ name ++ "`"
  | missingOffsetValue => "MissingOffsetValue"
  | invalidOffsetValue => "InvalidOffsetValue"
  | badCast => "BadCast"
  | invalidDateFormat => "InvalidDateFormat"
  | maxDepthExceeded => "MaxDepthExceeded"
  | custom text => text

/-- A fault and the code point, counted from 0, where it shows. -/
structure ParseError where
  fault : ParseFault
  position : Nat
  deriving DecidableEq, Repr

/-- The text of a fault with its place. -/
def ParseError.message (error : ParseError) : String :=
  "ParseError: `" ++ error.fault.message ++ "` at " ++ toString error.position

end MessageTemplate
