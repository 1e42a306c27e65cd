/-!
# Faults of formatting and configuration

Why a template cannot be formatted with given arguments, and why a formatter cannot be
configured as asked.
-/

namespace MessageTemplate

/-- What an expression needs its argument to be. -/
inductive ArgumentKind where
  | string
  | number
  | datetime
  deriving DecidableEq, Repr

/-- The word for what an expression needs. -/
def ArgumentKind.name : ArgumentKind → String
  | string => "string"
  | number => "number"
  | datetime => "datetime"

/-- Why a template cannot be formatted. -/
inductive FormatError where
  /-- An argument is of another type than its expression needs. -/
  | invalidArgType (expected : ArgumentKind) (actual : String)
  /-- A choice depends on a plural category and nothing selects one. -/
  | undefinedPluralFunc
  /-- No expression of this kind is registered. -/
  | unknownType (name : String)
  /-- The kind is registered, but only for parsing. -/
  | undefinedFormatFunc (name : String)
  /-- Choices are nested beyond the limit. -/
  | maxDepthExceeded
  /-- A registered kind found a fault of its own. -/
  | custom (text : String)
  deriving DecidableEq, Repr

/-- The text of a formatting fault. -/
def FormatError.message : FormatError → String
  | invalidArgType expected actual =>
    "InvalidArgType: expected " ++ expected.name ++ ", got " ++ actual
  | undefinedPluralFunc => "UndefinedPluralFunc"
  | unknownType name => "UnknownType: `" ++ name ++ "`"
  | undefinedFormatFunc name => "UndefinedFormatFunc: `" ++ name ++ "`"
  | maxDepthExceeded => "maximum nesting depth exceeded"
  | custom text => text

/-- Why a formatter or a registry cannot be configured as asked. -/
inductive ConfigError where
  /-- The kind is built in or registered already. -/
  | parserAlreadyRegistered (name : String)
  /-- A plural function may be replaced, not removed. -/
  | pluralFunctionRequired
  /-- No plural rules exist for this locale. -/
  | unknownCulture (name : String) (suggestions : List String)
  /-- No dates are written in this locale. -/
  | unknownDateLocale (name : String)
  deriving DecidableEq, Repr

/-- The text of a configuration fault, with the suggestions if there are any. -/
def ConfigError.message : ConfigError → String
  | parserAlreadyRegistered name => "ParserAlreadyRegistered: `" ++ name ++ "`"
  | pluralFunctionRequired => "PluralFunctionRequired"
  | unknownCulture name suggestions =>
    "unknown culture '" ++ name ++ "'" ++
      if suggestions.isEmpty then "" else
        "; did you mean: " ++ String.intercalate ", " suggestions ++ "?"
  | unknownDateLocale name => "unknown date locale '" ++ name ++ "'"

end MessageTemplate
