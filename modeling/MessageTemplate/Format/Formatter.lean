import MessageTemplate.Format.Dates
import MessageTemplate.Kind.Registry
import MessageTemplate.Plural.Selector
import MessageTemplate.Text.Quoted

/-!
# Formatters

What formatting depends on beyond a template and its arguments: how plural categories are
selected, how dates are written, the registered kinds, whether truth values have a text and
how deeply choices may be nested. A formatter remembers the culture its selector comes from;
a selector of another origin leaves it without one.
-/

namespace MessageTemplate

/-- The configuration of formatting. -/
structure Formatter (π : Type) where
  selector? : Option PluralSelector
  /-- The culture whose plural rules the selector applies. -/
  culture? : Option String
  dates : DateLanguage
  /-- The locale that chose the language of dates. -/
  dateLocale : String
  kinds : KindRegistry π
  booleans : BooleanPolicy
  maxDepth : Nat

/-- What a formatter is to be built from; what is absent has its default. -/
structure FormatterOptions (π : Type) where
  culture? : Option String := none
  /-- A selector of its own makes the culture immaterial. -/
  selector? : Option PluralSelector := none
  dateLocale? : Option String := none
  kinds : KindRegistry π := .empty
  booleans : BooleanPolicy := .reject
  maxDepth : Nat := 64

/-- The culture and the date locale that hold unless others are given. -/
def defaultCulture : String := "en"

namespace Formatter

variable {π : Type}

/-- A formatter for English without registered kinds. -/
def standard : Formatter π where
  selector? := some Language.en.selector
  culture? := some defaultCulture
  dates := .english
  dateLocale := defaultCulture
  kinds := .empty
  booleans := .reject
  maxDepth := 64

/-- A formatter for English that selects no plural categories. -/
def bare : Formatter π := { standard with selector? := none, culture? := none }

/-- The selector of given options, and the culture it comes from. -/
def chooseSelector (options : FormatterOptions π) :
    Except ConfigError (PluralSelector × Option String) :=
  match options.selector? with
  | some selector => .ok (selector, none)
  | none =>
    let culture := options.culture?.getD defaultCulture
    (Language.ofCulture culture).map fun language => (language.selector, some culture)

/-- Build a formatter. A fault of the culture comes before one of the date locale. -/
def build (options : FormatterOptions π) : Except ConfigError (Formatter π) := do
  let (selector, culture?) ← chooseSelector options
  let dateLocale := options.dateLocale?.getD defaultCulture
  let dates ← DateLanguage.ofLocale dateLocale
  pure {
    selector? := some selector
    culture?
    dates
    dateLocale
    kinds := options.kinds
    booleans := options.booleans
    maxDepth := options.maxDepth }

/-- Select plural categories by the rules of a culture. -/
def setCulture (formatter : Formatter π) (culture : String) :
    Except ConfigError (Formatter π) :=
  (Language.ofCulture culture).map fun language =>
    { formatter with selector? := some language.selector, culture? := some culture }

/-- Select plural categories by a given selector. -/
def setSelector (formatter : Formatter π) (selector? : Option PluralSelector) :
    Except ConfigError (Formatter π) :=
  match selector? with
  | some selector => .ok { formatter with selector? := some selector, culture? := none }
  | none => .error .pluralFunctionRequired

/-- Write dates in the language of a locale. -/
def setDateLocale (formatter : Formatter π) (locale : String) :
    Except ConfigError (Formatter π) :=
  (DateLanguage.ofLocale locale).map fun dates =>
    { formatter with dates, dateLocale := locale }

/-- Decide whether truth values have a text. -/
def setBooleans (formatter : Formatter π) (booleans : BooleanPolicy) : Formatter π :=
  { formatter with booleans }

end Formatter

namespace KindRegistry

variable {π : Type}

/-- The registered names in the order of their code points. -/
def sortedNames (registry : KindRegistry π) : List String :=
  registry.names.mergeSort fun left right => left ≤ right

/-- A registry for inspection: its names. -/
def inspect (registry : KindRegistry π) : String :=
  "KindRegistry \x7b kinds: [" ++
    String.intercalate ", " (registry.sortedNames.map Quoted.encode) ++ "] \x7d"

end KindRegistry

/-- The name of a policy for inspection. -/
def BooleanPolicy.inspect : BooleanPolicy → String
  | reject => "Reject"
  | render => "Render"

namespace Formatter

variable {π : Type}

/-- A formatter for inspection, on one line. -/
def inspect (formatter : Formatter π) : String :=
  let culture := match formatter.culture? with
    | some culture => "Some(" ++ Quoted.encode culture ++ ")"
    | none => "None"
  "Formatter \x7b culture: " ++ culture ++
    ", has_selector: " ++ (if formatter.selector?.isSome then "true" else "false") ++
    ", date_locale: " ++ Quoted.encode formatter.dateLocale ++
    ", kinds: " ++ formatter.kinds.inspect ++
    ", booleans: " ++ formatter.booleans.inspect ++
    ", max_depth: " ++ toString formatter.maxDepth ++ " \x7d"

end Formatter

end MessageTemplate
