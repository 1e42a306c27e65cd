import MessageTemplate.Plural.LocaleId
import MessageTemplate.Plural.Rules
import MessageTemplate.Format.Error
import MessageTemplate.Suggestion

/-!
# Plural selectors

A selector names the choice for a number. Usually it applies the plural rules of a culture,
which is a locale identifier whose language is supported.
-/

namespace MessageTemplate

/-- Names the choice for a number. -/
abbrev PluralSelector := Number → PluralType → String

namespace Language

/-- The codes of the languages that have plural rules. -/
def codes : List String := all.map code

/-- The language of a culture. -/
def ofCulture (culture : String) : Except ConfigError Language :=
  match (LocaleId.language? culture).bind ofCode? with
  | some language => .ok language
  | none => .error (.unknownCulture culture (Suggestion.suggest culture codes))

/-- The name of a number's category in a language. -/
def categoryName (language : Language) (number : Number) (type : PluralType) : String :=
  ((PluralRules.of language type).category number).name

/-- The selector that applies the rules of a language. -/
def selector (language : Language) : PluralSelector := language.categoryName

end Language

end MessageTemplate
