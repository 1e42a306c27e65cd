import MessageTemplate.Format.Error
import MessageTemplate.Template.Tree
import MessageTemplate.Value.Calendar

/-!
# Dates in words

Writes the day of a timestamp in English or in German, in one of four widths.
-/

namespace MessageTemplate

/-- The languages in which dates are written. -/
inductive DateLanguage where
  | english
  | german
  deriving DecidableEq, Repr

namespace DateLanguage

/-- The languages with their codes. -/
def all : List (String × DateLanguage) := [("en", english), ("de", german)]

/-- The codes of the languages. -/
def codes : List String := all.map Prod.fst

/-- The language of a date locale: what stands before the first `-` or `_`, in either case. -/
def ofLocale (locale : String) : Except ConfigError DateLanguage :=
  let code := locale.toList.takeWhile fun character => character ≠ '-' && character ≠ '_'
  match all.lookup (String.ofList (code.map Char.toLower)) with
  | some language => .ok language
  | none => .error (.unknownDateLocale locale)

/-- The months of the year. -/
def months : DateLanguage → List String
  | english => ["January", "February", "March", "April", "May", "June", "July", "August",
      "September", "October", "November", "December"]
  | german => ["Januar", "Februar", "März", "April", "Mai", "Juni", "Juli", "August",
      "September", "Oktober", "November", "Dezember"]

/-- The days of the week from Monday on. -/
def weekdays : DateLanguage → List String
  | english => ["Monday", "Tuesday", "Wednesday", "Thursday", "Friday", "Saturday", "Sunday"]
  | german => ["Montag", "Dienstag", "Mittwoch", "Donnerstag", "Freitag", "Samstag", "Sonntag"]

/-- The month of a day. -/
def monthName (language : DateLanguage) (date : Date) : String :=
  language.months.getD (date.month - 1) ""

/-- The weekday of a day. -/
def weekdayName (language : DateLanguage) (date : Date) : String :=
  language.weekdays.getD date.weekday ""

/-- A day in a width. -/
def format (language : DateLanguage) (date : Date) (width : DateWidth) : String :=
  let day := toString date.day
  let month := toString date.month
  let year := toString date.year
  let monthName := language.monthName date
  let weekdayName := language.weekdayName date
  match language, width with
  | english, .short => month ++ "/" ++ day ++ "/" ++ year
  | english, .medium => monthName ++ " " ++ day ++ ", " ++ year
  | english, .long => weekdayName ++ " " ++ monthName ++ " " ++ day ++ ", " ++ year
  | english, .full => weekdayName ++ ", " ++ monthName ++ " " ++ day ++ ", " ++ year
  | german, .short => day ++ "." ++ month ++ "." ++ year
  | german, .medium => day ++ ". " ++ monthName ++ " " ++ year
  | german, .long => weekdayName ++ " " ++ day ++ ". " ++ monthName ++ " " ++ year
  | german, .full => weekdayName ++ ", " ++ day ++ ". " ++ monthName ++ " " ++ year

end DateLanguage

end MessageTemplate
