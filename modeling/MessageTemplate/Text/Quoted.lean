import MessageTemplate.Text.Printable

/-!
# Quoted text

Text between double quotes, in which quotes, backslashes and characters that do not print
are escaped.
-/

namespace MessageTemplate.Quoted

/-- The lower-case hexadecimal digits of a character's code point. -/
def codePoint (character : Char) : String := String.ofList (Nat.toDigits 16 character.toNat)

/-- A character as it stands between the quotes. -/
def escape (character : Char) : String :=
  if character = '"' then "\\\""
  else if character = '\\' then "\\\\"
  else if character = '\n' then "\\n"
  else if character = '\r' then "\\r"
  else if character = '\t' then "\\t"
  else if character = Char.ofNat 0 then "\\0"
  else if CodePoints.isPrintable character then character.toString
  else "\\u\x7b" ++ codePoint character ++ "\x7d"

/-- A text between quotes. -/
def encode (text : String) : String :=
  "\"" ++ String.join (text.toList.map escape) ++ "\""

end MessageTemplate.Quoted
