import MessageTemplate.Json.Number

/-!
# Lexemes of JSON documents

Splits a document into marks, strings, numbers and words. A string may hold every character
but control characters; an escape that names half of a pair of code units must be followed by
an escape that names the other half.
-/

namespace MessageTemplate.Json

/-- The smallest pieces of a document. -/
inductive Lexeme where
  | openObject
  | closeObject
  | openArray
  | closeArray
  | comma
  | colon
  | string (text : String)
  | number (value : Number)
  | word (text : String)

namespace Lexeme

/-- The value of a hexadecimal digit of either case. -/
def hexValue? (digit : Char) : Option Nat :=
  if digit.isDigit then some (digit.toNat - '0'.toNat)
  else if 'a' ≤ digit ∧ digit ≤ 'f' then some (digit.toNat - 'a'.toNat + 10)
  else if 'A' ≤ digit ∧ digit ≤ 'F' then some (digit.toNat - 'A'.toNat + 10)
  else none

/-- The code unit that four hexadecimal digits name. -/
def codeUnit? (first second third fourth : Char) : Option Nat := do
  let first ← hexValue? first
  let second ← hexValue? second
  let third ← hexValue? third
  let fourth ← hexValue? fourth
  pure (first * 4096 + second * 256 + third * 16 + fourth)

/-- The character that a one-letter escape names. -/
def shortEscape? : Char → Option Char
  | '"' => some '"'
  | '\\' => some '\\'
  | '/' => some '/'
  | 'b' => some (Char.ofNat 8)
  | 'f' => some (Char.ofNat 12)
  | 'n' => some '\n'
  | 'r' => some '\r'
  | 't' => some '\t'
  | _ => none

/-- Read the rest of a string after `text`, last character first, up to its closing quote. -/
def stringFrom (text : List Char) : List Char → Option (String × List Char)
  | [] => none
  | '"' :: rest => some (String.ofList text.reverse, rest)
  | '\\' :: 'u' :: a :: b :: c :: d :: rest =>
    match codeUnit? a b c d with
    | none => none
    | some unit =>
      if 0xdc00 ≤ unit && unit ≤ 0xdfff then none
      else if 0xd800 ≤ unit && unit ≤ 0xdbff then
        match rest with
        | '\\' :: 'u' :: e :: f :: g :: h :: rest =>
          match codeUnit? e f g h with
          | none => none
          | some low =>
            if 0xdc00 ≤ low && low ≤ 0xdfff then
              let code := 0x10000 + (unit - 0xd800) * 0x400 + (low - 0xdc00)
              stringFrom (Char.ofNat code :: text) rest
            else none
        | _ => none
      else stringFrom (Char.ofNat unit :: text) rest
  | '\\' :: escape :: rest =>
    match shortEscape? escape with
    | none => none
    | some character => stringFrom (character :: text) rest
  | character :: rest =>
    if character.toNat < 0x20 || character = '\\' then none
    else stringFrom (character :: text) rest

theorem stringFrom_rest_length {text characters rest : List Char} {result : String}
    (found : stringFrom text characters = some (result, rest)) :
    rest.length < characters.length := by
  fun_induction stringFrom text characters <;> simp_all <;> omega

/-- Whether a character can stand in a number. -/
def isNumeric (character : Char) : Bool :=
  character.isDigit || character = '-' || character = '+' || character = '.' ||
    character = 'e' || character = 'E'

/-- The lexeme of a character that stands for itself. -/
def mark? : Char → Option Lexeme
  | '\x7b' => some openObject
  | '\x7d' => some closeObject
  | '[' => some openArray
  | ']' => some closeArray
  | ',' => some comma
  | ':' => some colon
  | _ => none

/-- Whether a character may stand between lexemes. -/
def isSpace (character : Char) : Bool :=
  character = ' ' || character = '\t' || character = '\r' || character = '\n'

/-- The lexemes of a text. -/
def ofText? : List Char → Option (List Lexeme)
  | [] => some []
  | character :: rest =>
    if isSpace character then ofText? rest
    else if character = '"' then
      match _found : stringFrom [] rest with
      | none => none
      | some (text, rest) => (ofText? rest).map (string text :: ·)
    else if character = '-' || character.isDigit then
      match number? (character :: rest.takeWhile isNumeric) with
      | none => none
      | some value => (ofText? (rest.dropWhile isNumeric)).map (number value :: ·)
    else if character.isAlpha then
      (ofText? (rest.dropWhile Char.isAlpha)).map
        (word (String.ofList (character :: rest.takeWhile Char.isAlpha)) :: ·)
    else
      match mark? character with
      | none => none
      | some mark => (ofText? rest).map (mark :: ·)
termination_by characters => characters.length
decreasing_by
  · simp
  · have := stringFrom_rest_length _found
    simp only [List.length_cons]
    omega
  · have := (List.dropWhile_suffix isNumeric (l := rest)).length_le
    simp only [List.length_cons]
    omega
  · have := (List.dropWhile_suffix Char.isAlpha (l := rest)).length_le
    simp only [List.length_cons]
    omega
  · simp

end Lexeme

end MessageTemplate.Json
