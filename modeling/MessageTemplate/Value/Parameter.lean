import MessageTemplate.Value.Basic

/-!
# Parameters

Gives a type to a value that is written as plain text: integers, finite doubles, truth
values, days and points in time. Every other text stays text.
-/

namespace MessageTemplate

namespace Parameter

/-- Whether a character is white space in any script. -/
def isWhiteSpace (character : Char) : Bool :=
  let code := character.toNat
  (9 ≤ code && code ≤ 13) || code = 0x20 || code = 0x85 || code = 0xa0 || code = 0x1680 ||
    (0x2000 ≤ code && code ≤ 0x200a) || code = 0x2028 || code = 0x2029 || code = 0x202f ||
    code = 0x205f || code = 0x3000

/-- Read one to `most` digits and keep what follows them. -/
def digits? (most : Nat) (text : List Char) : Option (Nat × List Char) :=
  let digits := (text.take most).takeWhile Char.isDigit
  if digits.isEmpty then none
  else some (Decimal.digitsValue digits, text.drop digits.length)

/-- Read a number of one or two digits after white space. -/
def field? (text : List Char) : Option (Nat × List Char) :=
  digits? 2 (text.dropWhile isWhiteSpace)

/-- Read a year after white space: up to four digits, or a sign and any number of digits. -/
def year? (text : List Char) : Option (Int × List Char) :=
  match text.dropWhile isWhiteSpace with
  | '-' :: rest => (digits? rest.length rest).map fun (year, rest) => (-(year : Int), rest)
  | '+' :: rest => (digits? rest.length rest).map fun (year, rest) => ((year : Int), rest)
  | rest => (digits? 4 rest).map fun (year, rest) => ((year : Int), rest)

/-- Read one given character. -/
def mark? (mark : Char) : List Char → Option (List Char)
  | [] => none
  | character :: rest => if character = mark then some rest else none

/-- The first and the last year of the calendar. -/
def yearRange : Int × Int := (-262143, 262142)

/-- Read a day: year, month and day with hyphens between them. -/
def date? (text : List Char) : Option (Date × List Char) := do
  let (year, rest) ← year? text
  let rest ← mark? '-' rest
  let (month, rest) ← field? rest
  let rest ← mark? '-' rest
  let (day, rest) ← field? rest
  if year < yearRange.1 ∨ yearRange.2 < year then none
  else
    let date ← Date.ofParts? year month day
    pure (date, rest)

/-- Read a time: hour, minute and second with colons between them; second 60 is a leap
second. -/
def time? (text : List Char) : Option (Time × List Char) := do
  let (hour, rest) ← field? text
  let rest ← mark? ':' rest
  let (minute, rest) ← field? rest
  let rest ← mark? ':' rest
  let (second, rest) ← field? rest
  let time ←
    if second = 60 then Time.ofParts? hour minute 59 1000000000
    else Time.ofParts? hour minute second 0
  pure (time, rest)

/-- The start of the day, or the point in time, that a whole text denotes. -/
def timestamp? (text : List Char) : Option Timestamp := do
  let (date, rest) ← date? text
  match rest with
  | [] => pure (.ofDate date)
  | _ => do
    let rest ← mark? 'T' rest
    let (time, rest) ← time? rest
    if rest.isEmpty then pure ⟨date, time⟩ else none

/-- The finite number that a text denotes. -/
def number? (text : String) : Option Number :=
  (Number.ofText? text).filter fun number => number.toFloat.isFinite

end Parameter

/-- The value that a parameter's text denotes. -/
def Value.ofParameter (text : String) : Value :=
  match Parameter.number? text with
  | some amount => .number amount
  | none =>
    if text = "true" then .bool true
    else if text = "false" then .bool false
    else
      match Parameter.timestamp? text.toList with
      | some timestamp => .datetime timestamp
      | none => .string text

end MessageTemplate
