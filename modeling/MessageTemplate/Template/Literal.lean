import MessageTemplate.Template.Character
import MessageTemplate.Template.Tree

/-!
# Literal text

Splits a run of template text into parts. An unescaped `#` is a part of its own; a run of
backslashes in front of a structural character escapes it. Backslashes that start a segment
are dropped; after other text a single one is dropped and a longer run is kept. A backslash
in front of any other character is ordinary text.
-/

namespace MessageTemplate.Literal

/-- Put text in front of parts; text joins a text part, and empty text changes nothing. -/
def prepend (text : List Char) (parts : List LiteralPart) : List LiteralPart :=
  if text.isEmpty then parts
  else match parts with
    | .text following :: others => .text (String.ofList text ++ following) :: others
    | parts => .text (String.ofList text) :: parts

/-- The text of a segment, last character first, whose last `escapes` characters are the
backslashes that escape the character after it. -/
def closeSegment (segment : List Char) (escapes : Nat) : List Char :=
  if segment.length ≤ escapes then []
  else if escapes = 1 then segment.tail.reverse
  else segment.reverse

/-- The parts of the pending `segment`, last character first, and of the characters after it.
The last `escapes` characters of the segment are backslashes. An escaped character opens the
next segment. -/
def partsFrom (segment : List Char) (escapes : Nat) : List Char → List LiteralPart
  | [] => prepend segment.reverse []
  | character :: rest =>
    if character = '\\' then partsFrom (character :: segment) (escapes + 1) rest
    else if !isStructural character then partsFrom (character :: segment) 0 rest
    else if escapes = 0 then prepend segment.reverse (.pound :: partsFrom [] 0 rest)
    else prepend (closeSegment segment escapes) (partsFrom [character] 0 rest)

/-- The parts of a run of template text. -/
def parts (run : List Char) : List LiteralPart := partsFrom [] 0 run

/-- A run of template text as constituents: none if it has no parts. -/
def nodes {π : Type} (run : List Char) : Tree π :=
  match parts run with
  | [] => []
  | parts => [.literal parts]

end MessageTemplate.Literal
