import MessageTemplate.Text.Emoji
import MessageTemplate.Text.Letters
import MessageTemplate.Text.Width

/-!
# Display width

How many cells of a terminal a text takes. The cells of a character depend on what stands
behind it: a selector changes its style, and a letter or a picture may be drawn together with
it. So a text is measured from its end, and of the part that is measured only what matters for
the character in front of it is kept.
-/

namespace MessageTemplate

/-- Letters that may be drawn in the cells of a letter in front of them. -/
inductive SharingLetter where
  | lamed
  | ya
  /-- A ya with the vowel sign that may stand between it and an a. -/
  | vowelYa
  | tifinagh
  /-- A Tifinagh consonant with the joiner of its script in front of it. -/
  | joinerTifinagh
  | lisuTone
  | orkhonI
  | khmer
  deriving DecidableEq, Repr

/-- How a text opens, as far as it can change the cells of a character in front of it. -/
inductive Opening where
  | plain
  | lineFeed
  /-- An emoji that a joiner can join. -/
  | picture
  | skinTone
  | flagLetter
  /-- More than one flag letter. -/
  | flagLetters
  /-- A joiner and a picture. -/
  | joinedPicture
  /-- A keycap, a joiner and a picture. -/
  | joinedKeycap
  /-- A flag letter before a joiner. -/
  | joinedFlagLetter
  /-- An even number of flag letters before a joiner. -/
  | joinedFlags
  /-- An odd number of flag letters, more than one, before a joiner. -/
  | joinedFlagLetters
  /-- The end of a flag's tag before a joiner. -/
  | tagEnd
  /-- Digits and the end of a tag. -/
  | tagDigits (count : Nat)
  /-- Letters and the end of a tag. -/
  | tagLetters (count : Nat)
  | alef
  /-- A letter that may share cells, possibly with a joiner in front of it. -/
  | letter (kind : SharingLetter) (joined : Bool)
  | kiratE
  | kiratAi
  deriving DecidableEq, Repr

namespace Opening

/-- How a text opens that starts with a character. -/
def ofCharacter (character : Char) : Opening :=
  if Emoji.flagLetters.contains character then .flagLetter
  else if Emoji.skinTones.contains character then .skinTone
  else if Emoji.pictures.contains character then .picture
  else if Letters.alefs.contains character then .alef
  else if Letters.khmerSubscripts.contains character then .letter .khmer false
  else if Letters.tifinaghConsonants.contains character then .letter .tifinagh false
  else if Letters.lisuSecondTones.contains character then .letter .lisuTone false
  else if character = '\u05dc' then .letter .lamed false
  else if character = '\u1a10' then .letter .ya false
  else if character = Char.ofNat 0x10c03 then .letter .orkhonI false
  else if character = Char.ofNat 0x16d67 then .kiratE
  else if character = Char.ofNat 0x16d68 then .kiratAi
  else .plain

/-- Whether a text opens with a letter that may share cells. -/
def isLetter : Opening → Bool
  | alef | letter _ _ => true
  | _ => false

/-- Whether a picture in front belongs to the picture that is joined. -/
def awaitsPicture : Opening → Bool
  | joinedPicture | joinedKeycap => true
  | _ => false

/-- A joiner before a picture. -/
def join? (character : Char) : Option (Int × Opening) :=
  if character = Emoji.joiner then some (0, .joinedPicture) else none

/-- Flag letters and a skin tone, a keycap, a tag or a picture before a joiner. -/
def joinPicture? (character : Char) : Option (Int × Opening) :=
  if character = Emoji.keycap then some (0, .joinedKeycap)
  else if character = Emoji.tagEnd then some (0, .tagEnd)
  else
    match ofCharacter character with
    | .flagLetter => some (1, .joinedFlagLetter)
    | .skinTone => some (0, .skinTone)
    | .picture => some (0, .picture)
    | _ => none

/-- The flag in front of its tag; a tag has three digits, or three letters or more. -/
def flag? (finished : Bool) (character : Char) : Option (Int × Opening) :=
  if finished && character = Emoji.taggedFlag then some (0, .picture) else none

/-- The letters of the tag of a flag, after `count` others: up to six. -/
def tagLetter? (count : Nat) (character : Char) : Option (Int × Opening) :=
  if count < 6 && Emoji.tagLetters.contains character then some (0, .tagLetters (count + 1))
  else none

/-- The digits of the tag of a flag, after `count` others: up to three. -/
def tagDigit? (count : Nat) (character : Char) : Option (Int × Opening) :=
  if count < 3 && Emoji.tagDigits.contains character then some (0, .tagDigits (count + 1))
  else none

/-- An opening on a condition. -/
def onlyIf (condition : Bool) (cells : Int) (opening : Opening) : Option (Int × Opening) :=
  if condition then some (cells, opening) else none

/-- What a letter in front of a letter adds to its cells if the two share them. -/
def shareLetter? (kind : SharingLetter) (joined : Bool) (character : Char) :
    Option (Int × Opening) :=
  let isConsonant := Letters.tifinaghConsonants.contains character
  match kind with
  | .lamed => onlyIf (joined && character = '\u05d0') 0 .plain
  | .ya => onlyIf (joined && character = '\u1a17') 0 (.letter .vowelYa true)
  | .vowelYa => onlyIf (character = '\u1a15') 0 .plain
  | .tifinagh =>
    (onlyIf (character = '\u2d7f') 1 (.letter .joinerTifinagh true)).or
      (onlyIf (joined && isConsonant) 0 .plain)
  | .joinerTifinagh => onlyIf isConsonant (-1) .plain
  | .lisuTone => onlyIf (Letters.lisuFirstTones.contains character) 0 .plain
  | .orkhonI => onlyIf (joined && character = Char.ofNat 0x10c32) 0 .plain
  | .khmer => onlyIf (character = '\u17d2') (-1) .plain

/-- What a character adds to the cells of the text behind it, and how the text opens with it,
if the two are drawn together. -/
def share? (opening : Opening) (character : Char) : Option (Int × Opening) :=
  let isFlagLetter := Emoji.flagLetters.contains character
  match opening with
  | plain | lineFeed | joinedKeycap => none
  | picture => join? character
  | skinTone => (onlyIf (Emoji.toned.contains character) 0 .picture).or (join? character)
  | flagLetter => onlyIf isFlagLetter 1 .flagLetters
  | flagLetters => (onlyIf isFlagLetter 1 .flagLetters).or (join? character)
  | joinedPicture => joinPicture? character
  | joinedFlagLetter => onlyIf isFlagLetter (-1) .joinedFlags
  | joinedFlags => (onlyIf isFlagLetter 3 .joinedFlagLetters).or (join? character)
  | joinedFlagLetters => (onlyIf isFlagLetter (-1) .joinedFlags).or (join? character)
  | tagEnd => (tagLetter? 0 character).or (tagDigit? 0 character)
  | tagLetters count =>
    ((tagLetter? count character).or
      (if count ≤ 4 then tagDigit? 0 character else none)).or (flag? (3 ≤ count) character)
  | tagDigits count => (tagDigit? count character).or (flag? (count = 3) character)
  | alef =>
    if Letters.lams.contains character then some (0, .plain)
    else onlyIf (CodePoints.width character = 0 && !Letters.parting.contains character) 0 .alef
  | letter kind joined => shareLetter? kind joined character
  | kiratE =>
    ((onlyIf (character = Char.ofNat 0x16d63 || character = Char.ofNat 0x16d69) 0 .plain).or
      (onlyIf (character = Char.ofNat 0x16d67) 0 .kiratAi)).or
        (onlyIf (character = Char.ofNat 0x16d68) 1 .kiratE)
  | kiratAi => onlyIf (character = Char.ofNat 0x16d63) 0 .plain

end Opening

/-- The text behind a character: how it opens, and which selectors stand in front of it. -/
structure Following where
  opening : Opening := .plain
  /-- The emoji style of the character in front is asked for. -/
  emojiStyle : Bool := false
  /-- The text style of the character in front is asked for. -/
  textStyle : Bool := false
  /-- Two cells are asked for if a quotation mark stands in front. -/
  spread : Bool := false
  deriving DecidableEq, Repr

namespace Following

/-- A text without selectors in front of it. -/
def bare (opening : Opening) : Following := { opening := opening }

/-- What is left of a text once a selector was in vain: letters behind it can still share. -/
def unanswered (following : Following) : Following :=
  if following.opening.isLetter then following else bare .plain

/-- Ask for the emoji style. -/
def askEmoji (following : Following) : Following :=
  if following.opening.isLetter || following.opening.awaitsPicture then
    { following with emojiStyle := true }
  else { emojiStyle := true }

/-- Ask for the text style. -/
def askText (following : Following) : Following := { following.unanswered with textStyle := true }

/-- Ask for two cells. -/
def askSpread (following : Following) : Following := { following.unanswered with spread := true }

/-- Put a character in front of a text that asks for nothing and may share cells with it. -/
def prependSharing (opening : Opening) (character : Char) : Int × Following :=
  match opening.share? character with
  | some (cells, opening) => (cells, bare opening)
  | none => (CodePoints.width character, bare (.ofCharacter character))

/-- Put a character in front of a text that asks for nothing; characters that are not drawn
do not part letters. -/
def prependBare (opening : Opening) (character : Char) : Int × Following :=
  match opening with
  | .letter kind joined =>
    if character = Emoji.joiner then (0, bare (.letter kind true))
    else if Letters.transparent.contains character then (0, bare (.letter kind joined))
    else prependSharing opening character
  | _ => prependSharing opening character

/-- Put a character in front that takes no style. -/
def prependUnstyled (following : Following) (character : Char) : Int × Following :=
  if following.spread then
    if Letters.spreadQuotes.contains character then (2, bare .plain)
    else prependBare following.unanswered.opening character
  else prependBare following.opening character

/-- Put a character in front that is no selector and does not take the emoji style. -/
def prependText (following : Following) (character : Char) : Int × Following :=
  if following.textStyle then
    if Emoji.hasNarrowText character then (1, bare .plain)
    else following.unanswered.prependUnstyled character
  else following.prependUnstyled character

/-- Put a character in front that does not take the emoji style. -/
def prependPlain (following : Following) (character : Char) : Int × Following :=
  if character.toNat ≤ 0xa0 then
    if character = '\n' then (1, bare .lineFeed)
    else if character = '\r' ∧ following.opening = .lineFeed then (0, bare .plain)
    else (1, bare .plain)
  else if character = Emoji.emojiSelector then (0, following.askEmoji)
  else if character = Emoji.textSelector then (0, following.askText)
  else if character = Letters.spreadSelector then (0, following.askSpread)
  else following.prependText character

/-- Put a character in front of a text: the cells that it adds, and the text with it. -/
def prepend (following : Following) (character : Char) : Int × Following :=
  if following.emojiStyle then
    if Emoji.twoStyled.contains character then
      (if following.opening.awaitsPicture then 0 else 2, bare .picture)
    else prependPlain { following.unanswered with emojiStyle := false } character
  else following.prependPlain character

end Following

/-- The cells that a text takes. -/
def displayWidth (text : String) : Nat :=
  let prepend (character : Char) (measured : Int × Following) : Int × Following :=
    let (cells, following) := measured.2.prepend character
    (measured.1 + cells, following)
  (text.toList.foldr prepend (0, .bare .plain)).1.toNat

end MessageTemplate
