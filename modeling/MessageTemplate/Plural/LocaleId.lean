/-!
# Locale identifiers

Decides which texts are locale identifiers and which language they name. An identifier is a
language, possibly a script, a region and variants, and then extensions, each of which starts
with a single letter or digit. Letter case is of no account.
-/

namespace MessageTemplate.LocaleId

/-- A part of an identifier between hyphens, in lower case. -/
abbrev Subtag := List Char

/-- Whether the length of a subtag lies in a closed range. -/
def hasLength (low high : Nat) (subtag : Subtag) : Bool :=
  low ≤ subtag.length && subtag.length ≤ high

/-- Two or three letters, or five to eight. -/
def isLanguage (subtag : Subtag) : Bool :=
  subtag.all Char.isAlpha && (hasLength 2 3 subtag || hasLength 5 8 subtag)

/-- Four letters. -/
def isScript (subtag : Subtag) : Bool := subtag.length = 4 && subtag.all Char.isAlpha

/-- Two letters or three digits. -/
def isRegion (subtag : Subtag) : Bool :=
  (subtag.length = 2 && subtag.all Char.isAlpha) || (subtag.length = 3 && subtag.all Char.isDigit)

/-- Five to eight letters and digits, or a digit and three letters and digits. -/
def isVariant (subtag : Subtag) : Bool :=
  subtag.all Char.isAlphanum &&
    (hasLength 5 8 subtag || (subtag.length = 4 && (subtag.head?.any Char.isDigit)))

/-- Three to eight letters and digits: an attribute or a value in an extension. -/
def isExtensionValue (subtag : Subtag) : Bool := hasLength 3 8 subtag && subtag.all Char.isAlphanum

/-- The subtags after one that may stand first. -/
def dropOptional (condition : Subtag → Bool) : List Subtag → List Subtag
  | [] => []
  | subtag :: subtags => if condition subtag then subtags else subtag :: subtags

/-- The subtags after the variants in front; absent if a variant is repeated. -/
def dropVariants? (seen : List Subtag) : List Subtag → Option (List Subtag)
  | [] => some []
  | subtag :: subtags =>
    if !isVariant subtag then some (subtag :: subtags)
    else if seen.contains subtag then none
    else dropVariants? (subtag :: seen) subtags

/-- The subtags after the script, the region and the variants that may follow a language. -/
def dropLanguageDetails? (subtags : List Subtag) : Option (List Subtag) :=
  dropVariants? [] (dropOptional isRegion (dropOptional isScript subtags))

/-- A letter or digit and a letter. -/
def isUnicodeKey : Subtag → Bool
  | [first, second] => first.isAlphanum && second.isAlpha
  | _ => false

/-- A letter and a digit. -/
def isTransformKey : Subtag → Bool
  | [first, second] => first.isAlpha && second.isDigit
  | _ => false

/-- Whether keys, each with at least one value, make up a transform extension; `unfinished`
says that the key before has no value yet. -/
def areTransformFields (unfinished : Bool) : List Subtag → Bool
  | [] => !unfinished
  | subtag :: subtags =>
    if isTransformKey subtag then !unfinished && areTransformFields true subtags
    else isExtensionValue subtag && areTransformFields false subtags

/-- A transform extension: a language of two or three letters, or fields, or both. -/
def isTransform (subtags : List Subtag) : Bool :=
  match subtags with
  | [] => false
  | first :: rest =>
    if isLanguage first && hasLength 2 3 first then
      match dropLanguageDetails? rest with
      | some [] => true
      | some (key :: fields) => isTransformKey key && areTransformFields false (key :: fields)
      | none => false
    else isTransformKey first && areTransformFields false subtags

/-- The bytes that a subtag takes in UTF-8. -/
def byteLength (subtag : Subtag) : Nat := (subtag.map Char.utf8Size).foldr (· + ·) 0

/-- Two to eight bytes: a subtag that any extension but those of `u`, `t` and `x` may hold. -/
def isOpaque (subtag : Subtag) : Bool := 2 ≤ byteLength subtag && byteLength subtag ≤ 8

/-- An extension without a grammar of its own: opaque subtags, one of which at least consists
of letters and digits. -/
def isOpaqueBody (subtags : List Subtag) : Bool :=
  subtags.all isOpaque && subtags.any fun subtag => subtag.all Char.isAlphanum

/-- Whether subtags can follow the letter or digit of an extension. -/
def isExtensionBody (letter : Char) (subtags : List Subtag) : Bool :=
  if letter = 'u' then
    !subtags.isEmpty && subtags.all fun subtag => isUnicodeKey subtag || isExtensionValue subtag
  else if letter = 't' then isTransform subtags
  else isOpaqueBody subtags

/-- Whether subtags are private: everything after an `x`. -/
def isPrivateBody (subtags : List Subtag) : Bool :=
  !subtags.isEmpty && subtags.all fun subtag => hasLength 1 8 subtag && subtag.all Char.isAlphanum

/-- Whether a subtag ends the extension before it: a single byte. -/
def isSingle (subtag : Subtag) : Bool := byteLength subtag = 1

/-- Whether subtags are extensions whose letters and digits differ from each other and from
`seen`. -/
def areExtensions (seen : List Char) : List Subtag → Bool
  | [] => true
  | [letter] :: subtags =>
    letter.isAlphanum && !seen.contains letter &&
      if letter = 'x' then isPrivateBody subtags
      else
        isExtensionBody letter (subtags.takeWhile fun subtag => !isSingle subtag) &&
          areExtensions (letter :: seen) (subtags.dropWhile fun subtag => !isSingle subtag)
  | _ => false
termination_by subtags => subtags.length
decreasing_by
  have := (List.dropWhile_suffix (fun subtag => !isSingle subtag) (l := subtags)).length_le
  simp only [List.length_cons]
  omega

/-- The parts of a text between the hyphens. -/
def subtags (part : List Char) : List Char → List Subtag
  | [] => [part.reverse]
  | '-' :: rest => part.reverse :: subtags [] rest
  | character :: rest => subtags (character :: part) rest

/-- The language that an identifier names, in lower case. -/
def language? (id : String) : Option String :=
  match subtags [] (id.toList.map Char.toLower) with
  | [] => none
  | language :: rest =>
    if !isLanguage language then none
    else
      match dropLanguageDetails? rest with
      | some extensions =>
        if areExtensions [] extensions then some (String.ofList language) else none
      | none => none

end MessageTemplate.LocaleId
