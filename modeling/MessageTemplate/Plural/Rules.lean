import MessageTemplate.Plural.Operands

/-!
# Plural rules

The categories of numbers in the supported languages, for amounts and for ranks. The rules
are those of the common locale data; the first condition that holds decides.
-/

namespace MessageTemplate

/-- A plural category. -/
inductive PluralCategory where
  | zero
  | one
  | two
  | few
  | many
  | other
  deriving DecidableEq, Repr

/-- The name of a category, which is the name of the choice it selects. -/
def PluralCategory.name : PluralCategory → String
  | zero => "zero"
  | one => "one"
  | two => "two"
  | few => "few"
  | many => "many"
  | other => "other"

/-- What a number counts as. -/
inductive PluralType where
  /-- An amount: three files. -/
  | cardinal
  /-- A rank: the third file. -/
  | ordinal
  deriving DecidableEq, Repr

/-- The languages that have plural rules, by their codes. -/
inductive Language where
  | ar | bn | de | el | en | es | fa | fr | he | hi | id | it
  | ja | ko | nl | pl | pt | ro | ru | th | tr | uk | vi | zh
  deriving DecidableEq, Repr

namespace Language

/-- The languages in the order of their codes. -/
def all : List Language :=
  [ar, bn, de, el, en, es, fa, fr, he, hi, id, it,
    ja, ko, nl, pl, pt, ro, ru, th, tr, uk, vi, zh]

/-- The code of a language. -/
def code : Language → String
  | ar => "ar"
  | bn => "bn"
  | de => "de"
  | el => "el"
  | en => "en"
  | es => "es"
  | fa => "fa"
  | fr => "fr"
  | he => "he"
  | hi => "hi"
  | id => "id"
  | it => "it"
  | ja => "ja"
  | ko => "ko"
  | nl => "nl"
  | pl => "pl"
  | pt => "pt"
  | ro => "ro"
  | ru => "ru"
  | th => "th"
  | tr => "tr"
  | uk => "uk"
  | vi => "vi"
  | zh => "zh"

/-- The language of a code. -/
def ofCode? (code : String) : Option Language := all.find? fun language => language.code = code

end Language

namespace PluralOperands

/-- A condition on the integer part. -/
def integerIs (operands : PluralOperands) (condition : Nat → Bool) : Bool :=
  condition operands.integer

/-- A condition on the number itself, which only a whole number meets. -/
def valueIs (operands : PluralOperands) (condition : Nat → Bool) : Bool :=
  operands.isWhole && condition operands.integer

/-- Whether no digit stands after the point. -/
def noPlaces (operands : PluralOperands) : Bool := operands.places = 0

/-- One, with nothing after the point. -/
def isPlainOne (operands : PluralOperands) : Bool := operands.integer = 1 && operands.noPlaces

/-- A multiple of a million other than zero, with nothing after the point. -/
def isMillions (operands : PluralOperands) : Bool :=
  operands.integer ≠ 0 && operands.integer % 1000000 = 0 && operands.noPlaces

end PluralOperands

/-- Whether a number lies in a closed range. -/
def isBetween (low high value : Nat) : Bool := low ≤ value && value ≤ high

/-- Rules for one language and one type. -/
abbrev PluralRules := PluralOperands → PluralCategory

namespace PluralRules

/-- The category whose condition is the first to hold. -/
def firstOf : List (PluralCategory × Bool) → PluralCategory
  | [] => .other
  | (category, holds) :: others => if holds then category else firstOf others

/-- Amounts in Russian and Ukrainian. -/
def eastSlavic (operands : PluralOperands) : PluralCategory :=
  let last := operands.integer % 10
  let lastTwo := operands.integer % 100
  if !operands.noPlaces then .other
  else if last = 1 && lastTwo ≠ 11 then .one
  else if isBetween 2 4 last && !isBetween 12 14 lastTwo then .few
  else .many

/-- Amounts in Polish. -/
def polish (operands : PluralOperands) : PluralCategory :=
  let last := operands.integer % 10
  let lastTwo := operands.integer % 100
  if !operands.noPlaces then .other
  else if operands.integer = 1 then .one
  else if isBetween 2 4 last && !isBetween 12 14 lastTwo then .few
  else .many

/-- The rules for amounts. -/
def cardinal : Language → PluralRules
  | .id | .ja | .ko | .th | .zh => fun _ => .other
  | .ar => fun operands => firstOf [
      (.zero, operands.valueIs (· = 0)),
      (.one, operands.valueIs (· = 1)),
      (.two, operands.valueIs (· = 2)),
      (.few, operands.valueIs fun value => isBetween 3 10 (value % 100)),
      (.many, operands.valueIs fun value => isBetween 11 99 (value % 100))]
  | .bn | .fa | .hi | .vi => fun operands => firstOf [
      (.one, operands.integer = 0 || operands.valueIs (· = 1))]
  | .de | .en | .nl => fun operands => firstOf [(.one, operands.isPlainOne)]
  | .el | .tr => fun operands => firstOf [(.one, operands.valueIs (· = 1))]
  | .es => fun operands => firstOf [
      (.one, operands.valueIs (· = 1)),
      (.many, operands.isMillions)]
  | .fr | .pt => fun operands => firstOf [
      (.one, operands.integer ≤ 1),
      (.many, operands.isMillions)]
  | .it => fun operands => firstOf [
      (.one, operands.isPlainOne),
      (.many, operands.isMillions)]
  | .he => fun operands => firstOf [
      (.one, operands.isPlainOne || (operands.integer = 0 && !operands.noPlaces)),
      (.two, operands.integer = 2 && operands.noPlaces)]
  | .pl => polish
  | .ro => fun operands => firstOf [
      (.one, operands.isPlainOne),
      (.few, !operands.noPlaces || operands.valueIs (· = 0) ||
        (!operands.valueIs (· = 1) &&
          operands.valueIs fun value => isBetween 1 19 (value % 100)))]
  | .ru | .uk => eastSlavic

/-- The rules for ranks. -/
def ordinal : Language → PluralRules
  | .bn => fun operands => firstOf [
      (.one, operands.valueIs fun value => value = 1 || value = 5 || isBetween 7 10 value),
      (.two, operands.valueIs (isBetween 2 3)),
      (.few, operands.valueIs (· = 4)),
      (.many, operands.valueIs (· = 6))]
  | .hi => fun operands => firstOf [
      (.one, operands.valueIs (· = 1)),
      (.two, operands.valueIs (isBetween 2 3)),
      (.few, operands.valueIs (· = 4)),
      (.many, operands.valueIs (· = 6))]
  | .en => fun operands => firstOf [
      (.one, operands.valueIs fun value => value % 10 = 1 && value % 100 ≠ 11),
      (.two, operands.valueIs fun value => value % 10 = 2 && value % 100 ≠ 12),
      (.few, operands.valueIs fun value => value % 10 = 3 && value % 100 ≠ 13)]
  | .es => fun operands => firstOf [
      (.one, operands.valueIs fun value =>
        (value % 10 = 1 || value % 10 = 3) && value % 100 ≠ 11)]
  | .fr | .ro | .vi => fun operands => firstOf [(.one, operands.valueIs (· = 1))]
  | .it => fun operands => firstOf [
      (.many, operands.valueIs fun value =>
        value = 8 || value = 11 || value = 80 || value = 800)]
  | .uk => fun operands => firstOf [
      (.few, operands.valueIs fun value => value % 10 = 3 && value % 100 ≠ 13)]
  | _ => fun _ => .other

/-- The rules of a language. -/
def of (language : Language) : PluralType → PluralRules
  | .cardinal => cardinal language
  | .ordinal => ordinal language

/-- The category of a number; a number without operands is `other`. -/
def category (rules : PluralRules) (number : Number) : PluralCategory :=
  match PluralOperands.ofNumber? number with
  | some operands => rules operands
  | none => .other

end PluralRules

end MessageTemplate
