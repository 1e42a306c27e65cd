import MessageTemplate.Plural.Selector

/-!
# Rule cache

Plural rules are built once for each language and type and kept from then on. The rules are
built by a function that may fail; a failure is kept as well, and its numbers are `other`. The
cache only tells languages apart, so they may be named in any way, also by texts for which no
rules can be built.
-/

namespace MessageTemplate

/-- What rules are built for; a language goes by a name of the type `L`. -/
abbrev RuleKey (L : Type := Language) := L × PluralType

/-- Builds the rules for a key. -/
abbrev RuleBuilder (L : Type := Language) := RuleKey L → Option PluralRules

/-- The rules that are always there. -/
def RuleBuilder.standard : RuleBuilder :=
  fun (language, type) => some (PluralRules.of language type)

/-- The category name under rules that may be missing. -/
def RuleBuilder.nameUnder (rules? : Option PluralRules) (number : Number) : String :=
  match rules? with
  | some rules => (rules.category number).name
  | none => PluralCategory.other.name

/-- The rules that were built so far, in the order of building. -/
structure RuleCache (L : Type := Language) where
  entries : List (RuleKey L × Option PluralRules)

namespace RuleCache

variable {L : Type}

/-- A cache without rules. -/
def empty : RuleCache L := ⟨[]⟩

variable [DecidableEq L]

/-- The category name of a number, and the cache afterwards. -/
def categoryName (build : RuleBuilder L) (key : RuleKey L) (number : Number)
    (cache : RuleCache L) : String × RuleCache L :=
  match cache.entries.lookup key with
  | some rules? => (RuleBuilder.nameUnder rules? number, cache)
  | none =>
    let rules? := build key
    (RuleBuilder.nameUnder rules? number, ⟨cache.entries ++ [(key, rules?)]⟩)

/-- The category names that a sequence of calls asks for, one after the other through one
cache. -/
def categoryNames (build : RuleBuilder L) :
    List (RuleKey L × Number) → RuleCache L → List String × RuleCache L
  | [], cache => ([], cache)
  | (key, number) :: calls, cache =>
    let (name, cache) := cache.categoryName build key number
    let (names, cache) := categoryNames build calls cache
    (name :: names, cache)

end RuleCache

end MessageTemplate
