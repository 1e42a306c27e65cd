/-!
# Suggestions

Names that a misspelt name may have meant: those within a small edit distance, the nearest
first. The name is taken in lower case and the candidates as they are.
-/

namespace MessageTemplate

namespace EditDistance

/-- From the distances of all suffixes of `source` to a text, in `shorter`, those to the text
with `character` in front. Each list starts with the distance of the whole source. -/
def extend (character : Char) : (source : List Char) → (shorter : List Nat) → List Nat
  | [], shorter => [shorter.headD 0 + 1]
  | first :: source, shorter =>
    let later := extend character source shorter.tail
    let replace := shorter.tail.headD 0 + if first = character then 0 else 1
    let insert := shorter.headD 0 + 1
    let delete := later.headD 0 + 1
    min replace (min insert delete) :: later

/-- The distances of all suffixes of `source` to `target`, the whole source first. -/
def suffixes (source : List Char) : (target : List Char) → List Nat
  | [] => (List.range (source.length + 1)).reverse
  | character :: target => extend character source (suffixes source target)

end EditDistance

/-- The least number of insertions, deletions and replacements of single characters that turn
`source` into `target`. -/
def editDistance (source target : List Char) : Nat :=
  (EditDistance.suffixes source target).headD 0

namespace Suggestion

/-- The letters `A` to `Z` in lower case, all else unchanged. -/
def lowerCase (name : String) : String := name.map Char.toLower

/-- How far a suggestion may lie from a name: one edit for names of at most three bytes, two
for longer ones. -/
def tolerance (name : String) : Nat := if 3 < name.utf8ByteSize then 2 else 1

/-- A candidate with its distance. -/
structure Scored where
  distance : Nat
  candidate : String
  deriving DecidableEq, Repr

/-- Nearer candidates come first, equally near ones in the order of their code points. -/
def Scored.precedes (left right : Scored) : Bool :=
  left.distance < right.distance ||
    (left.distance = right.distance && left.candidate ≤ right.candidate)

/-- The candidates that lie near enough to a name. -/
def eligible (name : String) (candidates : List String) : List Scored :=
  let lowered := lowerCase name
  (candidates.map fun candidate =>
    ⟨editDistance lowered.toList candidate.toList, candidate⟩).filter
      fun scored => scored.distance ≤ tolerance lowered

/-- At most three suggestions for a name. -/
def suggest (name : String) (candidates : List String) : List String :=
  (((eligible name candidates).mergeSort Scored.precedes).take 3).map (·.candidate)

end Suggestion

end MessageTemplate
