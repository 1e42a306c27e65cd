import MessageTemplate.Suggestion
import MessageTemplate.Template.Error

/-!
# Help with faults

The hint that accompanies an unknown expression kind.
-/

namespace MessageTemplate

/-- The hint for a fault among the kinds that a parser knows. -/
def ParseError.help? (error : ParseError) (knownKinds : List String) : Option String :=
  match error.fault with
  | .unknownType name =>
    match Suggestion.suggest name knownKinds with
    | [] => none
    | suggestions => some ("did you mean: " ++ String.intercalate ", " suggestions ++ "?")
  | _ => none

end MessageTemplate
