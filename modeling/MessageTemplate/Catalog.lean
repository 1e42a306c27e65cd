import MessageTemplate.Json.Reader

/-!
# Catalogs

A catalog is a JSON object that holds templates, possibly inside further objects. Each
template has an identifier made of the names on the way to it, with dots between them.
-/

namespace MessageTemplate

/-- Why a text is not a catalog. -/
inductive CatalogError where
  /-- It is not a JSON document. -/
  | json
  /-- It is a document of another kind. -/
  | notAnObject
  /-- Something in it is neither an object nor a template. -/
  | notAString (id : String)
  deriving DecidableEq, Repr

/-- The text of a fault of a catalog's content. -/
def CatalogError.message : CatalogError → String
  | json => "invalid JSON"
  | notAnObject => "catalog must be a JSON object"
  | notAString id => "message '" ++ id ++ "' is not a string"

/-- Templates by identifier, sorted. -/
abbrev Catalog := List (String × String)

namespace Catalog

/-- The identifier of a member of the object with an identifier. -/
def memberId (id name : String) : String := if id.isEmpty then name else id ++ "." ++ name

mutual

/-- Add the templates of a document to a catalog; a later template replaces one of its
identifier. -/
def collect (id : String) (catalog : Catalog) : Json → Except CatalogError Catalog
  | .string template => .ok (Json.insertMember id template catalog)
  | .object members => collectMembers id catalog members
  | _ => .error (.notAString id)

/-- Add the templates of an object's members, one member after the other. -/
def collectMembers (id : String) (catalog : Catalog) :
    List (String × Json) → Except CatalogError Catalog
  | [] => .ok catalog
  | (name, document) :: members =>
    match collect (memberId id name) catalog document with
    | .error error => .error error
    | .ok catalog => collectMembers id catalog members

end

/-- The templates of a document. -/
def ofJson : Json → Except CatalogError Catalog
  | .object members => collectMembers "" [] members
  | _ => .error .notAnObject

/-- The templates of a text. -/
def load (content : String) : Except CatalogError Catalog :=
  match Json.ofText? content with
  | none => .error .json
  | some document => ofJson document

end Catalog

end MessageTemplate
