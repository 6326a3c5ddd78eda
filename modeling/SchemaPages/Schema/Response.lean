import SchemaPages.Json.Reader
import SchemaPages.Schema.Reader

/-!
# Introspection answers

A service answers the introspection query with a JSON object whose member `data` holds the schema
section. `Schema.parse` reads the schema out of the text of an answer and tells the ways apart in
which a text can fail to be one.
-/

namespace SchemaPages.Schema

/-- Why a text is no introspection answer. -/
inductive Error where
  | invalidJson (fault : Json.Fault)
  | notAnObject
  | missingData
  | missingSchema
  | misfit (cause : Misfit)
  deriving DecidableEq, Repr

/-- The schema section of a decoded answer. -/
def sectionOf : Json → Except Error Json
  | .object members =>
    match Json.member? "data" members with
    | none => .error .missingData
    | some (.object inner) =>
      match Json.member? Place.sectionName inner with
      | none => .error .missingSchema
      | some value => .ok value
    | some _ => .error .missingSchema
  | _ => .error .notAnObject

/-- The schema in the text of an answer. -/
def parse (text : String) : Except Error Schema := do
  let answer ← (Json.read text).mapError .invalidJson
  let value ← sectionOf answer
  (ofJson value).mapError Error.misfit

/-- The kind of an error, in one word. -/
def Error.kind : Error → String
  | .invalidJson _ => "invalid_json"
  | .notAnObject => "not_an_object"
  | .missingData => "missing_data"
  | .missingSchema => "missing_schema"
  | .misfit _ => "deserialization"

/-- The text of an error. -/
def Error.message : Error → String
  | .invalidJson fault => "invalid JSON: " ++ fault.message
  | .notAnObject => "response format not an object"
  | .missingData => "data not in response"
  | .missingSchema => "schema not in response"
  | .misfit cause => cause.message

end SchemaPages.Schema
