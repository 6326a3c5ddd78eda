import SchemaPages.Schema.TypeRef

/-!
# The introspection query

What a server is asked about its schema: a query and the fragments that it uses, as selections of
fields. A reference is asked for as many levels as are looked at, see `TypeRef.maxLevels`.
-/

namespace SchemaPages.Introspection

/-- Something that is asked about an object: a field, with what is asked about its value, or all
that a fragment asks. -/
inductive Selection where
  | field (name : String) (selections : List Selection)
  | spread (fragment : String)

namespace Selection

/-- A field with a simple value. -/
def leaf (name : String) : Selection :=
  .field name []

/-- A field whose value is asked about by a fragment. -/
def through (name fragment : String) : Selection :=
  .field name [.spread fragment]

/-- The start of a line inside `depth` braces. -/
def indent (depth : Nat) : String :=
  String.ofList (List.replicate (2 * depth) ' ')

mutual

/-- Writes a selection, one field on a line. -/
def text (depth : Nat) : Selection → String
  | .field name [] => indent depth ++ name ++ "\n"
  | .field name (first :: rest) =>
    indent depth ++ name ++ " \x7b\n" ++ texts (depth + 1) (first :: rest) ++ indent depth ++
      "\x7d\n"
  | .spread fragment => indent depth ++ "..." ++ fragment ++ "\n"

/-- Writes selections, one after the other. -/
def texts (depth : Nat) : List Selection → String
  | [] => ""
  | first :: rest => text depth first ++ texts depth rest

end

end Selection

open Selection

/-- What is asked about the schema. -/
def schemaSelections : List Selection :=
  [.field "__schema"
    [.field "queryType" [leaf "name"],
     .field "mutationType" [leaf "name"],
     .field "subscriptionType" [leaf "name"],
     through "types" "FullType",
     .field "directives"
      [leaf "name", leaf "description", leaf "locations", through "args" "InputValue"]]]

/-- What is asked about a type. -/
def typeSelections : List Selection :=
  [leaf "kind", leaf "name", leaf "description",
   .field "fields(includeDeprecated: true)"
    [leaf "name", leaf "description", through "args" "InputValue", through "type" "TypeRef",
     leaf "isDeprecated", leaf "deprecationReason"],
   through "inputFields" "InputValue",
   through "interfaces" "TypeRef",
   .field "enumValues(includeDeprecated: true)"
    [leaf "name", leaf "description", leaf "isDeprecated", leaf "deprecationReason"],
   through "possibleTypes" "TypeRef"]

/-- What is asked about an argument or an input field. -/
def inputSelections : List Selection :=
  [leaf "name", leaf "description", through "type" "TypeRef", leaf "defaultValue"]

/-- What is asked about a reference, down to a number of levels. -/
def refSelections : Nat → List Selection
  | 0 => []
  | 1 => [leaf "kind", leaf "name"]
  | levels + 1 => [leaf "kind", leaf "name", .field "ofType" (refSelections levels)]

/-- The parts of the query, each with what it asks. -/
def definitions : List (String × List Selection) :=
  [("query IntrospectionQuery", schemaSelections),
   ("fragment FullType on __Type", typeSelections),
   ("fragment InputValue on __InputValue", inputSelections),
   ("fragment TypeRef on __Type", refSelections TypeRef.maxLevels)]

/-- The text of the query. -/
def query : String :=
  "\n".intercalate
    (definitions.map fun (name, selections) => (Selection.field name selections).text 0)

end SchemaPages.Introspection
