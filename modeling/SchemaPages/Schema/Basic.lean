import SchemaPages.Schema.TypeRef

/-!
# The schema of a GraphQL service

What an introspection answer tells about the types of a service. Every attribute may be missing,
and a missing list is not the same as an empty one: a type shows a section for each list it has.
Names need not be distinct; `Schema.type?` finds the first type with a name.
-/

namespace SchemaPages

/-- An argument of a field, or a field of an input object. -/
structure Input where
  name : Option String
  description : Option String
  type : Option TypeRef
  defaultValue : Option String
  deriving DecidableEq, Repr

/-- A field of an object, an interface or a root operation type. -/
structure Field where
  name : Option String
  description : Option String
  args : Option (List Input)
  type : Option TypeRef
  isDeprecated : Bool
  deprecationReason : Option String
  deriving DecidableEq, Repr

/-- A value of an enumeration. -/
structure EnumValue where
  name : Option String
  description : Option String
  isDeprecated : Bool
  deprecationReason : Option String
  deriving DecidableEq, Repr

/-- A type of the service. -/
structure TypeEntry where
  name : Option String
  kind : Option String
  description : Option String
  fields : Option (List Field)
  inputs : Option (List Input)
  interfaces : Option (List TypeRef)
  enumValues : Option (List EnumValue)
  possibleTypes : Option (List TypeRef)
  deriving DecidableEq, Repr

/-- A directive of the service. -/
structure Directive where
  name : Option String
  description : Option String
  locations : Option (List String)
  args : Option (List Input)
  deriving DecidableEq, Repr

/-- The schema of a service. The root types normally carry a name and nothing else. -/
structure Schema where
  queryType : Option TypeEntry
  mutationType : Option TypeEntry
  subscriptionType : Option TypeEntry
  types : Option (List TypeEntry)
  directives : Option (List Directive)
  deriving DecidableEq, Repr

namespace Schema

/-- The types of the schema, none if the list is missing. -/
def typeList (schema : Schema) : List TypeEntry :=
  schema.types.getD []

/-- The first type with this name. -/
def type? (schema : Schema) (name : String) : Option TypeEntry :=
  schema.typeList.find? fun entry => entry.name == some name

/-- The types of a kind in their order; `none` stands for the types without a kind. -/
def typesOfKind (schema : Schema) (kind : Option String) : List TypeEntry :=
  schema.typeList.filter fun entry => entry.kind == kind

/-- The name of the root type for queries. -/
def queryName? (schema : Schema) : Option String :=
  schema.queryType.bind (·.name)

/-- The name of the root type for mutations. -/
def mutationName? (schema : Schema) : Option String :=
  schema.mutationType.bind (·.name)

/-- The name of the root type for subscriptions. -/
def subscriptionName? (schema : Schema) : Option String :=
  schema.subscriptionType.bind (·.name)

end Schema

end SchemaPages
