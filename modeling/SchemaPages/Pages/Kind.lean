import SchemaPages.Text.LetterCase

/-!
# The documents

There is a document for each of the three root operations and one for each kind of type that is
documented. `documentNames` lists them in the order in which they are rendered.
-/

namespace SchemaPages.Pages

/-- A root operation of a schema. -/
inductive Operation where
  | query
  | mutation
  | subscription
  deriving DecidableEq, Repr

/-- A kind of type that has a document. -/
inductive Kind where
  | inputObject
  | object
  | enum
  | interface
  | union
  | scalar
  deriving DecidableEq, Repr

/-- All root operations, in the order of their documents. -/
def Operation.all : List Operation := [.query, .mutation, .subscription]

/-- All documented kinds, in the order of their documents. -/
def Kind.all : List Kind := [.inputObject, .object, .enum, .interface, .union, .scalar]

/-- The name of the document of an operation. -/
def Operation.document : Operation → String
  | .query => "queries"
  | .mutation => "mutations"
  | .subscription => "subscriptions"

/-- The name of a kind in a schema. -/
def Kind.text : Kind → String
  | .inputObject => "INPUT_OBJECT"
  | .object => "OBJECT"
  | .enum => "ENUM"
  | .interface => "INTERFACE"
  | .union => "UNION"
  | .scalar => "SCALAR"

/-- The name of the document of a kind. -/
def Kind.document : Kind → String
  | .inputObject => "inputs"
  | .object => "objects"
  | .enum => "enums"
  | .interface => "interfaces"
  | .union => "unions"
  | .scalar => "scalars"

/-- The documented kind with this name, if there is one. -/
def Kind.ofText? (text : String) : Option Kind :=
  Kind.all.find? (·.text = text)

/-- The names of all documents, in the order in which they are rendered. -/
def documentNames : List String :=
  Operation.all.map (·.document) ++ Kind.all.map (·.document)

/-- The title of a document. -/
def documentTitle (document : String) : String :=
  Text.title document

/-- The heading of the document of a kind. -/
def Kind.title (kind : Kind) : String :=
  documentTitle kind.document

/-- The document for the types of a kind; the empty text if the kind has none. -/
def documentForKind (kind : String) : String :=
  match Kind.ofText? kind with
  | some kind => kind.document
  | none => ""

theorem Operation.mem_all (operation : Operation) : operation ∈ Operation.all := by
  cases operation <;> decide

theorem Kind.mem_all (kind : Kind) : kind ∈ Kind.all := by
  cases kind <;> decide

theorem ofText?_text (kind : Kind) : Kind.ofText? kind.text = some kind := by
  cases kind <;> decide

theorem documentForKind_text (kind : Kind) : documentForKind kind.text = kind.document := by
  rw [documentForKind, ofText?_text]

end SchemaPages.Pages
