import SchemaPages.Pages.Section

/-!
# Documents

`render` turns a schema into one text for each document name. The document of a root operation
shows the fields of the type that carries the operation's name, in their order; the document of a
kind shows all types of the kind, sorted by name. A document without content is empty.
-/

namespace SchemaPages.Pages

/-- Texts by document name, in a fixed order. -/
abbrev Documents := List (String × String)

/-- The page of the type with this name; empty if there is none. -/
def operationPage (schema : Schema) (name : Option String) : String :=
  match name.bind schema.type? with
  | none => ""
  | some entry =>
    shown entry.name (Markdown.heading 1) ++ shown entry.description Markdown.blockQuote ++
      String.join ((entry.fields.getD []).map operationField)

/-- The page of all types of a kind under a title; empty if there are none. -/
def kindPage (schema : Schema) (title : String) (kind : Option String) : String :=
  match schema.typesOfKind kind with
  | [] => ""
  | types => Markdown.heading 1 title ++
      String.join ((sortedByName TypeEntry.name types).map typeSection)

/-- The name of the root type of an operation. -/
def Operation.rootName (operation : Operation) (schema : Schema) : Option String :=
  match operation with
  | .query => schema.queryName?
  | .mutation => schema.mutationName?
  | .subscription => schema.subscriptionName?

/-- All documents of a schema. -/
def render (schema : Schema) : Documents :=
  Operation.all.map (fun operation =>
    (operation.document, operationPage schema (operation.rootName schema))) ++
  Kind.all.map (fun kind => (kind.document, kindPage schema kind.title (some kind.text)))

/-- The documents that have content. -/
def nonEmpty (documents : Documents) : Documents :=
  documents.filter fun (_, text) => text ≠ ""

/-- The documents in the order of their names. -/
def inNameOrder (documents : Documents) : Documents :=
  sortedBy (fun a b => a.1 ≤ b.1) documents

/-- The text for standard output: the documents with content in the order of their names, each
followed by a line end. -/
def printed (documents : Documents) : String :=
  String.join ((nonEmpty (inNameOrder documents)).map fun (_, text) => text ++ "\n")

theorem map_fst_render (schema : Schema) : (render schema).map Prod.fst = documentNames := by
  simp [render, documentNames, Function.comp_def]

end SchemaPages.Pages
