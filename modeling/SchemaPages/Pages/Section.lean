import SchemaPages.Pages.Row

/-!
# Sections

A field of a root operation and a type each have a section of their own. A section shows the
attributes that are present; a type has a part for each list of members that is present, even an
empty one, while a field shows its arguments only if it has some.
-/

namespace SchemaPages.Pages

/-- The text for an attribute, if the attribute is present. -/
def shown {α : Type} (value : Option α) (text : α → String) : String :=
  (value.map text).getD ""

/-- The section of a field of a root operation. -/
def operationField (field : Field) : String :=
  shown field.name (Markdown.heading 2) ++
  (if field.isDeprecated then Markdown.notice "Deprecated" else "") ++
  shown field.description Markdown.blockQuote ++
  shown field.type (fun type => Markdown.label "Type" (linkedType (some type))) ++
  match field.args with
  | none | some [] => ""
  | some args => Markdown.heading 3 "Arguments" ++ inputTable args

/-- The names of the types that an abstract type stands for, as a sorted list. -/
def implementations (types : List TypeRef) : String :=
  Markdown.bullets (sortedTexts (types.map fun type =>
    Markdown.inlineCode (type.outermost.name.getD "")))

/-- The section of a type. -/
def typeSection (entry : TypeEntry) : String :=
  shown entry.name (fun name => Markdown.heading 2 (Markdown.anchored name)) ++
  shown entry.description Markdown.blockQuote ++
  shown entry.fields (fun fields => Markdown.heading 3 "Fields" ++ fieldTable fields) ++
  shown entry.inputs (fun inputs => Markdown.heading 3 "Inputs" ++ inputTable inputs) ++
  shown entry.enumValues (fun values => Markdown.heading 3 "Values" ++ enumValueTable values) ++
  shown entry.possibleTypes (fun types =>
    Markdown.heading 3 "Implemented by" ++ implementations types)

end SchemaPages.Pages
