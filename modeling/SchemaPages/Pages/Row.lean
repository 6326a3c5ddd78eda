import SchemaPages.Markdown.Table
import SchemaPages.Pages.Link
import SchemaPages.Pages.NameOrder
import SchemaPages.Schema.Basic

/-!
# Rows for members

Fields, inputs and enumeration values are listed in tables, one row for each member, in the order
of their names.
-/

namespace SchemaPages.Pages

/-- The headers of a table of fields. -/
def fieldHeaders : List String := ["Name", "Type", "Description"]

/-- The headers of a table of arguments or input fields. -/
def inputHeaders : List String := ["Name", "Type", "Description", "Default Value"]

/-- The headers of a table of enumeration values. -/
def enumValueHeaders : List String := ["Name", "Description", "Deprecated"]

/-- What the last column says about a value that is not deprecated. -/
def notDeprecated : String := "no"

/-- The cells of a field. -/
def fieldCells (field : Field) : List String :=
  [Markdown.inlineCode (Markdown.cell field.name), linkedType field.type,
   Markdown.cell field.description]

/-- The cells of an argument or an input field. -/
def inputCells (input : Input) : List String :=
  [Markdown.inlineCode (Markdown.cell input.name), linkedType input.type,
   Markdown.cell input.description, Markdown.inlineCode (Markdown.cell input.defaultValue)]

/-- The cells of an enumeration value; a deprecated one shows the reason. -/
def enumValueCells (value : EnumValue) : List String :=
  [Markdown.inlineCode (Markdown.cell value.name), Markdown.cell value.description,
   if value.isDeprecated then Markdown.cell value.deprecationReason else notDeprecated]

/-- The table of fields. -/
def fieldTable (fields : List Field) : String :=
  Markdown.table fieldHeaders ((sortedByName Field.name fields).map fieldCells)

/-- The table of arguments or input fields. -/
def inputTable (inputs : List Input) : String :=
  Markdown.table inputHeaders ((sortedByName Input.name inputs).map inputCells)

/-- The table of enumeration values. -/
def enumValueTable (values : List EnumValue) : String :=
  Markdown.table enumValueHeaders ((sortedByName EnumValue.name values).map enumValueCells)

end SchemaPages.Pages
