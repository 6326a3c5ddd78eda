import SchemaPages.Text.Blank
import SchemaPages.Text.Split

/-!
# Markdown tables

A table is a row of headers, a row of dashes, a row for each entry, and an empty line. `cell`
brings free text into the form of one cell: trimmed and on one line.
-/

namespace SchemaPages.Markdown

/-- A row of a table. -/
def tableRow (cells : List String) : String :=
  "| " ++ " | ".intercalate cells ++ " |\n"

/-- The row between the headers and the entries. -/
def tableRule (columns : Nat) : String :=
  tableRow (List.replicate columns "---")

/-- A table with these headers and rows. -/
def table (headers : List String) (rows : List (List String)) : String :=
  tableRow headers ++ tableRule headers.length ++ String.join (rows.map tableRow) ++ "\n"

/-- Text as it stands in a cell: trimmed and without line ends. -/
def cell (text : Option String) : String :=
  match text with
  | none => ""
  | some text => Text.without '\n' (Text.trim text)

end SchemaPages.Markdown
