import SchemaPages.Text.LetterCase

/-!
# Markdown building blocks

The pieces that the documents are made of. Each function returns finished text with its line
ends; only `link`, `inlineCode` and `anchor` stay within a line. Text is put in as it is.
-/

namespace SchemaPages.Markdown

/-- A heading and a blank line. -/
def heading (level : Nat) (text : String) : String :=
  String.ofList (List.replicate level '#') ++ " " ++ text ++ "\n\n"

/-- A block quote and a blank line. -/
def blockQuote (text : String) : String :=
  "> " ++ text ++ "\n\n"

/-- A line in italics. -/
def notice (text : String) : String :=
  "_" ++ text ++ "_\n"

/-- A bold label with a value, and a blank line. -/
def label (name value : String) : String :=
  "**" ++ name ++ ":** " ++ value ++ "\n\n"

/-- Text between backticks; nothing for the empty text. -/
def inlineCode (text : String) : String :=
  if text = "" then "" else "`" ++ text ++ "`"

/-- A link; nothing for the empty text. -/
def link (text destination : String) : String :=
  if text = "" then "" else "[" ++ text ++ "](" ++ destination ++ ")"

/-- The name of the anchor of a heading. -/
def anchorName (text : String) : String :=
  Text.lower text

/-- The place that links lead to. -/
def anchorTag (text : String) : String :=
  "<a name=\"" ++ anchorName text ++ "\"></a>"

/-- Text with an anchor in front of it. -/
def anchored (text : String) : String :=
  anchorTag text ++ text

/-- A bulleted list and a blank line. -/
def bullets (items : List String) : String :=
  String.join (items.map fun item => "* " ++ item ++ "\n") ++ "\n"

end SchemaPages.Markdown
