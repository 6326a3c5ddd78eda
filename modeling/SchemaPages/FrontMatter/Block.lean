import SchemaPages.FrontMatter.Basic
import SchemaPages.Pages.Document
import SchemaPages.Pairs
import SchemaPages.Yaml.BlockMapping

/-!
# Front matter blocks

Every document that has content starts with its front matter: a mapping between two lines of
dashes. In the values, a placeholder stands for the name of the document and one for its title. If
a key is defined more than once, its last value counts and its first place.
-/

namespace SchemaPages.FrontMatter

/-- Stands for the name of the document. -/
def documentPlaceholder : String := "\x7bdocument\x7d"

/-- Stands for the title of the document. -/
def titlePlaceholder : String := "\x7btitle\x7d"

/-- The value of an entry in a document: names first, then titles. -/
def fill (document title value : String) : String :=
  Text.replaceAll titlePlaceholder title (Text.replaceAll documentPlaceholder document value)

/-- The keys and values of a document. -/
def valuesFor (entries : Entries) (document title : String) : Entries :=
  Pairs.ofList (entries.map fun (key, value) => (key, fill document title value))

/-- The line around the mapping. -/
def fence : String := "---\n"

/-- The front matter of a document; empty if nothing is defined. -/
def block (entries : Entries) (document title : String) : String :=
  if entries.isEmpty then ""
  else fence ++ Yaml.blockMapping (valuesFor entries document title) ++ fence ++ "\n"

/-- Puts the front matter in front of a document that has content. The title of a document is
looked up, and is its name otherwise. -/
def addTo (entries : Entries) (titles : List (String × String)) (document text : String) :
    String :=
  if text = "" then text
  else block entries document ((titles.lookup document).getD document) ++ text

/-- Puts the front matter in front of every document that has content. -/
def apply (entries : Entries) (titles : List (String × String)) (documents : Pages.Documents) :
    Pages.Documents :=
  documents.map fun (document, text) => (document, addTo entries titles document text)

end SchemaPages.FrontMatter
