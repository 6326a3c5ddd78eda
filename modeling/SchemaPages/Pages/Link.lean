import SchemaPages.Markdown.Basic
import SchemaPages.Pages.Kind
import SchemaPages.Schema.TypeRef

/-!
# Links between documents

A reference leads to the section of its type: the anchor of the type's name in the document of
its kind.
-/

namespace SchemaPages.Pages

/-- The ending of the names of document files. -/
def documentSuffix : String := ".md"

/-- The file of a document. -/
def documentFile (document : String) : String :=
  document ++ documentSuffix

/-- Where a link to the type of a reference leads. -/
def destination (ref : TypeRef) : String :=
  documentFile (documentForKind ref.actualKind) ++ "#" ++ Markdown.anchorName ref.actualName

/-- The notation of a reference as inline code with a link; nothing if there is no reference. -/
def linkedType (ref : Option TypeRef) : String :=
  match ref with
  | none => ""
  | some ref => Markdown.link (Markdown.inlineCode ref.decoratedName) (destination ref)

end SchemaPages.Pages
