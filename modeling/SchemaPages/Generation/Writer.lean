import SchemaPages.Host.Failure
import SchemaPages.Pages.Document

/-!
# Writing documents

Every document that has content becomes a file of its own in the output directory, which is made
if it is missing. Files of documents without content are left alone.
-/

namespace SchemaPages.Generation

open Files (Path)
open Host (Action Attempt Failed)
open Pages (Documents)

/-- The file of a document in a directory. -/
def filePath (directory : Path) (document : String) : Path :=
  directory.join (Path.ofString (Pages.documentFile document))

/-- Writes the documents that have content, one after the other, and returns their files. -/
def writeFiles (directory : Path) : Documents → Attempt Files.Failure (List Path)
  | [] => return []
  | (document, text) :: rest => do
    if text = "" then
      Attempt.of (Action.note .debug .output ("Skipping empty document " ++ document))
      writeFiles directory rest
    else
      let path := filePath directory document
      Attempt.check (← Attempt.request (.write path (Text.Utf8.encode text)))
        fun cause => ⟨cause, path.text⟩
      Attempt.of (Action.note .info .output ("Wrote " ++ path.text))
      return path :: (← writeFiles directory rest)

/-- Writes the documents into a directory, in the order of their names. -/
def writeDocuments (documents : Documents) (directory : Path) :
    Attempt Files.Failure (List Path) := do
  Attempt.check (← Attempt.request (.makeDirectories directory)) id
  writeFiles directory (Pages.inNameOrder documents)

end SchemaPages.Generation
