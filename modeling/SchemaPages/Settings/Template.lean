import SchemaPages.Settings.Reader

/-!
# The configuration template

A configuration file with placeholders and comments that say what can be set. The template is
written to a new file only.
-/

namespace SchemaPages.Settings

open Files (Path)
open Host (Attempt Failed)

/-- The name of a configuration file. -/
def defaultFileName : String := "gumwood.yaml"

/-- The lines of the template. -/
def templateLines : List String :=
  ["# Configuration template for gumwood.",
   "# Command line options override the values below.",
   "# Replace <OPTIONAL> placeholders only when your setup needs them; delete the rest.",
   "",
   "source:",
   "  # Choose at most one schema source (url, json or schema).",
   "  # Standard input is read when none is set.",
   "  url: \"<OPTIONAL>\"",
   "  # json: \"<OPTIONAL>\"",
   "  # schema: \"<OPTIONAL>\"",
   "  headers:",
   "    # Sent with the introspection request.",
   "    Authorization: \"<OPTIONAL>\"",
   "  timeout_seconds: 30",
   "  max_retries: 2",
   "  retry_backoff_seconds: 0.5",
   "",
   "output:",
   "  # Documents are printed to standard output when out_dir is not set.",
   "  out_dir: \"<OPTIONAL>\"",
   "  # key:value pairs separated by ';'. Values may use \x7bdocument\x7d and \x7btitle\x7d.",
   "  front_matter: \"<OPTIONAL>\""]

/-- The text of the template. -/
def template : String :=
  String.join (templateLines.map (· ++ "\n"))

/-- Why the template is not written: there is something at the path, which is named from the root
on. -/
structure TemplateError where
  path : Path
  deriving DecidableEq, Repr

/-- The text of an error. -/
def TemplateError.message (error : TemplateError) : String :=
  "Configuration file already exists: " ++ error.path.text

/-- Writes the template to a new file, and returns the path of the file from the root on. -/
def writeTemplate (pathText : String) : Attempt (Failed TemplateError) Path := do
  let path := Path.ofString pathText
  let there ← isThere path
  let resolved := path.resolve (← Attempt.request .workingDirectory)
  if there then Attempt.report ⟨resolved⟩
  else
    Attempt.check (← Attempt.request (.write path (Text.Utf8.encode template))) fun cause =>
      .broken (.files ⟨cause, path.text⟩)
    return resolved

end SchemaPages.Settings
