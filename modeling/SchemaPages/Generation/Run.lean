import SchemaPages.FrontMatter.Block
import SchemaPages.Generation.Request
import SchemaPages.Generation.Writer
import SchemaPages.Settings.Reader

/-!
# A run

`run` does what a request asks, in three phases: `readPlan` reads the configuration and settles all
settings, then the schema is loaded, and `publish` renders the documents, puts the front matter in
front of them, and writes or prints them. Nothing is sent and no source is read before all settings
are known to be right, and nothing is written before all documents are complete.
-/

namespace SchemaPages.Generation

open Files (Path)
open Host (Action Attempt Failed)
open Pages (Documents)
open Settings (Configuration OutputSettings)

/-- What a run produces. -/
structure Outcome where
  documents : Documents
  writtenPaths : List Path
  /-- The text for standard output, if nothing is written. -/
  stdoutText : Option String
  deriving DecidableEq, Repr

/-- Why a run fails. -/
inductive Error where
  | configuration (error : Settings.Error)
  | request (error : RequestError)
  | frontMatter (error : FrontMatter.Malformed)
  | load (error : Introspection.LoadError)
  | write (directory : Path) (failure : Files.Failure)
  deriving DecidableEq, Repr

/-- The text of an error. -/
def Error.message : Error → String
  | .configuration error => error.message
  | .request error => error.message
  | .frontMatter error => error.message
  | .load error => error.message
  | .write directory failure =>
    "Failed to write documents to " ++ directory.text ++ ": " ++ failure.message

/-- The configuration of a run; without a file all settings have their defaults. -/
def loadConfiguration (path : Option String) : Attempt (Failed Error) Configuration :=
  match path with
  | none => return {}
  | some path => (Configuration.load path).within .configuration

/-- The entries of the front matter. -/
def frontMatterEntries (definition : Option String) :
    Except FrontMatter.Malformed FrontMatter.Entries :=
  match nonEmpty? definition with
  | none => .ok []
  | some text => FrontMatter.parse text

/-- The titles of all documents. -/
def titles : List (String × String) :=
  Pages.documentNames.map fun name => (name, Pages.documentTitle name)

/-- The documents of a schema with their front matter. -/
def documentsWith (entries : FrontMatter.Entries) (schema : Schema) : Documents :=
  let documents := Pages.render schema
  if entries.isEmpty then documents else FrontMatter.apply entries titles documents

/-- Writes or prints the documents. -/
def deliver (documents : Documents) (outDir : Option Path) : Attempt (Failed Error) Outcome :=
  match outDir with
  | none => return { documents, writtenPaths := [], stdoutText := some (Pages.printed documents) }
  | some directory => do
    let writtenPaths ← (writeDocuments documents directory).adapt fun failure =>
      .reported (.write directory failure)
    return { documents, writtenPaths, stdoutText := none }

/-- Everything that is settled before the schema is loaded. -/
structure Plan where
  source : Introspection.SourceSettings
  output : OutputSettings
  entries : FrontMatter.Entries

/-- Settles the settings of a run. -/
def settle (request : Request) (configuration : Configuration) : Except Error Plan := do
  let source ← (request.mergeSource configuration.source).mapError .request
  let output := request.mergeOutput configuration.output
  let entries ← (frontMatterEntries output.frontMatter).mapError .frontMatter
  return { source, output, entries }

/-- Reads the configuration of a run and settles its settings. -/
def readPlan (request : Request) : Attempt (Failed Error) Plan := do
  let configuration ← loadConfiguration request.configPath
  Attempt.check (settle request configuration) .reported

/-- Settles the settings of a run and loads its schema. -/
def prepare (request : Request) : Attempt (Failed Error) (Plan × Schema) := do
  let plan ← readPlan request
  let schema ← (Introspection.loadSchema plan.source).within .load
  return (plan, schema)

/-- Renders a schema and delivers its documents as planned. -/
def publish (plan : Plan) (schema : Schema) : Attempt (Failed Error) Outcome := do
  let filled := (Pages.nonEmpty (Pages.render schema)).length
  Attempt.of (Action.note .info .generation
    ("Rendered " ++ toString filled ++ " non-empty documents"))
  deliver (documentsWith plan.entries schema) plan.output.outDir

/-- Does what a request asks. -/
def run (request : Request) : Attempt (Failed Error) Outcome := do
  let (plan, schema) ← prepare request
  publish plan schema

end SchemaPages.Generation
