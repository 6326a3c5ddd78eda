import SchemaPages.Introspection.Fetch
import SchemaPages.Schema.Response
import SchemaPages.Text.Lines

/-!
# Where the introspection answer comes from

An answer comes from a server, from a file, or from standard input: the first of these that the
settings name, and standard input if they name none. Schema definitions can be named as a source
too, but are not understood.
-/

namespace SchemaPages.Introspection

open Files (Path)
open Host (Action Attempt Failed)

/-- Where the answer comes from, and how a server is asked. -/
structure SourceSettings where
  url : Option String := none
  headers : List Header := []
  jsonPath : Option Path := none
  schemaPath : Option Path := none
  timeoutSeconds : Int := 30
  maxRetries : Int := 2
  retryBackoffSeconds : Float := 0.5

/-- Why there is no answer. -/
inductive SourceError where
  | fetch (error : FetchError)
  | fileMissing (path : Path)
  | fileNotUtf8 (path : Path) (fault : Text.Utf8.Fault)
  | fileUnreadable (path : Path) (failure : Files.Failure)
  | inputNotUtf8 (fault : Text.Utf8.Fault)
  | definitionsNotSupported
  deriving DecidableEq, Repr

/-- The text of an error. -/
def SourceError.message : SourceError → String
  | .fetch error => error.message
  | .fileMissing path => "Introspection file not found: " ++ path.text
  | .fileNotUtf8 path fault =>
    "Introspection file " ++ path.text ++ " is not valid UTF-8: " ++ fault.message
  | .fileUnreadable path failure =>
    "Failed to read introspection file " ++ path.text ++ ": " ++ failure.message
  | .inputNotUtf8 fault => "Standard input is not valid UTF-8: " ++ fault.message
  | .definitionsNotSupported => "GraphQL schema files are not yet implemented"

/-- The text in bytes, with every line end as a line feed. -/
def textOfBytes (bytes : Text.Bytes) : Except Text.Utf8.Fault String :=
  (Text.Utf8.decode bytes).map fun text => String.ofList (Text.unifyLineEnds text.toList)

/-- Notes something about the source. -/
def sourceNote (message : String) : Attempt (Failed SourceError) Unit :=
  Attempt.of (Action.note .info .source message)

/-- The settings for a server. -/
def SourceSettings.plan (settings : SourceSettings) (url : String) : Plan :=
  { url
    headers := settings.headers
    timeoutSeconds := settings.timeoutSeconds
    maxRetries := settings.maxRetries
    retryBackoffSeconds := settings.retryBackoffSeconds }

/-- The source that is consulted. -/
inductive Source where
  | server (url : String)
  | file (path : Path)
  | definitions (path : Path)
  | input
  deriving DecidableEq, Repr

/-- The first source that the settings name. -/
def SourceSettings.source (settings : SourceSettings) : Source :=
  match settings.url.filter (· ≠ ""), settings.jsonPath, settings.schemaPath with
  | some url, _, _ => .server url
  | none, some path, _ => .file path
  | none, none, some path => .definitions path
  | none, none, none => .input

/-- The text of a file. -/
def readFile (path : Path) : Attempt (Failed SourceError) String := do
  match ← Attempt.request (.read path) with
  | .error .missing => Attempt.report (.fileMissing path)
  | .error cause => Attempt.report (.fileUnreadable path ⟨cause, path.text⟩)
  | .ok bytes => Attempt.check (textOfBytes bytes) fun fault => .reported (.fileNotUtf8 path fault)

/-- The text of standard input. -/
def readInput : Attempt (Failed SourceError) String := do
  let bytes ← Attempt.request .input
  Attempt.check (textOfBytes bytes) fun fault => .reported (.inputNotUtf8 fault)

/-- The text of the introspection answer. -/
def readText (settings : SourceSettings) : Attempt (Failed SourceError) String :=
  match settings.source with
  | .server url => do
    sourceNote ("Introspecting " ++ url)
    (fetch (settings.plan url)).within .fetch
  | .file path => do
    sourceNote ("Reading introspection response from " ++ path.text)
    readFile path
  | .definitions _ => Attempt.report .definitionsNotSupported
  | .input => do
    sourceNote "Reading introspection response from standard input"
    readInput

/-- Why there is no schema. -/
inductive LoadError where
  | source (error : SourceError)
  | schema (error : Schema.Error)
  deriving DecidableEq, Repr

/-- The text of an error. -/
def LoadError.message : LoadError → String
  | .source error => error.message
  | .schema error => error.message

/-- The schema of a service. -/
def loadSchema (settings : SourceSettings) : Attempt (Failed LoadError) Schema := do
  let text ← (readText settings).within .source
  Attempt.check (Schema.parse text) fun error => .reported (.schema error)

end SchemaPages.Introspection
