import SchemaPages.Settings.Basic

/-!
# Requests

What one run is asked to do. A request can name a configuration file, and its own values go before
the configured ones: a source of its own replaces the configured source altogether, while its
headers are sent in addition to the configured ones. Empty texts count as left out, except for the
front matter, which an empty definition turns off.
-/

namespace SchemaPages.Generation

open Files (Path)
open Introspection (Header SourceSettings)
open Settings (OutputSettings)

/-- What a run is asked to do. -/
structure Request where
  configPath : Option String := none
  url : Option String := none
  jsonPath : Option String := none
  schemaPath : Option String := none
  /-- Texts that define headers. -/
  headers : List String := []
  outDir : Option String := none
  frontMatter : Option String := none
  timeoutSeconds : Option Int := none
  deriving DecidableEq, Repr

/-- Why a request cannot be combined with a configuration. -/
inductive RequestError where
  | severalSources
  | header (cause : Introspection.MalformedHeader)
  | timeout
  deriving DecidableEq, Repr

/-- The text of an error. -/
def RequestError.message : RequestError → String
  | .severalSources => Settings.severalSourcesMessage
  | .header cause => cause.message
  | .timeout => "Timeout must be greater than zero."

/-- A text that is not empty. -/
def nonEmpty? (text : Option String) : Option String :=
  text.filter (· ≠ "")

namespace Request

/-- The sources that the request names. -/
def sources (request : Request) : List String :=
  [request.url, request.jsonPath, request.schemaPath].filterMap nonEmpty?

/-- The settings with the source of the request, if it names one. -/
def withSource (request : Request) (settings : SourceSettings) : SourceSettings :=
  if request.sources.isEmpty then settings
  else
    { settings with
      url := nonEmpty? request.url
      jsonPath := (nonEmpty? request.jsonPath).map Path.ofString
      schemaPath := (nonEmpty? request.schemaPath).map Path.ofString }

/-- The headers that the request defines. -/
def parsedHeaders (request : Request) : Except Introspection.MalformedHeader (List Header) :=
  request.headers.mapM Header.parse

/-- The settings of the source under the request. -/
def mergeSource (request : Request) (settings : SourceSettings) :
    Except RequestError SourceSettings := do
  if 1 < request.sources.length then throw .severalSources
  let headers ← request.parsedHeaders.mapError .header
  let merged := request.withSource settings
  let merged := { merged with headers := merged.headers ++ headers }
  match request.timeoutSeconds with
  | none => return merged
  | some seconds =>
    if seconds ≤ 0 then throw .timeout else return { merged with timeoutSeconds := seconds }

/-- The settings of the output under the request. -/
def mergeOutput (request : Request) (settings : OutputSettings) : OutputSettings :=
  { outDir := ((nonEmpty? request.outDir).map Path.ofString).or settings.outDir
    frontMatter := request.frontMatter.or settings.frontMatter }

end Request

end SchemaPages.Generation
