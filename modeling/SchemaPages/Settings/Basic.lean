import SchemaPages.Introspection.Source

/-!
# Settings

What a configuration file determines: where the introspection answer comes from and what is
written where. The errors say which setting is wrong and what it should be.
-/

namespace SchemaPages.Settings

open Files (Path)
open Introspection (SourceSettings)

/-- What is written, and where. -/
structure OutputSettings where
  /-- The directory for the documents; they are printed if there is none. -/
  outDir : Option Path := none
  /-- The definition of the front matter. -/
  frontMatter : Option String := none
  deriving DecidableEq, Repr

/-- All settings. -/
structure Configuration where
  /-- The file that they come from. -/
  path : Option Path := none
  source : SourceSettings := {}
  output : OutputSettings := {}

/-- Why a configuration is refused. -/
inductive Error where
  | fileMissing (path : Path)
  | notParsed
  | rootNotMapping
  | sectionNotMapping (name : String)
  | notString (setting : String)
  | notInteger (setting : String)
  | notNumber (setting : String)
  | negative (setting : String)
  | notPositive (setting : String)
  | severalSources
  | headerName
  | headerValue (name : String)
  | headerEntry
  | headerFormat (cause : Introspection.MalformedHeader)
  | headersShape
  deriving DecidableEq, Repr

/-- The text about more than one source. -/
def severalSourcesMessage : String :=
  "At most one schema source (url, json or schema) may be provided."

/-- The text of an error. For a document that breaks the rules of its notation, what is said after a
colon about the place and the rule is left out. -/
def Error.message : Error → String
  | .fileMissing path => "Configuration file not found: " ++ path.text
  | .notParsed => "Failed to parse configuration file"
  | .rootNotMapping => "Configuration root must be a mapping."
  | .sectionNotMapping name => "Configuration section '" ++ name ++ "' must be a mapping."
  | .notString setting => setting ++ " must be a string."
  | .notInteger setting => setting ++ " must be an integer."
  | .notNumber setting => setting ++ " must be a number."
  | .negative setting => setting ++ " must not be negative."
  | .notPositive setting => setting ++ " must be greater than zero."
  | .severalSources => severalSourcesMessage
  | .headerName => "source.headers names must be non-empty strings."
  | .headerValue name => "source.headers." ++ name ++ " must be a string."
  | .headerEntry => "source.headers entries must be strings."
  | .headerFormat cause => cause.message
  | .headersShape => "source.headers must be a mapping or a list of name:value strings."

end SchemaPages.Settings
