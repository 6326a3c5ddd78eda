import SchemaPages.Settings.Basic
import SchemaPages.Yaml.Value

/-!
# Reading a configuration

`Configuration.ofValue` checks the value of a configuration file: a mapping with the sections
`source` and `output`, in which every setting may be left out. Texts are trimmed, and a text that
is blank counts as left out. Paths are meant relative to the directory of the file.

`Configuration.load` reads the file.
-/

namespace SchemaPages.Settings

open Files (Path Location)
open Host (Attempt Failed Breakdown)
open Introspection (Header SourceSettings)
open Yaml (Value Scalar)

/-- The outcome of a check. -/
abbrev Checked := Except (Failed Error)

/-- Refuses a configuration. -/
def refuse {α : Type} (error : Error) : Checked α :=
  .error (.reported error)

/-- The entries of a mapping. -/
abbrev Section := List (Scalar × Value)

/-- A setting that is present and not the missing value. -/
def setting? (name : String) (content : Section) : Option Value :=
  match Value.entry? name content with
  | some (.scalar .null) => none
  | found => found

/-- A section of the configuration; empty if it is left out. -/
def sectionOf (name : String) (content : Section) : Checked Section :=
  match setting? name content with
  | none => .ok []
  | some (.mapping entries) => .ok entries
  | some _ => refuse (.sectionNotMapping name)

/-- A text without the blank characters around it, unless nothing is left. -/
def trimmed? (text : String) : Option String :=
  match Text.trimChars text.toList with
  | [] => none
  | chars => some (String.ofList chars)

/-- An optional text. -/
def textSetting (label name : String) (content : Section) : Checked (Option String) :=
  match setting? name content with
  | none => .ok none
  | some (.scalar (.text text)) => .ok (trimmed? text)
  | some _ => refuse (.notString (label ++ "." ++ name))

/-! ### Numbers -/

/-- An integer that is not negative. -/
def naturalSetting (label name : String) (default : Int) (content : Section) : Checked Int :=
  let setting := label ++ "." ++ name
  match Value.entry? name content with
  | none => .ok default
  | some (.scalar (.integer n)) => if n < 0 then refuse (.negative setting) else .ok n
  | some _ => refuse (.notInteger setting)

/-- An integer that is greater than zero. -/
def positiveSetting (label name : String) (default : Int) (content : Section) : Checked Int := do
  let n ← naturalSetting label name default content
  if n = 0 then refuse (.notPositive (label ++ "." ++ name)) else return n

/-- A number that is not negative. -/
def numberSetting (label name : String) (default : Float) (content : Section) : Checked Float :=
  let setting := label ++ "." ++ name
  match Value.entry? name content with
  | none => .ok default
  | some (.scalar (.integer n)) =>
    if n < 0 then refuse (.negative setting)
    else
      match Number.floatOfInt n with
      | some x => .ok x
      | none => .error (.broken (.tooLarge Number.tooLargeForFloat))
  | some (.scalar (.float x)) => if x < 0 then refuse (.negative setting) else .ok x
  | some _ => refuse (.notNumber setting)

/-! ### Headers -/

/-- The headers in the entries of a mapping. -/
def headersOfEntries : Section → Checked (List Header)
  | [] => .ok []
  | (name, value) :: rest =>
    match name with
    | .text name =>
      match trimmed? name with
      | none => refuse .headerName
      | some trimmedName =>
        match value with
        | .scalar (.text value) =>
          ((trimmedName, Text.trim value) :: ·) <$> headersOfEntries rest
        | _ => refuse (.headerValue name)
    | _ => refuse .headerName

/-- The headers in the items of a list. -/
def headersOfItems : List Value → Checked (List Header)
  | [] => .ok []
  | .scalar (.text text) :: rest =>
    match Header.parse text with
    | .error cause => refuse (.headerFormat cause)
    | .ok header => (header :: ·) <$> headersOfItems rest
  | _ :: _ => refuse .headerEntry

/-- The headers, given as a mapping or as a list of texts. Bytes are a list of numbers. -/
def headersSetting (content : Section) : Checked (List Header) :=
  match setting? "headers" content with
  | none => .ok []
  | some (.mapping entries) => headersOfEntries entries
  | some (.sequence items) => headersOfItems items
  | some (.scalar (.bytes bytes)) => if bytes.isEmpty then .ok [] else refuse .headerEntry
  | some _ => refuse .headersShape

/-! ### Sections -/

/-- The path that a setting means: one that does not start at the root is taken from the directory
of the configuration file. To resolve it, the host has to be asked for it, and no name that the host
knows holds NUL. -/
def resolvedPath (working : Location) (base : Path) (text : String) : Checked Path :=
  let path := Path.ofString text
  if path.isAbsolute then .ok path
  else if '\x00' ∈ text.toList then .error (.broken .nul)
  else .ok ((base.join path).resolve working)

/-- The path that an optional setting means. -/
def pathSetting (working : Location) (base : Path) : Option String → Checked (Option Path)
  | none => .ok none
  | some text => some <$> resolvedPath working base text

/-- The settings of the source. -/
def sourceOf (working : Location) (base : Path) (content : Section) : Checked SourceSettings := do
  let label := "source"
  let content ← sectionOf label content
  let defaults : SourceSettings := {}
  let url ← textSetting label "url" content
  let json ← textSetting label "json" content
  let schema ← textSetting label "schema" content
  if 1 < ([url, json, schema].filter Option.isSome).length then refuse .severalSources
  else
    let headers ← headersSetting content
    let jsonPath ← pathSetting working base json
    let schemaPath ← pathSetting working base schema
    let timeoutSeconds ← positiveSetting label "timeout_seconds" defaults.timeoutSeconds content
    let maxRetries ← naturalSetting label "max_retries" defaults.maxRetries content
    let retryBackoffSeconds ←
      numberSetting label "retry_backoff_seconds" defaults.retryBackoffSeconds content
    return {
      url, headers, jsonPath, schemaPath, timeoutSeconds, maxRetries, retryBackoffSeconds }

/-- The settings of the output. -/
def outputOf (working : Location) (base : Path) (content : Section) : Checked OutputSettings := do
  let label := "output"
  let content ← sectionOf label content
  let outDir ← textSetting label "out_dir" content
  let frontMatter ← textSetting label "front_matter" content
  return { outDir := ← pathSetting working base outDir, frontMatter }

/-- The configuration with a value, in a file at a path. -/
def Configuration.ofValue (working : Location) (path : Path) (value : Value) :
    Checked Configuration := do
  let content ← match value with
    | .scalar .null => .ok []
    | .mapping entries => .ok entries
    | _ => refuse .rootNotMapping
  let source ← sourceOf working path.parent content
  let output ← outputOf working path.parent content
  return { path := some path, source, output }

/-! ### Files -/

/-- What a fault of a document means for a configuration. -/
def documentFailure : Yaml.Fault → Failed Error
  | .malformed => .reported .notParsed
  | .noValue message => .broken (.noValue message)
  | .tooLarge message => .broken (.tooLarge message)
  | .endless => .broken .endless

/-- How deep settings lie in a document: a header is in the headers of a section of the whole. -/
def settingDepth : Nat := 3

/-- The configuration in the text of a file. -/
def Configuration.ofText (working : Location) (path : Path) (text : String) :
    Checked Configuration := do
  let value ← (Yaml.load settingDepth text).mapError documentFailure
  Configuration.ofValue working path value

/-- Whether there is something at a path. A path that is not to be followed to its end leads
nowhere, but one with a name that is too long is a failure. -/
def isThere {ε : Type} (path : Path) : Attempt (Failed ε) Bool := do
  match ← Attempt.request (.status path) with
  | .ok _ => return true
  | .error .nameTooLong => Attempt.break (.files ⟨.nameTooLong, path.text⟩)
  | .error _ => return false

/-- The configuration in a file. -/
def Configuration.load (pathText : String) : Attempt (Failed Error) Configuration := do
  let path := Path.ofString pathText
  if !(← isThere path) then Attempt.report (.fileMissing path)
  else
    let working ← Attempt.request .workingDirectory
    let bytes ← Attempt.check (← Attempt.request (.read path)) fun cause =>
      .broken (.files ⟨cause, path.text⟩)
    let text ← Attempt.check (Introspection.textOfBytes bytes) fun fault =>
      .broken (.notUtf8 fault)
    Attempt.check (Configuration.ofText working path text) id

end SchemaPages.Settings
