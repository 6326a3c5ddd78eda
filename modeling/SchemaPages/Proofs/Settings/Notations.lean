import SchemaPages.Proofs.Settings.Loaded

/-!
# The notations of headers

Headers are written as a mapping of names to values, or as a list of texts with a name and a value
around a colon. The two are read by different rules: those of a mapping are trimmed as they stand,
while a text is cut at its first colon. If no name has a colon, that is where its own ends
(`Header.parse_joined`), so both give the same headers, and both are refused if a name is blank
(`headersOfEntries_of_blank`, `mapM_parse_of_blank`).

A configuration with headers is the one without, with these headers, if they are accepted at all
(`configuredWith_of_ok`, `configuredWith_of_error`): whatever else is in it, the headers change
nothing but themselves.
-/

namespace SchemaPages

namespace Introspection

variable {name value text : String} {header : Header}

/-- A text is read at its first colon, which is the one behind a name that has none. -/
theorem Header.parse_joined (hname : ':' ∉ name.toList) (value : String) :
    Header.parse (name ++ ":" ++ value) =
      if Text.trim name = "" then .error ⟨name ++ ":" ++ value⟩
      else .ok (Text.trim name, Text.trim value) := by
  have hcut : Text.cutFirst ':' (name ++ ":" ++ value).toList =
      some (name.toList, value.toList) := by
    rw [String.toList_append, String.toList_append, List.append_assoc]
    exact Text.cutFirst_append_cons hname value.toList
  rw [Header.parse, hcut]
  dsimp only
  split
  · next hblank =>
    rw [if_pos (by rw [Text.trim, hblank])]
  · next hkept =>
    have hne : Text.trim name ≠ "" := fun hnil =>
      hkept (by simpa [Text.trim] using congrArg String.toList hnil)
    rw [if_neg hne]
    rfl

/-- What has been read from a text reads as the same again. -/
theorem Header.parse_again (h : Header.parse text = .ok header) :
    Header.parse (header.1 ++ ":" ++ header.2) = .ok header := by
  have hformed := Header.wellFormed_of_parse h
  have hcolon : ':' ∉ header.1.toList := by
    rw [Header.parse] at h
    split at h
    · cases h
    next name value hcut =>
      split at h
      · cases h
      cases h
      rw [String.toList_ofList]
      exact fun hmem => (Text.eq_append_of_cutFirst hcut).2 (Text.mem_of_mem_trimChars hmem)
  have htrim : ∀ part : String, Text.Trimmed part.toList → Text.trim part = part := by
    intro part hpart
    rw [Text.trim, Text.trimChars_of_trimmed hpart, String.ofList_toList]
  rw [Header.parse_joined hcolon, htrim _ hformed.name, htrim _ hformed.value,
    if_neg hformed.name_ne_empty]

end Introspection

namespace Settings

open Files (Location Path)
open Introspection (Header MalformedHeader SourceSettings)
open Yaml (Value Scalar)

variable {entries : List (String × String)} {headers : List Header}

/-! ### Mappings and lists -/

/-- The headers in a mapping of texts, without the blanks around names and values. -/
def trimmedEntries (entries : List (String × String)) : List Header :=
  entries.map fun (name, value) => (Text.trim name, Text.trim value)

/-- The texts of a list of headers, with a colon behind each name. -/
def joinedEntries (entries : List (String × String)) : List String :=
  entries.map fun (name, value) => name ++ ":" ++ value

/-- A mapping with a blank name is refused, wherever the name stands. -/
theorem headersOfEntries_of_blank (h : ∃ entry ∈ entries, Text.trim entry.1 = "") :
    ∃ error, headersOfEntries (textEntries entries) = .error error := by
  rcases hread : headersOfEntries (textEntries entries) with error | headers
  · exact ⟨error, rfl⟩
  · exfalso
    obtain ⟨others, hsame, hnames, -⟩ := exists_of_headersOfEntries hread
    have hinjective : Function.Injective fun entry : String × String =>
        ((.text entry.1, .scalar (.text entry.2)) : Scalar × Value) := by
      rintro ⟨name, value⟩ ⟨name', value'⟩ heq
      simpa using heq
    obtain rfl : entries = others := List.map_injective_iff.mpr hinjective hsame
    obtain ⟨entry, hentry, hblank⟩ := h
    exact hnames entry hentry hblank

theorem mapM_parse_of_nonblank (hcolon : ∀ entry ∈ entries, ':' ∉ entry.1.toList)
    (h : ∀ entry ∈ entries, Text.trim entry.1 ≠ "") :
    (joinedEntries entries).mapM Header.parse = .ok (trimmedEntries entries) := by
  induction entries with
  | nil => rfl
  | cons entry rest ih =>
    obtain ⟨hname, hnames⟩ := List.forall_mem_cons.mp h
    obtain ⟨hfirst, hcolons⟩ := List.forall_mem_cons.mp hcolon
    have hrest : (joinedEntries rest).mapM Header.parse = .ok (trimmedEntries rest) :=
      ih hcolons hnames
    have hparse : Header.parse (entry.1 ++ ":" ++ entry.2) =
        .ok (Text.trim entry.1, Text.trim entry.2) := by
      rw [Header.parse_joined hfirst, if_neg hname]
    rw [joinedEntries, List.map_cons, List.mapM_cons, hparse, ← joinedEntries, hrest]
    rfl

/-- A list with a blank name is refused, wherever the name stands. -/
theorem mapM_parse_of_blank (hcolon : ∀ entry ∈ entries, ':' ∉ entry.1.toList)
    (h : ∃ entry ∈ entries, Text.trim entry.1 = "") :
    ∃ cause, (joinedEntries entries).mapM Header.parse = .error cause := by
  induction entries with
  | nil =>
    obtain ⟨entry, hentry, -⟩ := h
    cases hentry
  | cons entry rest ih =>
    obtain ⟨hfirst, hcolons⟩ := List.forall_mem_cons.mp hcolon
    rw [joinedEntries, List.map_cons, List.mapM_cons, Header.parse_joined hfirst, ← joinedEntries]
    by_cases hname : Text.trim entry.1 = ""
    · rw [if_pos hname]
      exact ⟨_, rfl⟩
    · have hlater : ∃ entry ∈ rest, Text.trim entry.1 = "" := by
        obtain ⟨other, hother, hblank⟩ := h
        rcases List.mem_cons.mp hother with rfl | hrest
        · exact absurd hblank hname
        · exact ⟨other, hrest, hblank⟩
      obtain ⟨cause, hrest⟩ := ih hcolons hlater
      rw [if_neg hname, hrest]
      exact ⟨cause, rfl⟩

/-! ### Configurations with headers -/

section

variable {working : Location} {base path : Path} {content source : Section} {name other : String}
  {value : Value}

/-- A section with a value for a setting, at its place or at the end. -/
def setEntry (name : String) (value : Value) (content : Section) : Section :=
  Pairs.insert (.text name) value content

theorem entry?_cons (name : String) (entry : Scalar × Value) (rest : Section) :
    Value.entry? name (entry :: rest) =
      if entry.1 == .text name then some entry.2 else Value.entry? name rest := by
  obtain ⟨key, found⟩ := entry
  by_cases hkey : (key == Scalar.text name) = true <;> simp [Value.entry?, hkey]

theorem entry?_setEntry_self (name : String) (value : Value) (content : Section) :
    Value.entry? name (setEntry name value content) = some value := by
  rw [setEntry]
  induction content with
  | nil => rw [Pairs.insert, entry?_cons, if_pos (beq_text_iff.mpr rfl)]
  | cons entry rest ih =>
    by_cases hkey : (entry.1 == Scalar.text name) = true
    · rw [Pairs.insert, if_pos hkey, entry?_cons, if_pos hkey]
    · rw [Pairs.insert, if_neg hkey, entry?_cons, if_neg hkey, ih]

/-- The other settings stay. -/
theorem entry?_setEntry_of_ne (h : other ≠ name) (value : Value) (content : Section) :
    Value.entry? other (setEntry name value content) = Value.entry? other content := by
  have hne : ¬ (Scalar.text name == Scalar.text other) = true := by
    rw [beq_text_iff]
    exact fun heq => h (Scalar.text.inj heq).symm
  rw [setEntry]
  induction content with
  | nil => rw [Pairs.insert, entry?_cons, if_neg hne]
  | cons entry rest ih =>
    by_cases hkey : (entry.1 == Scalar.text name) = true
    · have hother : ¬ (entry.1 == Scalar.text other) = true := by rwa [beq_text_iff.mp hkey]
      rw [Pairs.insert, if_pos hkey, entry?_cons, if_neg hother, entry?_cons, if_neg hother]
    · rw [Pairs.insert, if_neg hkey, entry?_cons, entry?_cons, ih]

/-- The numbers of a section: the time to wait, the further attempts, and the pause between them. -/
def numbersOf (source : Section) : Checked (Int × Int × Float) := do
  let seconds ← positiveSetting "source" "timeout_seconds" 30 source
  let retries ← naturalSetting "source" "max_retries" 2 source
  let pause ← numberSetting "source" "retry_backoff_seconds" 0.5 source
  return (seconds, retries, pause)

/-- A section is looked at in stages: its sources, its headers, its paths, its numbers. -/
theorem sourceOf_eq_stages (hsource : sectionOf "source" content = .ok source) :
    sourceOf working base content = (do
      let (url, json, schema) ← namedSources source
      let headers ← headersSetting source
      let jsonPath ← pathSetting working base json
      let schemaPath ← pathSetting working base schema
      let (timeoutSeconds, maxRetries, retryBackoffSeconds) ← numbersOf source
      return { url, headers, jsonPath, schemaPath, timeoutSeconds, maxRetries,
               retryBackoffSeconds }) := by
  simp only [sourceOf_eq_namedSources hsource, numbersOf, bind_assoc, pure_bind]
  rfl

/-- Only the headers themselves depend on the headers. -/
theorem namedSources_setEntry (headers : Value) (source : Section) :
    namedSources (setEntry "headers" headers source) = namedSources source := by
  have htext : ∀ name, name ≠ "headers" →
      textSetting "source" name (setEntry "headers" headers source) =
        textSetting "source" name source := by
    intro name hname
    rw [textSetting, textSetting, setting?, setting?, entry?_setEntry_of_ne hname]
  rw [namedSources, namedSources, htext "url" (by decide), htext "json" (by decide),
    htext "schema" (by decide)]

theorem numbersOf_setEntry (headers : Value) (source : Section) :
    numbersOf (setEntry "headers" headers source) = numbersOf source := by
  have hentry : ∀ name, name ≠ "headers" →
      Value.entry? name (setEntry "headers" headers source) = Value.entry? name source :=
    fun name hname => entry?_setEntry_of_ne hname headers source
  rw [numbersOf, numbersOf, positiveSetting, positiveSetting, naturalSetting, naturalSetting,
    naturalSetting, naturalSetting, numberSetting, numberSetting, hentry _ (by decide),
    hentry _ (by decide), hentry _ (by decide)]

theorem headersSetting_setEntry (headers : Value) (source : Section) :
    headersSetting (setEntry "headers" headers source) =
      headersSetting [(.text "headers", headers)] := by
  have hsingle : Value.entry? "headers" [(.text "headers", headers)] = some headers :=
    entry?_setEntry_self "headers" headers []
  rw [headersSetting, headersSetting, setting?, setting?, entry?_setEntry_self, hsingle]

/-- The configuration with some content, in whose section for the source the headers have this
value. -/
def configuredWith (working : Location) (path : Path) (content source : Section) (headers : Value) :
    Checked Configuration :=
  Configuration.ofValue working path
    (.mapping (setEntry "source" (.mapping (setEntry "headers" headers source)) content))

/-- The same configuration with other headers. -/
def Configuration.replaceHeaders (configuration : Configuration) (headers : List Header) :
    Configuration :=
  { configuration with source := { configuration.source with headers } }

/-- A configuration with headers is looked at in stages. -/
theorem configuredWith_eq (working : Location) (path : Path) (content source : Section)
    (headers : Value) :
    configuredWith working path content source headers = (do
      let (url, json, schema) ← namedSources source
      let headers ← headersSetting [(.text "headers", headers)]
      let jsonPath ← pathSetting working path.parent json
      let schemaPath ← pathSetting working path.parent schema
      let (timeoutSeconds, maxRetries, retryBackoffSeconds) ← numbersOf source
      let output ← outputOf working path.parent content
      return { path := some path, output,
               source := { url, headers, jsonPath, schemaPath, timeoutSeconds, maxRetries,
                           retryBackoffSeconds } }) := by
  have hsection : sectionOf "source"
      (setEntry "source" (.mapping (setEntry "headers" headers source)) content) =
        .ok (setEntry "headers" headers source) := by
    rw [sectionOf, setting?, entry?_setEntry_self]
  have houtput : outputOf working path.parent
      (setEntry "source" (.mapping (setEntry "headers" headers source)) content) =
        outputOf working path.parent content := by
    rw [outputOf, outputOf, sectionOf, sectionOf, setting?, setting?,
      entry?_setEntry_of_ne (by decide)]
  simp only [configuredWith, Configuration.ofValue, sourceOf_eq_stages hsection, houtput,
    namedSources_setEntry, numbersOf_setEntry, headersSetting_setEntry, bind, Except.bind]
  rcases namedSources source with _ | ⟨url, json, schema⟩
  · rfl
  rcases headersSetting [(.text "headers", headers)] with _ | found
  · rfl
  dsimp only
  rcases pathSetting working path.parent json with _ | jsonPath
  · rfl
  rcases pathSetting working path.parent schema with _ | schemaPath
  · rfl
  rcases numbersOf source with _ | ⟨seconds, retries, pause⟩ <;> rfl

/-- Headers that are accepted change nothing but the headers. -/
theorem configuredWith_of_ok {value : Value}
    (h : headersSetting [(.text "headers", value)] = .ok headers) :
    configuredWith working path content source value =
      (configuredWith working path content source (.scalar .null)).map
        fun configuration => configuration.replaceHeaders headers := by
  have hnone : headersSetting [(.text "headers", .scalar .null)] = .ok [] := rfl
  simp only [configuredWith_eq, h, hnone, bind, Except.bind]
  rcases namedSources source with _ | ⟨url, json, schema⟩
  · rfl
  dsimp only
  rcases pathSetting working path.parent json with _ | jsonPath
  · rfl
  rcases pathSetting working path.parent schema with _ | schemaPath
  · rfl
  rcases numbersOf source with _ | ⟨seconds, retries, pause⟩
  · rfl
  rcases outputOf working path.parent content with _ | output <;> rfl

/-- Headers that are refused make every configuration one that is refused. -/
theorem configuredWith_of_error {value : Value}
    (h : ∃ error, headersSetting [(.text "headers", value)] = .error error) :
    ∃ error, configuredWith working path content source value = .error error := by
  obtain ⟨error, h⟩ := h
  simp only [configuredWith_eq, h, bind, Except.bind]
  rcases namedSources source with first | ⟨url, json, schema⟩
  · exact ⟨first, rfl⟩
  · exact ⟨error, rfl⟩

end

end Settings

end SchemaPages
