import SchemaPages.Proofs.Files.Tree
import SchemaPages.Proofs.Settings.Source

/-!
# Choices in a configuration file

A source, headers, a time to wait, an output directory and front matter are what a configuration
file and a request can both choose. A value is that of a file with given choices if its sections
hold them, in any order, and no other setting that counts (`Choices.WrittenAs`). Where texts are
trimmed and paths start at the root (`Choices.Plain`), reading such a file leads to the choices as
they stand, apart from the definition of the front matter, which is trimmed (`ofValue_eq`).
-/

namespace SchemaPages

open Files (Location Path)
open Introspection (Header SourceSettings)
open Yaml (Value)

/-! ### What a value is -/

namespace Yaml.Value

/-- The text that a value is. -/
def text? : Value → Option String
  | .scalar (.text text) => some text
  | _ => none

/-- The integer that a value is. -/
def integer? : Value → Option Int
  | .scalar (.integer n) => some n
  | _ => none

/-- The texts that a value is a list of. -/
def texts? : Value → Option (List String)
  | .sequence items => items.mapM text?
  | _ => none

/-- The entries of the mapping that a value is. -/
def entries? : Value → Option (List (Yaml.Scalar × Value))
  | .mapping entries => some entries
  | _ => none

theorem text?_eq_some_iff {value : Value} {text : String} :
    value.text? = some text ↔ value = .scalar (.text text) := by
  cases value with
  | scalar value => cases value <;> simp [text?]
  | _ => simp [text?]

theorem integer?_eq_some_iff {value : Value} {n : Int} :
    value.integer? = some n ↔ value = .scalar (.integer n) := by
  cases value with
  | scalar value => cases value <;> simp [integer?]
  | _ => simp [integer?]

theorem entries?_eq_some_iff {value : Value} {entries : List (Yaml.Scalar × Value)} :
    value.entries? = some entries ↔ value = .mapping entries := by
  cases value <;> simp [entries?]

theorem eq_of_mapM_text? {items : List Value} {texts : List String}
    (h : items.mapM text? = some texts) :
    items = texts.map fun text => .scalar (.text text) := by
  induction items generalizing texts with
  | nil =>
    cases h
    rfl
  | cons item rest ih =>
    simp only [List.mapM_cons, Option.bind_eq_bind, Option.bind_eq_some_iff, Option.pure_def,
      Option.some.injEq] at h
    obtain ⟨text, htext, others, hrest, rfl⟩ := h
    rw [text?_eq_some_iff.mp htext, ih hrest]
    rfl

theorem eq_of_texts? {value : Value} {texts : List String} (h : value.texts? = some texts) :
    value = .sequence (texts.map fun text => .scalar (.text text)) := by
  cases value with
  | sequence items => rw [eq_of_mapM_text? h]
  | _ => cases h

end Yaml.Value

/-! ### Choices -/

/-- A way to name a source. -/
inductive SourceKind where
  | url
  | json
  | schema
  deriving DecidableEq, Repr

/-- The name of the setting for a source. -/
def SourceKind.setting : SourceKind → String
  | .url => "url"
  | .json => "json"
  | .schema => "schema"

/-- What can be chosen in a configuration file and in a request. -/
structure Choices where
  kind : SourceKind
  source : String
  headers : List String
  timeoutSeconds : Int
  outDir : Option String
  frontMatter : String

namespace Choices

/-- The source, if it is of this kind. -/
def source? (choices : Choices) (kind : SourceKind) : Option String :=
  if choices.kind = kind then some choices.source else none

/-- Whether texts are trimmed, paths start at the root, and the time to wait is positive. -/
structure Plain (choices : Choices) : Prop where
  source : Text.Trimmed choices.source.toList
  source_ne_empty : choices.source ≠ ""
  path : choices.kind ≠ .url → (Path.ofString choices.source).isAbsolute
  timeoutSeconds : 1 ≤ choices.timeoutSeconds
  outDir : ∀ text ∈ choices.outDir,
    Text.Trimmed text.toList ∧ (Path.ofString text).isAbsolute

/-- Whether the sections of a configuration hold the choices, and the settings that are no choices
are left out. -/
structure InSections (choices : Choices) (source output : Settings.Section) : Prop where
  named : ∀ kind : SourceKind,
    (Settings.setting? kind.setting source).map Value.text? = (choices.source? kind).map some
  headers : (Settings.setting? "headers" source).bind Value.texts? = some choices.headers
  timeoutSeconds : ∃ value ∈ Value.entry? "timeout_seconds" source,
    value.integer? = some choices.timeoutSeconds
  maxRetries : Value.entry? "max_retries" source = none
  retryBackoffSeconds : Value.entry? "retry_backoff_seconds" source = none
  outDir : (Settings.setting? "out_dir" output).map Value.text? = choices.outDir.map some
  frontMatter :
    (Settings.setting? "front_matter" output).map Value.text? = some (some choices.frontMatter)

/-- Whether a value is that of a configuration file with the choices, in any order. -/
def WrittenAs (choices : Choices) (value : Value) : Prop :=
  ∃ content ∈ value.entries?,
    ∃ source ∈ (Settings.setting? "source" content).bind Value.entries?,
      ∃ output ∈ (Settings.setting? "output" content).bind Value.entries?,
        choices.InSections source output

instance (choices : Choices) (source output : Settings.Section) :
    Decidable (choices.InSections source output) :=
  decidable_of_iff
    ((∀ kind ∈ [SourceKind.url, .json, .schema],
        (Settings.setting? kind.setting source).map Value.text? =
          (choices.source? kind).map some) ∧
      (Settings.setting? "headers" source).bind Value.texts? = some choices.headers ∧
      (∃ value ∈ Value.entry? "timeout_seconds" source,
        value.integer? = some choices.timeoutSeconds) ∧
      Value.entry? "max_retries" source = none ∧
      Value.entry? "retry_backoff_seconds" source = none ∧
      (Settings.setting? "out_dir" output).map Value.text? = choices.outDir.map some ∧
      (Settings.setting? "front_matter" output).map Value.text? = some (some choices.frontMatter))
    ⟨fun ⟨hnamed, hheaders, htime, hretries, hbackoff, hdirectory, hfront⟩ =>
      ⟨fun kind => hnamed kind (by cases kind <;> decide), hheaders, htime, hretries, hbackoff,
        hdirectory, hfront⟩,
    fun h => ⟨fun kind _ => h.named kind, h.headers, h.timeoutSeconds, h.maxRetries,
      h.retryBackoffSeconds, h.outDir, h.frontMatter⟩⟩

instance (choices : Choices) (value : Value) : Decidable (choices.WrittenAs value) :=
  inferInstanceAs (Decidable (∃ content ∈ _, ∃ source ∈ _, ∃ output ∈ _, _))

/-- The settings of the source that the choices mean, with their headers. -/
def settings (choices : Choices) (headers : List Header) : SourceSettings :=
  { url := choices.source? .url
    headers
    jsonPath := (choices.source? .json).map Path.ofString
    schemaPath := (choices.source? .schema).map Path.ofString
    timeoutSeconds := choices.timeoutSeconds }

/-- The configuration of a file with the choices and their headers. -/
def configuration (choices : Choices) (path : Path) (headers : List Header) :
    Settings.Configuration :=
  { path := some path
    source := choices.settings headers
    output :=
      { outDir := choices.outDir.map Path.ofString
        frontMatter := Settings.trimmed? choices.frontMatter } }

end Choices

/-! ### Choices in a file -/

namespace Settings

variable {choices : Choices} {working : Location} {base : Path} {content source output : Section}

/-- A text that is trimmed is read as it stands. -/
theorem trimmed?_of_trimmed {text : String} (h : Text.Trimmed text.toList) (hne : text ≠ "") :
    trimmed? text = some text := by
  rw [trimmed?_eq_some_iff, Text.trim, Text.trimChars_of_trimmed h, String.ofList_toList]
  exact ⟨rfl, hne⟩

theorem textSetting_eq {label name : String} (text : Option String)
    (h : (setting? name content).map Value.text? = text.map some) :
    textSetting label name content = .ok (text.bind trimmed?) := by
  rw [textSetting]
  cases hfound : setting? name content with
  | none =>
    rw [hfound] at h
    cases text <;> cases h
    rfl
  | some value =>
    rw [hfound] at h
    cases text with
    | none => cases h
    | some text =>
      obtain rfl := Value.text?_eq_some_iff.mp (Option.some.inj h)
      rfl

theorem resolvedPath_of_isAbsolute {text : String} (h : (Path.ofString text).isAbsolute) :
    resolvedPath working base text = .ok (Path.ofString text) := by
  rw [resolvedPath, if_pos h]

/-- Where all paths start at the root, they are taken as they stand. -/
theorem pathSetting_of_isAbsolute {text : Option String}
    (h : ∀ path ∈ text, (Path.ofString path).isAbsolute) :
    pathSetting working base text = .ok (text.map Path.ofString) := by
  cases text with
  | none => rfl
  | some text =>
    rw [pathSetting, resolvedPath_of_isAbsolute (h text rfl)]
    rfl

theorem ne_empty_of_isAbsolute {text : String} (h : (Path.ofString text).isAbsolute) :
    text ≠ "" := by
  rintro rfl
  revert h
  decide

theorem sectionOf_eq {name : String} {entries : Section}
    (h : (setting? name content).bind Value.entries? = some entries) :
    sectionOf name content = .ok entries := by
  obtain ⟨value, hfound, hentries⟩ := Option.bind_eq_some_iff.mp h
  rw [sectionOf, hfound, Value.entries?_eq_some_iff.mp hentries]

theorem textSetting_source (hplain : choices.Plain) (h : choices.InSections source output)
    (kind : SourceKind) :
    textSetting "source" kind.setting source = .ok (choices.source? kind) := by
  rw [textSetting_eq _ (h.named kind), Choices.source?]
  split
  · rw [Option.bind_some, trimmed?_of_trimmed hplain.source hplain.source_ne_empty]
  · rfl

theorem positiveSetting_timeoutSeconds (hplain : choices.Plain)
    (h : choices.InSections source output) (default : Int) :
    positiveSetting "source" "timeout_seconds" default source = .ok choices.timeoutSeconds := by
  have hpos := hplain.timeoutSeconds
  have hnatural : naturalSetting "source" "timeout_seconds" default source =
      .ok choices.timeoutSeconds := by
    obtain ⟨value, hfound, hinteger⟩ := h.timeoutSeconds
    rw [naturalSetting, hfound, Value.integer?_eq_some_iff.mp hinteger]
    exact if_neg (by omega)
  rw [positiveSetting, hnatural]
  exact if_neg (by omega)

/-- Only a source that is a path is resolved, and the path of the choices starts at the root. -/
theorem pathSetting_source (hplain : choices.Plain) (working : Location) (base : Path)
    {kind : SourceKind} (hkind : kind ≠ .url) :
    pathSetting working base (choices.source? kind) =
      .ok ((choices.source? kind).map Path.ofString) := by
  refine pathSetting_of_isAbsolute fun path hpath => ?_
  rw [Choices.source?] at hpath
  split at hpath
  next heq =>
    cases hpath
    exact hplain.path (heq ▸ hkind)
  · cases hpath

/-- The source of a file is that of the choices. -/
theorem sourceOf_eq (hplain : choices.Plain)
    (hsection : (setting? "source" content).bind Value.entries? = some source)
    (h : choices.InSections source output) :
    sourceOf working base content =
      ((choices.headers.mapM Header.parse).map choices.settings).mapError fun cause =>
        .reported (.headerFormat cause) := by
  have hurl := textSetting_source hplain h .url
  have hjson := textSetting_source hplain h .json
  have hschema := textSetting_source hplain h .schema
  have hone : ¬ 1 < ([choices.source? .url, choices.source? .json,
      choices.source? .schema].filter Option.isSome).length := by
    cases hkind : choices.kind <;> simp [Choices.source?, hkind]
  have hheaders : headersSetting source = (choices.headers.mapM Header.parse).mapError fun cause =>
      .reported (.headerFormat cause) := by
    obtain ⟨value, hfound, htexts⟩ := Option.bind_eq_some_iff.mp h.headers
    rw [headersSetting, hfound, Value.eq_of_texts? htexts]
    exact headersOfItems_texts choices.headers
  have hseconds := positiveSetting_timeoutSeconds hplain h
  have hretries : naturalSetting "source" "max_retries" 2 source = .ok 2 := by
    rw [naturalSetting, h.maxRetries]
  have hbackoff : numberSetting "source" "retry_backoff_seconds" 0.5 source = .ok 0.5 := by
    rw [numberSetting, h.retryBackoffSeconds]
  simp only [SourceKind.setting] at hurl hjson hschema
  have hjsonPath := pathSetting_source hplain working base (by decide : SourceKind.json ≠ .url)
  have hschemaPath := pathSetting_source hplain working base (by decide : SourceKind.schema ≠ .url)
  simp only [sourceOf, sectionOf_eq hsection, hurl, hjson, hschema, hheaders, hseconds, hretries,
    hbackoff, hone, hjsonPath, hschemaPath, bind, Except.bind, if_false]
  cases choices.headers.mapM Header.parse <;> rfl

/-- The output of a file is that of the choices, with the definition of its front matter trimmed. -/
theorem outputOf_eq (hplain : choices.Plain)
    (hsection : (setting? "output" content).bind Value.entries? = some output)
    (h : choices.InSections source output) :
    outputOf working base content = .ok
      { outDir := choices.outDir.map Path.ofString
        frontMatter := trimmed? choices.frontMatter } := by
  have htrimmed : choices.outDir.bind trimmed? = choices.outDir := by
    cases hgiven : choices.outDir with
    | none => rfl
    | some text =>
      obtain ⟨htrimmed, habsolute⟩ := hplain.outDir text hgiven
      exact trimmed?_of_trimmed htrimmed (ne_empty_of_isAbsolute habsolute)
  have hdirectory : pathSetting working base choices.outDir =
      .ok (choices.outDir.map Path.ofString) :=
    pathSetting_of_isAbsolute fun text htext => (hplain.outDir text htext).2
  have hfront : textSetting "output" "front_matter" output = .ok (trimmed? choices.frontMatter) :=
    textSetting_eq (some choices.frontMatter) h.frontMatter
  simp only [outputOf, sectionOf_eq hsection, textSetting_eq _ h.outDir, hfront, htrimmed,
    hdirectory, bind, Except.bind]
  rfl

/-- The configuration of a file with the choices; it is refused if a header is malformed. -/
theorem ofValue_eq (hplain : choices.Plain) {path : Path} {value : Value}
    (h : choices.WrittenAs value) :
    Configuration.ofValue working path value = ((choices.headers.mapM Header.parse).map
      (choices.configuration path)).mapError fun cause => .reported (.headerFormat cause) := by
  obtain ⟨content, hcontent, source, hsource, output, houtput, hsections⟩ := h
  obtain rfl := Value.entries?_eq_some_iff.mp hcontent
  simp only [Configuration.ofValue, sourceOf_eq hplain hsource hsections,
    outputOf_eq hplain houtput hsections, bind, Except.bind]
  cases choices.headers.mapM Header.parse <;> rfl

/-- A file that can be read is decoded, and what it holds is checked; nothing changes by that. -/
theorem exec_load_of_read {file : String} {bytes : Text.Bytes} {before : Host.State}
    (hread : before.files.read before.working (Path.ofString file) = .ok bytes) :
    (Configuration.load file).exec before =
      (match Introspection.textOfBytes bytes with
        | .ok text => Configuration.ofText before.working (Path.ofString file) text
        | .error fault => .error (.broken (.notUtf8 fault)), before) := by
  have hthere : (isThere (Path.ofString file) : Host.Attempt (Host.Failed Error) Bool).exec before =
      (.ok true, before) := by
    rw [isThere, Host.Attempt.exec_request_bind]
    simp only [Host.State.answer, Files.Tree.status_of_read hread]
    rfl
  rw [Configuration.load, Host.Attempt.exec_bind_of_ok hthere]
  simp only [Bool.not_true, Bool.false_eq_true, if_false, Host.Attempt.exec_request_bind,
    Host.State.answer, hread]
  rw [Host.Attempt.exec_bind_of_ok (Host.Attempt.exec_check_eq_ok_iff.mpr ⟨rfl, rfl⟩)]
  rcases Introspection.textOfBytes bytes with fault | text
  · rfl
  · rw [Host.Attempt.exec_bind_of_ok (Host.Attempt.exec_check_eq_ok_iff.mpr ⟨rfl, rfl⟩),
      Host.Attempt.exec_check]
    dsimp only
    cases Configuration.ofText before.working (Path.ofString file) text <;> rfl

/-- A file with a text is loaded, and nothing changes by that. -/
theorem exec_load {file text : String} {bytes : Text.Bytes} {before : Host.State}
    (hread : before.files.read before.working (Path.ofString file) = .ok bytes)
    (htext : Introspection.textOfBytes bytes = .ok text) :
    (Configuration.load file).exec before =
      (Configuration.ofText before.working (Path.ofString file) text, before) := by
  rw [exec_load_of_read hread, htext]

end Settings

end SchemaPages
