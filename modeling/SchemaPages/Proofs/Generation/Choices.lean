import SchemaPages.Proofs.FrontMatter.Definition
import SchemaPages.Proofs.Generation.Source
import SchemaPages.Proofs.Settings.Choices

/-!
# Choices in a file and in a request

A configuration file and a request are read by functions of their own: the settings of a file are
trimmed, its paths are resolved and its headers are checked when it is read, while the values of a
request are taken as they stand and checked when the two are combined. With trimmed texts and paths
from the root nothing of this shows: a file and a request with the same choices lead to the same
settings of the source and the same entries of the front matter, or both are refused
(`exec_readPlan_alike`), and so their runs do the same (`run_file_eq_run_options`).
-/

namespace SchemaPages

open Files (Path)
open Introspection (Header SourceSettings)
open Yaml (Value)

/-- The request with the choices. -/
def Choices.request (choices : Choices) : Generation.Request :=
  { url := choices.source? .url
    jsonPath := choices.source? .json
    schemaPath := choices.source? .schema
    headers := choices.headers
    outDir := choices.outDir
    frontMatter := some choices.frontMatter
    timeoutSeconds := some choices.timeoutSeconds }

namespace Generation

open Host (Attempt Failed Reply State)
open Settings (Configuration)

variable {choices : Choices} {plan other : Plan} {file text : String} {bytes : Text.Bytes}
  {value : Value} {before : State}

/-! ### Choices in a request -/

/-- A request that only names a configuration file takes over its settings. -/
theorem mergeSource_file (file : String) (settings : SourceSettings) :
    ({ configPath := some file } : Request).mergeSource settings = .ok settings := by
  have hsources : ({ configPath := some file } : Request).sources = [] := rfl
  have hheaders : ([] : List String).mapM Header.parse = .ok [] := rfl
  rw [mergeSource_eq, hsources, hheaders, Request.withSource, hsources]
  simp

theorem nonEmpty?_source? (hplain : choices.Plain) (kind : SourceKind) :
    nonEmpty? (choices.source? kind) = choices.source? kind := by
  rw [Choices.source?]
  split
  · exact nonEmpty?_some hplain.source_ne_empty
  · rfl

/-- The settings of a request are those of the choices. -/
theorem mergeSource_request (hplain : choices.Plain) :
    choices.request.mergeSource {} =
      ((choices.headers.mapM Header.parse).map choices.settings).mapError .header := by
  have hsources : choices.request.sources = [choices.source] := by
    simp only [Request.sources, Choices.request, List.filterMap_cons, List.filterMap_nil,
      nonEmpty?_source? hplain]
    cases hkind : choices.kind <;> simp [Choices.source?, hkind]
  have hpos : ¬ ∃ seconds ∈ some choices.timeoutSeconds, seconds ≤ 0 := by
    rintro ⟨_, ⟨⟩, hle⟩
    have := hplain.timeoutSeconds
    omega
  rw [mergeSource_eq, hsources, if_neg (by simp), Request.withSource, hsources]
  simp only [Choices.request, nonEmpty?_source? hplain]
  cases choices.headers.mapM Header.parse with
  | error cause => rfl
  | ok headers =>
    simp only [hpos, if_false]
    rfl

theorem mergeOutput_request (hplain : choices.Plain) :
    choices.request.mergeOutput {} =
      { outDir := choices.outDir.map Path.ofString, frontMatter := some choices.frontMatter } := by
  have hdirectory : nonEmpty? choices.outDir = choices.outDir := by
    cases hgiven : choices.outDir with
    | none => rfl
    | some text =>
      exact nonEmpty?_some (Settings.ne_empty_of_isAbsolute (hplain.outDir text hgiven).2)
  rw [Request.mergeOutput, Choices.request, hdirectory]
  cases choices.outDir <;> rfl

/-- The definition of the front matter has the same entries, whether it is trimmed or not. -/
theorem toOption_frontMatterEntries_trimmed? (text : String) :
    (frontMatterEntries (Settings.trimmed? text)).toOption =
      (frontMatterEntries (some text)).toOption := by
  rw [frontMatterEntries_some, ← FrontMatter.toOption_parse_trim]
  cases htrimmed : Settings.trimmed? text with
  | none =>
    rw [Settings.trimmed?_eq_none_iff.mp htrimmed]
    decide
  | some kept =>
    rw [(Settings.trimmed?_eq_some_iff.mp htrimmed).1, frontMatterEntries_some]

/-! ### Runs -/

/-- Whether two plans ask the same source, and write the same documents to the same place. -/
structure Plan.Alike (plan other : Plan) : Prop where
  source : plan.source = other.source
  entries : plan.entries = other.entries
  outDir : plan.output.outDir = other.output.outDir

theorem publish_eq_of_alike (h : plan.Alike other) : publish plan = publish other := by
  funext schema
  rw [publish, publish, h.entries, h.outDir]

theorem exec_loadConfiguration_file (hplain : choices.Plain)
    (hread : before.files.read before.working (Path.ofString file) = .ok bytes)
    (htext : Introspection.textOfBytes bytes = .ok text)
    (hload : Yaml.load Settings.settingDepth text = .ok value) (hvalue : choices.WrittenAs value) :
    (loadConfiguration (some file)).exec before =
      (((choices.headers.mapM Header.parse).map
        (choices.configuration (Path.ofString file))).mapError fun cause =>
          .reported (.configuration (.headerFormat cause)), before) := by
  have hvalue' : Configuration.ofText before.working (Path.ofString file) text =
      Configuration.ofValue before.working (Path.ofString file) value := by
    rw [Configuration.ofText, hload]
    rfl
  rw [loadConfiguration, Attempt.within, Attempt.exec_adapt, Settings.exec_load hread htext,
    hvalue', Settings.ofValue_eq hplain hvalue]
  cases choices.headers.mapM Header.parse <;> rfl

/-- Settings of a source that are settled are part of the plan if the front matter is understood. -/
theorem settle_of_mergeSource {request : Request} {configuration : Configuration}
    {settings : SourceSettings} (h : request.mergeSource configuration.source = .ok settings) :
    settle request configuration =
      match frontMatterEntries (request.mergeOutput configuration.output).frontMatter with
      | .error error => .error (.frontMatter error)
      | .ok entries => .ok ⟨settings, request.mergeOutput configuration.output, entries⟩ := by
  rw [settle_eq]
  cases frontMatterEntries (request.mergeOutput configuration.output).frontMatter <;> simp only [h]

/-- With headers that are understood, a file and a request lead to plans that are alike, or the
front matter of both is refused. -/
theorem settle_alike (hplain : choices.Plain) {headers : List Header}
    (hheaders : choices.headers.mapM Header.parse = .ok headers) (file : String) (path : Path) :
    (∃ error error',
      settle { configPath := some file } (choices.configuration path headers) = .error error ∧
        settle choices.request {} = .error error') ∨
      ∃ plan other,
        settle { configPath := some file } (choices.configuration path headers) = .ok plan ∧
          settle choices.request {} = .ok other ∧ plan.Alike other := by
  have hrequest : choices.request.mergeSource {} = .ok (choices.settings headers) := by
    rw [mergeSource_request hplain, hheaders]
    rfl
  have hfile := mergeSource_file file (choices.settings headers)
  have hsame := toOption_frontMatterEntries_trimmed? choices.frontMatter
  have houtput : ({ configPath := some file } : Request).mergeOutput
      (choices.configuration path headers).output = (choices.configuration path headers).output :=
    rfl
  rw [settle_of_mergeSource hfile, settle_of_mergeSource hrequest, houtput,
    mergeOutput_request hplain, Choices.configuration]
  dsimp only
  cases htrimmed : frontMatterEntries (Settings.trimmed? choices.frontMatter) with
  | error error =>
    cases hgiven : frontMatterEntries (some choices.frontMatter) with
    | error error' => exact .inl ⟨_, _, rfl, rfl⟩
    | ok entries => simp [htrimmed, hgiven, Except.toOption] at hsame
  | ok entries =>
    cases hgiven : frontMatterEntries (some choices.frontMatter) with
    | error error => simp [htrimmed, hgiven, Except.toOption] at hsame
    | ok entries' =>
      obtain rfl : entries = entries' := by simpa [htrimmed, hgiven, Except.toOption] using hsame
      exact .inr ⟨_, _, rfl, rfl, rfl, rfl, rfl⟩

/-- Both ways lead to plans that are alike, or are refused. -/
theorem exec_readPlan_alike (hplain : choices.Plain)
    (hread : before.files.read before.working (Path.ofString file) = .ok bytes)
    (htext : Introspection.textOfBytes bytes = .ok text)
    (hload : Yaml.load Settings.settingDepth text = .ok value) (hvalue : choices.WrittenAs value) :
    (∃ error error', (readPlan { configPath := some file }).exec before =
        (.error (.reported error), before) ∧
        (readPlan choices.request).exec before = (.error (.reported error'), before)) ∨
      ∃ plan other, (readPlan { configPath := some file }).exec before = (.ok plan, before) ∧
        (readPlan choices.request).exec before = (.ok other, before) ∧ plan.Alike other := by
  have hconfigured := exec_loadConfiguration_file hplain hread htext hload hvalue
  have hdefault : (loadConfiguration choices.request.configPath).exec before = (.ok {}, before) :=
    rfl
  cases hheaders : choices.headers.mapM Header.parse with
  | error cause =>
    -- One way refuses the header when the file is read, the other when the request is looked at.
    rw [hheaders] at hconfigured
    refine .inl ⟨.configuration (.headerFormat cause), .request (.header cause),
      Attempt.exec_bind_of_error hconfigured _, ?_⟩
    rw [exec_readPlan hdefault, settle_eq, mergeSource_request hplain, hheaders]
    rfl
  | ok headers =>
    rw [hheaders] at hconfigured
    have hsettled : (readPlan { configPath := some file }).exec before =
        ((settle { configPath := some file }
          (choices.configuration (Path.ofString file) headers)).mapError .reported, before) :=
      exec_readPlan hconfigured
    rw [exec_readPlan hdefault, hsettled]
    obtain ⟨error, error', hfile, hrequest⟩ | ⟨plan, other, hfile, hrequest, halike⟩ :=
      settle_alike hplain hheaders file (Path.ofString file)
    · exact .inl ⟨error, error', by rw [hfile]; rfl, by rw [hrequest]; rfl⟩
    · exact .inr ⟨plan, other, by rw [hfile]; rfl, by rw [hrequest]; rfl, halike⟩

/-- **Files and options are interchangeable.** Take choices of trimmed texts and of paths from the
root, a configuration file that holds them and nothing else that counts, and a request that names
only this file; and take a request with the same choices that names no file. From the same state,
with a client that does not break, both runs end in the same state, with the same messages sent and
the same files; and either both succeed with the same outcome, or both report an error. -/
theorem run_file_eq_run_options (hplain : choices.Plain)
    (hread : before.files.read before.working (Path.ofString file) = .ok bytes)
    (htext : Introspection.textOfBytes bytes = .ok text)
    (hload : Yaml.load Settings.settingDepth text = .ok value) (hvalue : choices.WrittenAs value)
    (hreplies : ∀ fault, Reply.broken fault ∉ before.replies) :
    (∃ outcome after, (run { configPath := some file }).exec before = (.ok outcome, after) ∧
        (run choices.request).exec before = (.ok outcome, after)) ∨
      ∃ error error' after,
        (run { configPath := some file }).exec before = (.error (.reported error), after) ∧
        (run choices.request).exec before = (.error (.reported error'), after) := by
  obtain ⟨error, error', hfile, hrequest⟩ | ⟨plan, other, hfile, hrequest, halike⟩ :=
    exec_readPlan_alike hplain hread htext hload hvalue
  · exact .inr ⟨error, error', before, (exec_run_of_unsettled hfile).1,
      (exec_run_of_unsettled hrequest).1⟩
  · rw [exec_run_of_readPlan hfile, exec_run_of_readPlan hrequest, halike.source,
      publish_eq_of_alike halike]
    have hreports : ((Introspection.loadSchema other.source).within Error.load >>=
        publish other).Reports before :=
      (Introspection.reports_loadSchema other.source hreplies).within.bind fun schema ready _ =>
        reports_publish other schema ready
    rcases hrun : ((Introspection.loadSchema other.source).within Error.load >>=
      publish other).exec before with ⟨failed | outcome, after⟩
    · cases failed with
      | reported error => exact .inr ⟨error, error, after, rfl, rfl⟩
      | broken cause => exact (hreports _ _ hrun).elim
    · exact .inl ⟨outcome, after, rfl, rfl⟩

/-- A configuration file with its sections and settings in another order than the choices. -/
def petFile : String :=
  "output:\n  front_matter: ' a:b ;'\n  out_dir: /pages\n" ++
    "source:\n  timeout_seconds: 5\n  headers: [' Token : a:b ']\n  url: http://api\n"

/-- The choices of the file. -/
def petChoices : Choices :=
  { kind := .url, source := "http://api", headers := [" Token : a:b "], timeoutSeconds := 5
    outDir := some "/pages", frontMatter := " a:b ;" }

/-- A host with the file, and with a server that cannot be reached at first. -/
def petHost : State :=
  { files := ⟨[(["pets.yml"], .file (Text.Utf8.encode petFile))]⟩, working := [], input := []
    replies := [.lost "reset", .response 200 ("\x7b\"data\":\x7b\"__schema\":\x7b\"types\":[" ++
      "\x7b\"kind\":\"ENUM\",\"name\":\"Size\"\x7d]\x7d\x7d\x7d")]
    sent := [], pauses := [], notes := [] }

/-- A file whose settings stand in another order, with blanks that matter to one of the ways only,
and a request with the same values send the same two messages and write the same file. -/
theorem run_file_eq_run_options_pets :
    ∃ outcome after, (run { configPath := some "pets.yml" }).exec petHost = (.ok outcome, after) ∧
      (run petChoices.request).exec petHost = (.ok outcome, after) ∧
      outcome.writtenPaths = [⟨.root, ["pages", "enums.md"]⟩] ∧ after.sent.length = 2 := by
  have hplain : petChoices.Plain := ⟨by decide, by decide, by decide, by decide, by decide⟩
  have hread : petHost.files.read petHost.working (Path.ofString "pets.yml") =
      .ok (Text.Utf8.encode petFile) := rfl
  have htext : Introspection.textOfBytes (Text.Utf8.encode petFile) = .ok petFile := by
    decide +kernel
  have hwritten : (Yaml.load Settings.settingDepth petFile).toOption.any
      (fun value => petChoices.WrittenAs value) := by decide +kernel
  have hdone : (((run petChoices.request).exec petHost).1.toOption.map Outcome.writtenPaths,
      ((run petChoices.request).exec petHost).2.sent.length) =
        (some [⟨.root, ["pages", "enums.md"]⟩], 2) := by decide +kernel
  rcases hload : Yaml.load Settings.settingDepth petFile with fault | value
  · simp [hload, Except.toOption] at hwritten
  have hvalue : petChoices.WrittenAs value := by simpa [hload, Except.toOption] using hwritten
  obtain ⟨outcome, after, hfile, hrequest⟩ | ⟨error, error', after, -, hrequest⟩ :=
    run_file_eq_run_options hplain hread htext hload hvalue (by simp [petHost])
  · simp only [hrequest, Except.toOption, Option.map_some, Prod.mk.injEq, Option.some.injEq]
      at hdone
    exact ⟨outcome, after, hfile, hrequest, hdone⟩
  · simp [hrequest, Except.toOption] at hdone

end Generation

end SchemaPages
