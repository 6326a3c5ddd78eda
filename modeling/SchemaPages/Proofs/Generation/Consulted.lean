import SchemaPages.Proofs.Files.Shape
import SchemaPages.Proofs.Generation.Choices

/-!
# What a run consults

A run has one source: that of the request, else the configured one, else the standard input
(`source_of_combines`). All that it asks of its host is about the configuration file, about this
source, or about the output, in this order. So the outcome of a run cannot depend on the other
sources. Two hosts that differ only there give the same answers: the plan is the same, as a source
of the request replaces the configured one as a whole (`readPlan_alike`), the schema is
the same, and what is written depends on which files there are, not on what is in them
(`AboutOutput.respects`).
-/

namespace SchemaPages

namespace Introspection

/-- The source that settings name. -/
def SourceSettings.named? (settings : SourceSettings) : Option Source :=
  (settings.url.map .server).or
    ((settings.jsonPath.map .file).or (settings.schemaPath.map .definitions))

theorem source_eq {settings : SourceSettings} (h : settings.url ≠ some "") :
    settings.source = settings.named?.getD .input := by
  rw [SourceSettings.source, SourceSettings.named?]
  rcases hurl : settings.url with _ | url
  · cases settings.jsonPath <;> cases settings.schemaPath <;> rfl
  · have hne : url ≠ "" := fun hempty => h (hempty ▸ hurl)
    have hkept : (some url).filter (· ≠ "") = some url := by simp [hne]
    rw [hkept]
    rfl

end Introspection

namespace Generation

open Files (Location Path Tree)
open Host (Asked Attempt Failed Leaves Reply Respects State)
open Introspection (AboutSource Source SourceSettings)
open Settings (Configuration)

variable {request : Request} {plan : Plan} {schema : Schema} {settings configured : SourceSettings}
  {configuration : Configuration} {configPath : Option String} {asked : Asked}
  {files files' : Tree} {before after other ready : State}

/-! ### The source -/

/-- The source that a request names. -/
def Request.source? (request : Request) : Option Source :=
  ((nonEmpty? request.url).map .server).or
    (((nonEmpty? request.jsonPath).map fun text => .file (Path.ofString text)).or
      ((nonEmpty? request.schemaPath).map fun text => .definitions (Path.ofString text)))

theorem source?_eq_none_iff : request.source? = none ↔ request.sources = [] := by
  simp only [Request.source?, Request.sources, List.filterMap_cons, List.filterMap_nil]
  cases nonEmpty? request.url <;> cases nonEmpty? request.jsonPath <;>
    cases nonEmpty? request.schemaPath <;> simp

/-- The source of the request comes first, then the configured one, then the standard input. -/
theorem source_of_combines (hurl : settings.url ≠ some "")
    (h : request.Combines configured settings) :
    settings.source = (request.source?.or configured.named?).getD .input := by
  rw [Introspection.source_eq hurl]
  by_cases hnamed : request.sources = []
  · obtain ⟨hurl, hjson, hschema⟩ := h.kept hnamed
    rw [source?_eq_none_iff.mpr hnamed, Option.none_or, SourceSettings.named?,
      SourceSettings.named?, hurl, hjson, hschema]
  · obtain ⟨hurl, hjson, hschema⟩ := h.requested hnamed
    have hsource : settings.named? = request.source? := by
      rw [SourceSettings.named?, hurl, hjson, hschema, Option.map_map, Option.map_map]
      rfl
    obtain ⟨source, hsome⟩ := Option.ne_none_iff_exists'.mp (mt source?_eq_none_iff.mp hnamed)
    rw [hsource, hsome, Option.some_or]

/-- A request with a source of its own is combined in the same way with any configured source. -/
theorem mergeSource_of_sources (hnamed : request.sources ≠ []) (settings : SourceSettings)
    (url : Option String) (jsonPath schemaPath : Option Path) :
    request.mergeSource { settings with url, jsonPath, schemaPath } =
      request.mergeSource settings := by
  rw [mergeSource_eq, mergeSource_eq]
  simp only [Request.withSource, List.isEmpty_iff, hnamed, if_false]

/-! ### The configuration -/

/-- Whether two hosts look alike to those who only ask for the configuration. -/
structure ConfiguredAlike (configPath : Option String) (state other : State) : Prop where
  working : state.working = other.working
  shape : state.files.SameShape other.files
  content : ∀ text, configPath = some text →
    state.files.read state.working (Path.ofString text) =
      other.files.read other.working (Path.ofString text)

theorem AboutConfiguration.respects (h : AboutConfiguration configPath asked) :
    Respects (ConfiguredAlike configPath) asked := by
  intro state other halike
  obtain ⟨text, hpath, rfl | rfl | rfl⟩ := h
  · refine ⟨?_, halike⟩
    simp only [State.answer, ← halike.working, halike.shape.status_eq]
  · exact ⟨halike.working, halike⟩
  · exact ⟨halike.content text hpath, halike⟩

/-- Settling asks what loading the configuration asks. -/
theorem asked_readPlan (request : Request) (before : State) :
    (readPlan request).asked before = (loadConfiguration request.configPath).asked before := by
  rw [readPlan, Attempt.asked_bind]
  rcases (loadConfiguration request.configPath).exec before with ⟨_ | configuration, after⟩
  · exact List.append_nil _
  · simp only [Attempt.asked_check, List.append_nil]

/-- A configuration that can be loaded is looked for and then read. -/
theorem asked_load {text : String}
    (h : (Configuration.load text).exec before = (.ok configuration, after)) :
    (Configuration.load text).asked before = [⟨_, .status (Path.ofString text)⟩,
      ⟨_, .workingDirectory⟩, ⟨_, .read (Path.ofString text)⟩] := by
  rw [Configuration.load, Attempt.exec_bind_eq_ok_iff] at h
  obtain ⟨there, middle, hthere, h⟩ := h
  have hlooked : (Settings.isThere (Path.ofString text) :
      Attempt (Failed Settings.Error) Bool).asked before = [⟨_, .status (Path.ofString text)⟩] := by
    rw [Settings.isThere, Attempt.asked_request_bind]
    split <;> rfl
  rw [Configuration.load, Attempt.asked_bind, hthere, hlooked, List.singleton_append]
  split at h
  · cases h
  next hfound =>
    simp only [Attempt.exec_request_bind] at h
    simp only [if_neg hfound, Attempt.asked_request_bind]
    obtain ⟨bytes, _, hbytes, h⟩ := Attempt.exec_bind_eq_ok_iff.mp h
    obtain ⟨content, _, hcontent, -⟩ := Attempt.exec_bind_eq_ok_iff.mp h
    simp only [Attempt.asked_bind, Attempt.asked_check, hbytes, hcontent, List.append_nil]

theorem asked_loadConfiguration
    (h : (loadConfiguration configPath).exec before = (.ok configuration, after)) :
    (loadConfiguration configPath).asked before =
      configPath.elim [] fun text => [⟨_, .status (Path.ofString text)⟩, ⟨_, .workingDirectory⟩,
        ⟨_, .read (Path.ofString text)⟩] := by
  cases configPath with
  | none => rfl
  | some text =>
    have hload := Attempt.exec_adapt_eq_ok_iff.mp h
    exact (Attempt.asked_adapt _ _ before).trans (asked_load hload)

/-! ### The output -/

/-- The requests about the output: a directory is made, and files are written into it. -/
inductive AboutOutput : Option Path → Asked → Prop
  | note (outDir : Option Path) (note : Host.Note) : AboutOutput outDir ⟨_, .note note⟩
  | makeDirectories (directory : Path) :
      AboutOutput (some directory) ⟨_, .makeDirectories directory⟩
  | write (directory : Path) (document : String) (content : Text.Bytes) :
      AboutOutput (some directory) ⟨_, .write (filePath directory document) content⟩

theorem asks_writeFiles (directory : Path) (documents : Pages.Documents) :
    (writeFiles directory documents).Asks (AboutOutput (some directory)) := by
  induction documents with
  | nil => exact Attempt.asks_pure _
  | cons document rest ih =>
    rw [writeFiles]
    split
    · exact (Attempt.asks_note (.note _ _)).bind fun _ => ih
    · exact (Attempt.asks_request (.write directory _ _)).bind fun _ =>
        (Attempt.asks_check _ _).bind fun _ => (Attempt.asks_note (.note _ _)).bind fun _ =>
          ih.bind fun _ => Attempt.asks_pure _

theorem asks_deliver (documents : Pages.Documents) (outDir : Option Path) :
    (deliver documents outDir).Asks (AboutOutput outDir) := by
  cases outDir with
  | none => exact Attempt.asks_pure _
  | some directory =>
    have hwritten : (writeDocuments documents directory).Asks (AboutOutput (some directory)) :=
      (Attempt.asks_request (.makeDirectories directory)).bind fun _ =>
        (Attempt.asks_check _ _).bind fun _ => asks_writeFiles directory _
    exact hwritten.adapt.bind fun _ => Attempt.asks_pure _

/-- Publishing asks about the output only. -/
theorem asks_publish (plan : Plan) (schema : Schema) :
    (publish plan schema).Asks (AboutOutput plan.output.outDir) :=
  (Attempt.asks_note (.note _ _)).bind fun _ => asks_deliver _ _

/-- Whether two hosts have the same working directory, and files that have come from those of two
others by the same changes. -/
def InStep (files files' : Tree) (state other : State) : Prop :=
  state.working = other.working ∧ files.ChangedAlike files' state.files other.files

/-- What is written and whether that succeeds does not depend on what is in other files. -/
theorem AboutOutput.respects {outDir : Option Path} (h : AboutOutput outDir asked) :
    Respects (InStep files files') asked := by
  rintro state other ⟨hworking, hfiles⟩
  cases h with
  | note => exact ⟨rfl, hworking, hfiles⟩
  | makeDirectories directory =>
    obtain ⟨houtcome, hmade⟩ := hfiles.makeDirectories state.working directory
    simp only [State.answer, ← hworking]
    exact ⟨houtcome, rfl, hmade⟩
  | write directory document content =>
    simp only [State.answer, ← hworking]
    rcases hfiles.write state.working (filePath directory document) content with
      ⟨cause, hwrite, hwrite'⟩ | ⟨written, written', hwrite, hwrite', hput⟩ <;>
      rw [hwrite, hwrite']
    · exact ⟨rfl, hworking, hfiles⟩
    · exact ⟨rfl, rfl, hput⟩

/-! ### Two hosts -/

/-- Whether two hosts differ at most in what a run on the first one does not consult. They have
files and directories at the same places. They hold the same configuration, or configurations that
differ only in a source in whose place the request names another one. And they look alike to those
who ask about the source of the run. -/
structure Request.AlikeFor (request : Request) (before other : State) : Prop where
  working : before.working = other.working
  shape : before.files.SameShape other.files
  configuration :
    (∀ text, request.configPath = some text →
      before.files.read before.working (Path.ofString text) =
        other.files.read other.working (Path.ofString text)) ∨
    request.sources ≠ [] ∧ ∃ configuration url jsonPath schemaPath,
      (loadConfiguration request.configPath).exec before = (.ok configuration, before) ∧
      (loadConfiguration request.configPath).exec other =
        (.ok { configuration with
          source := { configuration.source with url, jsonPath, schemaPath } }, other)
  source : ∀ plan ready, (readPlan request).exec before = (.ok plan, ready) →
    plan.source.source.SeenAlike before other

theorem Request.AlikeFor.inStep (h : request.AlikeFor before other) :
    InStep before.files other.files before other :=
  ⟨h.working, .refl h.shape⟩

/-- The settings are settled in the same way. -/
theorem readPlan_alike (h : request.AlikeFor before other) :
    (readPlan request).Alike (InStep before.files other.files) before other := by
  have hstep : InStep before.files other.files ((readPlan request).exec before).2
      ((readPlan request).exec other).2 := by
    have hkept : ∀ state, ((readPlan request).exec state).2 = state :=
      fun _ => state_of_exec_readPlan rfl
    rw [hkept, hkept]
    exact h.inStep
  rcases h.configuration with hcontent |
    ⟨hnamed, configuration, url, jsonPath, schemaPath, hload, hload'⟩
  · have hasks : (readPlan request).Asks (Respects (ConfiguredAlike request.configPath)) :=
      (asks_readPlan request).mono fun _ => AboutConfiguration.respects
    have hsame := hasks.alike ⟨h.working, h.shape, hcontent⟩
    exact ⟨hsame.result, hstep, hsame.asked⟩
  · -- The request puts its own source in the place of both.
    have hsettle : settle request { configuration with
        source := { configuration.source with url, jsonPath, schemaPath } } =
          settle request configuration := by
      rw [settle_eq, settle_eq, mergeSource_of_sources hnamed]
    refine ⟨?_, hstep, ?_⟩
    · rw [exec_readPlan hload, exec_readPlan hload', hsettle]
    · rw [asked_readPlan, asked_readPlan, asked_loadConfiguration hload,
        asked_loadConfiguration hload']

/-- Loading a schema does the same on hosts that look alike to those who ask about its source. -/
theorem loadSchema_alike (hseen : settings.source.SeenAlike before other)
    (hstep : InStep files files' before other) :
    (Introspection.loadSchema settings).Alike (InStep files files') before other := by
  have hasks : (Introspection.loadSchema settings).Asks (Respects fun state other =>
      settings.source.SeenAlike state other ∧ InStep files files' state other) :=
    (Introspection.asks_loadSchema settings).mono fun _ habout =>
      habout.respects.and_of_leaves habout.leaves fun kept kept' =>
        kept.1 = kept'.1 ∧ files.ChangedAlike files' kept.2 kept'.2
  exact (hasks.alike ⟨hseen, hstep⟩).mono fun _ _ => And.right

theorem publish_alike (plan : Plan) (schema : Schema) (hstep : InStep files files' before other) :
    (publish plan schema).Alike (InStep files files') before other :=
  ((asks_publish plan schema).mono fun _ => AboutOutput.respects).alike hstep

/-- A run does the same on hosts that differ only in what it does not consult. -/
theorem run_alike (h : request.AlikeFor before other) :
    (run request).Alike (InStep before.files other.files) before other := by
  rw [run_eq]
  refine (readPlan_alike h).bind fun plan ready ready' hplan hplan' _ => ?_
  obtain rfl := state_of_exec_readPlan hplan
  obtain rfl := state_of_exec_readPlan hplan'
  exact (loadSchema_alike (h.source plan _ hplan) h.inStep).within.bind
    fun schema _ _ _ _ hstep => publish_alike plan schema hstep

/-! ### Runs -/

/-- A run whose settings are settled asks about its source and then about its output. -/
theorem asked_run (h : (readPlan request).exec before = (.ok plan, before)) :
    ∃ publishing, (run request).asked before =
        (readPlan request).asked before ++ (Introspection.loadSchema plan.source).asked before ++
          publishing ∧
      ∀ asked ∈ publishing, AboutOutput plan.output.outDir asked := by
  have hload : ((Introspection.loadSchema plan.source).within Error.load).asked before =
      (Introspection.loadSchema plan.source).asked before := Attempt.asked_adapt _ _ before
  rw [run_eq, Attempt.asked_bind, h]
  simp only [Attempt.asked_bind, hload, List.append_assoc]
  refine ⟨_, rfl, ?_⟩
  rcases ((Introspection.loadSchema plan.source).within Error.load).exec before with
    ⟨error | schema, loaded⟩
  · exact fun _ hnone => (List.not_mem_nil hnone).elim
  · exact asks_publish plan schema loaded

/-- **A run consults one source.** If the settings of a run cannot be settled, the run ends there
and has asked about the configuration file only. Otherwise its source is that of the request, if it
names one, else the configured one, else the standard input, and the run asks first about the
configuration file, then about this source, and then about the output. On any other host that
differs only in what the run does not consult, the result is the same, the same is asked in the same
order, and each place either is as before on both hosts, or is the same on both afterwards. -/
theorem run_consults_one_source (request : Request) (before : State) :
    ((∃ error, (readPlan request).exec before = (.error error, before) ∧
        (run request).exec before = (.error error, before) ∧
        ∀ asked ∈ (run request).asked before, AboutConfiguration request.configPath asked) ∨
      ∃ configuration plan settling loading publishing,
        (loadConfiguration request.configPath).exec before = (.ok configuration, before) ∧
        (readPlan request).exec before = (.ok plan, before) ∧
        plan.source.source = (request.source?.or configuration.source.named?).getD .input ∧
        (run request).asked before = settling ++ loading ++ publishing ∧
        loading = (Introspection.loadSchema plan.source).asked before ∧
        (∀ asked ∈ settling, AboutConfiguration request.configPath asked) ∧
        (∀ asked ∈ loading, AboutSource plan.source.source asked) ∧
        ∀ asked ∈ publishing, AboutOutput plan.output.outDir asked) ∧
      ∀ other, request.AlikeFor before other →
        ∃ result after after', (run request).exec before = (result, after) ∧
          (run request).exec other = (result, after') ∧
          (run request).asked other = (run request).asked before ∧
          ∀ location, after.files.at? location = before.files.at? location ∧
              after'.files.at? location = other.files.at? location ∨
            after.files.at? location = after'.files.at? location := by
  refine ⟨?_, fun other h => ?_⟩
  · rcases run_loads_wellFormed request before with
      ⟨error, hplan, hrun, hasked⟩ | ⟨configuration, plan, hload, hplan, -, hformed, hcombines⟩
    · refine .inl ⟨error, hplan, hrun, ?_⟩
      rw [hasked]
      exact asks_readPlan request before
    · obtain ⟨publishing, hasked, houtput⟩ := asked_run hplan
      exact .inr ⟨configuration, plan, _, _, publishing, hload, hplan,
        source_of_combines hformed.url hcombines, hasked, rfl, asks_readPlan request before,
        Introspection.asks_loadSchema plan.source before, houtput⟩
  · obtain ⟨hresult, ⟨-, hfiles⟩, hasked⟩ := run_alike h
    exact ⟨_, _, ((run request).exec other).2, rfl, Prod.ext hresult.symm rfl, hasked.symm,
      hfiles.places⟩

/-- A configuration file with a line that names a source. -/
def storedFile (line : String) : String :=
  "output:\n  front_matter: ''\nsource:\n  headers: []\n  timeout_seconds: 5\n  " ++ line

/-- The choices of such a file. -/
def storedChoices (kind : SourceKind) (source : String) : Choices :=
  { kind, source, headers := [], timeoutSeconds := 5, outDir := none, frontMatter := "" }

/-- The schema of a service. -/
def storedAnswer : Text.Bytes :=
  Text.Utf8.encode ("\x7b\"data\":\x7b\"__schema\":\x7b\"types\":[" ++
    "\x7b\"kind\":\"ENUM\",\"name\":\"Size\"\x7d]\x7d\x7d\x7d")

/-- A host with such a file, and with the schema in another one. -/
def storedHost (line : String) (replies : List Reply) (input : Text.Bytes) : State :=
  { files := Tree.put ⟨[(["answer.json"], .file storedAnswer)]⟩ ["pets.yml"]
      (.file (Text.Utf8.encode (storedFile line)))
    working := [], input, replies, sent := [], pauses := [], notes := [] }

theorem sameShape_storedHost (line line' : String) {replies replies' : List Reply}
    {input input' : Text.Bytes} :
    (storedHost line replies input).files.SameShape (storedHost line' replies' input').files :=
  (Tree.SameShape.refl _).put ["pets.yml"] rfl

theorem read_storedHost (line : String) (replies : List Reply) (input : Text.Bytes) :
    (storedHost line replies input).files.read (storedHost line replies input).working
      (Path.ofString "answer.json") = .ok storedAnswer := by
  rw [show Path.ofString "answer.json" = ⟨.working, ["answer.json"]⟩ by decide +kernel]
  rfl

/-- A request with a source of its own. -/
def answerRequest : Request :=
  { configPath := some "pets.yml", jsonPath := some "answer.json", outDir := some "out" }

theorem exec_loadConfiguration_stored {line source : String} {kind : SourceKind}
    (hplain : (storedChoices kind source).Plain)
    (htext : Introspection.textOfBytes (Text.Utf8.encode (storedFile line)) =
      .ok (storedFile line))
    (hwritten : (Yaml.load Settings.settingDepth (storedFile line)).toOption.any fun value =>
      (storedChoices kind source).WrittenAs value)
    (replies : List Reply) (input : Text.Bytes) :
    (loadConfiguration (some "pets.yml")).exec (storedHost line replies input) =
      (.ok ((storedChoices kind source).configuration (Path.ofString "pets.yml") []),
        storedHost line replies input) := by
  rcases hload : Yaml.load Settings.settingDepth (storedFile line) with fault | value
  · simp [hload, Except.toOption] at hwritten
  have hvalue : (storedChoices kind source).WrittenAs value := by
    simpa [hload, Except.toOption] using hwritten
  have hheaders : (storedChoices kind source).headers.mapM Introspection.Header.parse = .ok [] :=
    rfl
  have hread : (storedHost line replies input).files.read (storedHost line replies input).working
      (Path.ofString "pets.yml") = .ok (Text.Utf8.encode (storedFile line)) := by
    rw [show Path.ofString "pets.yml" = ⟨.working, ["pets.yml"]⟩ by decide +kernel]
    rfl
  rw [exec_loadConfiguration_file hplain hread htext hload hvalue, hheaders]
  rfl

/-- A request that names a file leads to the same result, whether a server is configured that cannot
be reached, or another file, with something on the standard input. -/
theorem run_consults_one_source_stored :
    ∃ outcome after after',
      (run answerRequest).exec (storedHost "url: http://api" [.lost "reset"] []) =
          (.ok outcome, after) ∧
        (run answerRequest).exec (storedHost "json: /old.json" [] [255]) =
          (.ok outcome, after') ∧
        outcome.writtenPaths = [⟨.working, ["out", "enums.md"]⟩] := by
  have hserver : (loadConfiguration (some "pets.yml")).exec
      (storedHost "url: http://api" [.lost "reset"] []) =
        (.ok ((storedChoices .url "http://api").configuration (Path.ofString "pets.yml") []),
          storedHost "url: http://api" [.lost "reset"] []) :=
    exec_loadConfiguration_stored ⟨by decide, by decide, by decide, by decide, by decide⟩
      (by decide +kernel) (by decide +kernel) _ _
  have hfile : (loadConfiguration (some "pets.yml")).exec
      (storedHost "json: /old.json" [] [255]) =
        (.ok ((storedChoices .json "/old.json").configuration (Path.ofString "pets.yml") []),
          storedHost "json: /old.json" [] [255]) :=
    exec_loadConfiguration_stored ⟨by decide, by decide, by decide, by decide, by decide⟩
      (by decide +kernel) (by decide +kernel) _ _
  obtain ⟨hsource, hsame⟩ := run_consults_one_source answerRequest
    (storedHost "url: http://api" [.lost "reset"] [])
  have halike : answerRequest.AlikeFor (storedHost "url: http://api" [.lost "reset"] [])
      (storedHost "json: /old.json" [] [255]) := by
    refine ⟨rfl, sameShape_storedHost _ _, .inr ⟨by decide, _, none, some _, none, hserver, hfile⟩,
      fun plan ready hplan => ?_⟩
    have hanswer : plan.source.source = .file (Path.ofString "answer.json") := by
      rcases hsource with ⟨error, hfailed, -⟩ | ⟨_, settled, _, _, _, -, hsettled, hsource, -⟩
      · cases hplan.symm.trans hfailed
      · cases hplan.symm.trans hsettled
        exact hsource
    rw [hanswer]
    refine ⟨nofun, ?_, nofun⟩
    rintro _ ⟨⟩
    exact (read_storedHost _ _ _).trans (read_storedHost _ _ _).symm
  have hdone : ((run answerRequest).exec
      (storedHost "url: http://api" [.lost "reset"] [])).1.toOption.map Outcome.writtenPaths =
        some [⟨.working, ["out", "enums.md"]⟩] := by decide +kernel
  obtain ⟨result, after, after', hrun, hrun', -⟩ := hsame _ halike
  rw [hrun] at hdone
  cases result with
  | error error => cases hdone
  | ok outcome => exact ⟨outcome, after, after', hrun, hrun', Option.some.inj hdone⟩

end Generation

end SchemaPages
