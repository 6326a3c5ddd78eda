import SchemaPages.Generation.Run
import SchemaPages.Proofs.Introspection.Source

/-!
# What each stage of a run can do

A run settles its settings, loads the schema and publishes the documents, in this order. Settling
asks for nothing but the configuration file (`asks_readPlan`), loading writes nothing, and
publishing fails in writing only (`eq_write_of_exec_publish`). So a run that fails before it writes
leaves all files as they were, and one that cannot settle its settings has not even looked at its
source (`exec_run_of_unsettled`).
-/

namespace SchemaPages.Generation

open Files (Path)
open Host (Action Attempt Failed State Leaves Asked Reply)
open Settings (Configuration)

variable {request : Request} {plan : Plan} {schema : Schema} {outcome : Outcome}
  {before ready after : State}

/-! ### Settling the settings -/

theorem nonEmpty?_some {text : String} (h : text ≠ "") : nonEmpty? (some text) = some text :=
  Option.filter_some_pos (decide_eq_true h)

/-- An empty definition has no entries, like one that is left out. -/
theorem frontMatterEntries_some (text : String) :
    frontMatterEntries (some text) = FrontMatter.parse text := by
  by_cases hne : text = ""
  · subst hne
    rfl
  · rw [frontMatterEntries, nonEmpty?_some hne]

/-- A request about the configuration file that is named, if one is named: whether it is there, what
it holds, and from which directory its path starts. -/
def AboutConfiguration (configPath : Option String) (asked : Asked) : Prop :=
  ∃ text, configPath = some text ∧
    (asked = ⟨_, .status (Path.ofString text)⟩ ∨ asked = ⟨_, .workingDirectory⟩ ∨
      asked = ⟨_, .read (Path.ofString text)⟩)

theorem AboutConfiguration.leaves {γ : Type} {observe : State → γ} {configPath : Option String}
    {asked : Asked} (h : AboutConfiguration configPath asked) : Leaves observe asked := by
  obtain ⟨text, -, rfl | rfl | rfl⟩ := h <;> exact fun _ => rfl

theorem asks_load (text : String) :
    (Configuration.load text).Asks (AboutConfiguration (some text)) := by
  have hstatus : AboutConfiguration (some text) ⟨_, .status (Path.ofString text)⟩ :=
    ⟨text, rfl, .inl rfl⟩
  have hworking : AboutConfiguration (some text) ⟨_, .workingDirectory⟩ :=
    ⟨text, rfl, .inr (.inl rfl)⟩
  have hread : AboutConfiguration (some text) ⟨_, .read (Path.ofString text)⟩ :=
    ⟨text, rfl, .inr (.inr rfl)⟩
  have hthere : (Settings.isThere (Path.ofString text) : Attempt (Failed Settings.Error) Bool).Asks
      (AboutConfiguration (some text)) := by
    refine (Attempt.asks_request hstatus).bind fun found => ?_
    split
    · exact Attempt.asks_pure _
    · exact Attempt.asks_throw _
    · exact Attempt.asks_pure _
  refine hthere.bind fun found => ?_
  split
  · exact Attempt.asks_throw _
  · exact (Attempt.asks_request hworking).bind fun _ =>
      (Attempt.asks_request hread).bind fun _ => (Attempt.asks_check _ _).bind fun _ =>
        (Attempt.asks_check _ _).bind fun _ => Attempt.asks_check _ _

theorem asks_loadConfiguration (configPath : Option String) :
    (loadConfiguration configPath).Asks (AboutConfiguration configPath) := by
  cases configPath with
  | none => exact Attempt.asks_pure _
  | some text => exact (asks_load text).within

/-- Settling the settings asks for the configuration file only. -/
theorem asks_readPlan (request : Request) :
    (readPlan request).Asks (AboutConfiguration request.configPath) :=
  (asks_loadConfiguration request.configPath).bind fun _ => Attempt.asks_check _ _

/-- Settling the settings changes nothing. -/
theorem state_of_exec_readPlan {result : Except (Failed Error) Plan}
    (h : (readPlan request).exec before = (result, ready)) : ready = before := by
  have hleaves : (readPlan request).Asks (Leaves id) :=
    (asks_readPlan request).mono fun _ => AboutConfiguration.leaves
  have hkept := hleaves.unchanged before
  rwa [h] at hkept

/-- The settings of a run cannot be settled: the configuration cannot be loaded, the request cannot
be combined with it, or the front matter is malformed. -/
inductive Unsettled (request : Request) (before : State) : Prop
  | load {error : Failed Error} {ready : State}
      (h : (loadConfiguration request.configPath).exec before = (.error error, ready))
  | merge {configuration : Configuration} {ready : State} {error : RequestError}
      (hload : (loadConfiguration request.configPath).exec before = (.ok configuration, ready))
      (h : request.mergeSource configuration.source = .error error)
  | frontMatter {configuration : Configuration} {ready : State} {error : FrontMatter.Malformed}
      (hload : (loadConfiguration request.configPath).exec before = (.ok configuration, ready))
      (h : frontMatterEntries (request.mergeOutput configuration.output).frontMatter = .error error)

theorem exec_readPlan {configuration : Configuration}
    (hload : (loadConfiguration request.configPath).exec before = (.ok configuration, ready)) :
    (readPlan request).exec before =
      ((settle request configuration).mapError .reported, ready) := by
  rw [readPlan, Attempt.exec_bind_of_ok hload, Attempt.exec_check]

/-- The request comes first, and the front matter is that of the request and the configuration
together. -/
theorem settle_eq (request : Request) (configuration : Configuration) :
    settle request configuration =
      match request.mergeSource configuration.source with
      | .error error => .error (.request error)
      | .ok source =>
        match frontMatterEntries (request.mergeOutput configuration.output).frontMatter with
        | .error error => .error (.frontMatter error)
        | .ok entries => .ok ⟨source, request.mergeOutput configuration.output, entries⟩ := by
  rw [settle]
  rcases request.mergeSource configuration.source with error | source
  · rfl
  · simp only [Except.mapError, bind, Except.bind]
    rcases frontMatterEntries (request.mergeOutput configuration.output).frontMatter with
      error | entries <;> rfl

theorem Unsettled.exec_readPlan (h : Unsettled request before) :
    ∃ error after, (readPlan request).exec before = (.error error, after) := by
  cases h with
  | load h => exact ⟨_, _, Attempt.exec_bind_of_error h _⟩
  | merge hload h =>
    rw [Generation.exec_readPlan hload, settle_eq, h]
    exact ⟨_, _, rfl⟩
  | @frontMatter configuration _ _ hload h =>
    rw [Generation.exec_readPlan hload, settle_eq, h]
    -- The request may be refused as well, and is looked at first.
    cases request.mergeSource configuration.source <;> exact ⟨_, _, rfl⟩

/-- A run settles its settings, loads its schema and publishes it. -/
theorem run_eq (request : Request) :
    run request = readPlan request >>= fun plan =>
      (Introspection.loadSchema plan.source).within .load >>= publish plan := by
  simp only [run, prepare, bind_assoc, pure_bind]

/-- A run whose settings cannot be settled ends there. -/
theorem exec_run_of_unsettled {error : Failed Error}
    (h : (readPlan request).exec before = (.error error, after)) :
    (run request).exec before = (.error error, after) ∧
      (run request).asked before = (readPlan request).asked before := by
  rw [run_eq]
  exact ⟨Attempt.exec_bind_of_error h _, Attempt.asked_bind_of_error h _⟩

/-! ### Before anything is written -/

theorem asks_prepare (request : Request) : (prepare request).Asks (Leaves State.files) :=
  ((asks_readPlan request).mono fun _ => AboutConfiguration.leaves).bind fun plan =>
    ((Introspection.asks_loadSchema plan.source).mono fun _ habout state =>
      congrArg Prod.snd (habout.leaves state)).within.bind fun _ => Attempt.asks_pure _

/-- Nothing is written until the schema is there. -/
theorem files_of_exec_prepare {result : Except (Failed Error) (Plan × Schema)}
    (h : (prepare request).exec before = (result, ready)) : ready.files = before.files := by
  have hkept := (asks_prepare request).unchanged before
  rwa [h] at hkept

/-- Whether a failure is anything else than one in writing the documents. -/
def BeforeWriting (error : Failed Error) : Prop :=
  ∀ directory failure, error ≠ .reported (.write directory failure)

theorem beforeWriting_map {ε : Type} {f : ε → Error}
    (hf : ∀ error directory failure, f error ≠ .write directory failure) (failed : Failed ε) :
    BeforeWriting (failed.map f) := by
  intro directory failure heq
  cases failed with
  | reported error => exact hf error directory failure (Failed.reported.inj heq)
  | broken cause => cases heq

/-- An operation within a run fails before writing, whatever its failures are. -/
theorem failsWith_within {ε α : Type} {f : ε → Error}
    (hf : ∀ error directory failure, f error ≠ .write directory failure)
    (attempt : Attempt (Failed ε) α) (before : State) :
    (attempt.within f).FailsWith BeforeWriting before :=
  have hfails : attempt.FailsWith (fun _ => True) before := fun _ _ _ => trivial
  hfails.adapt fun failed _ => beforeWriting_map hf failed

theorem failsWith_loadConfiguration (configPath : Option String) (before : State) :
    (loadConfiguration configPath).FailsWith BeforeWriting before := by
  cases configPath with
  | none => exact Attempt.failsWith_pure _ before
  | some text => exact failsWith_within (f := .configuration) (fun _ _ _ h => nomatch h) _ before

theorem failsWith_readPlan (request : Request) (before : State) :
    (readPlan request).FailsWith BeforeWriting before := by
  refine (failsWith_loadConfiguration request.configPath before).bind fun configuration after _ =>
    Attempt.failsWith_check (fun cause hsettle => ?_) after
  rw [settle_eq] at hsettle
  split at hsettle
  · cases hsettle
    exact fun _ _ h => nomatch h
  · split at hsettle <;> cases hsettle
    exact fun _ _ h => nomatch h

/-- What has not come to writing does not fail in writing. -/
theorem failsWith_prepare (request : Request) (before : State) :
    (prepare request).FailsWith BeforeWriting before :=
  (failsWith_readPlan request before).bind fun _ ready _ =>
    (failsWith_within (f := .load) (fun _ _ _ h => nomatch h) _ ready).bind fun _ after _ =>
      Attempt.failsWith_pure _ after

/-! ### Publishing -/

/-- The note about a schema that has been rendered. -/
def renderedNote (schema : Schema) : Host.Note :=
  ⟨.info, .generation, "Rendered " ++
    toString (Pages.nonEmpty (Pages.render schema)).length ++ " non-empty documents"⟩

/-- Publishing notes the documents and delivers them. -/
theorem exec_publish (plan : Plan) (schema : Schema) (ready : State) :
    (publish plan schema).exec ready =
      (deliver (documentsWith plan.entries schema) plan.output.outDir).exec
        (ready.noted (renderedNote schema)) := by
  rw [publish, Attempt.exec_note_bind]
  rfl

/-- Without a directory the documents are printed. -/
theorem exec_deliver_none (documents : Pages.Documents) (ready : State) :
    (deliver documents none).exec ready =
      (.ok ⟨documents, [], some (Pages.printed documents)⟩, ready) :=
  rfl

/-- With a directory they are written into it; a failure names the directory. -/
theorem exec_deliver_some (documents : Pages.Documents) (directory : Path) (ready : State) :
    (deliver documents (some directory)).exec ready =
      match (writeDocuments documents directory).exec ready with
      | (.ok paths, after) => (.ok ⟨documents, paths, none⟩, after)
      | (.error failure, after) => (.error (.reported (.write directory failure)), after) := by
  rw [deliver, Attempt.exec_bind, Attempt.exec_adapt]
  rcases (writeDocuments documents directory).exec ready with ⟨_ | _, _⟩ <;> rfl

theorem documents_of_exec_publish (h : (publish plan schema).exec ready = (.ok outcome, after)) :
    outcome.documents = documentsWith plan.entries schema := by
  rw [exec_publish] at h
  rcases houtDir : plan.output.outDir with _ | directory
  · rw [houtDir, exec_deliver_none] at h
    cases h
    rfl
  · rw [houtDir, exec_deliver_some] at h
    split at h <;> cases h
    rfl

/-- Publishing fails in writing only. -/
theorem eq_write_of_exec_publish {error : Failed Error}
    (h : (publish plan schema).exec ready = (.error error, after)) :
    ∃ directory failure, error = .reported (.write directory failure) := by
  rw [exec_publish] at h
  rcases houtDir : plan.output.outDir with _ | directory
  · rw [houtDir, exec_deliver_none] at h
    cases h
  · rw [houtDir, exec_deliver_some] at h
    split at h <;> cases h
    exact ⟨_, _, rfl⟩

/-- A run that fails has written something only if it has failed in writing. -/
theorem files_of_exec_run_error {error : Failed Error}
    (h : (run request).exec before = (.error error, after)) (hwrite : BeforeWriting error) :
    after.files = before.files := by
  rcases hprepare : (prepare request).exec before with ⟨cause | ⟨plan, schema⟩, ready⟩
  · rw [run, Attempt.exec_bind_of_error hprepare] at h
    cases h
    exact files_of_exec_prepare hprepare
  · rw [run, Attempt.exec_bind_of_ok hprepare] at h
    obtain ⟨directory, failure, heq⟩ := eq_write_of_exec_publish h
    exact absurd heq (hwrite directory failure)

/-- A schema is published as the settings plan it. -/
theorem exec_readPlan_of_exec_prepare {loaded : State}
    (h : (prepare request).exec before = (.ok (plan, schema), loaded)) :
    ∃ ready, (readPlan request).exec before = (.ok plan, ready) := by
  simp only [prepare, Attempt.exec_bind_eq_ok_iff] at h
  obtain ⟨settled, ready, hplan, schema, _, -, hreturn⟩ := h
  cases hreturn
  exact ⟨ready, hplan⟩

/-- A run without a directory writes nothing, whether it succeeds or not. -/
theorem files_of_exec_run_printing {result : Except (Failed Error) Outcome}
    (h : (run request).exec before = (result, after))
    (hplan : (readPlan request).exec before = (.ok plan, ready))
    (hdirectory : plan.output.outDir = none) : after.files = before.files := by
  rcases hprepare : (prepare request).exec before with ⟨cause | ⟨settled, schema⟩, loaded⟩
  · rw [run, Attempt.exec_bind_of_error hprepare] at h
    cases h
    exact files_of_exec_prepare hprepare
  · have hkept : loaded.files = before.files := files_of_exec_prepare hprepare
    obtain ⟨_, hsettled⟩ := exec_readPlan_of_exec_prepare hprepare
    rw [hplan] at hsettled
    cases hsettled
    rw [run, Attempt.exec_bind_of_ok hprepare, exec_publish, hdirectory, exec_deliver_none] at h
    cases h
    exact hkept

/-! ### Failures that are reported -/

/-- Settings that cannot be settled are reported if the configuration is loaded or its error is. -/
theorem reports_readPlan (hload : (loadConfiguration request.configPath).Reports before) :
    (readPlan request).Reports before :=
  hload.bind fun _ after _ => Attempt.failsWith_check (fun _ _ => trivial) after

theorem reports_prepare (hload : (loadConfiguration request.configPath).Reports before)
    (hreplies : ∀ fault, Reply.broken fault ∉ before.replies) :
    (prepare request).Reports before := by
  refine (reports_readPlan hload).bind fun plan ready hplan => ?_
  obtain rfl := state_of_exec_readPlan hplan
  exact (Introspection.reports_loadSchema plan.source hreplies).within.bind fun _ after _ =>
    Attempt.failsWith_pure _ after

theorem reports_publish (plan : Plan) (schema : Schema) (ready : State) :
    (publish plan schema).Reports ready := by
  intro error after h
  obtain ⟨_, _, rfl⟩ := eq_write_of_exec_publish h
  trivial

/-- A run that fails reports why, unless its configuration or the client breaks. -/
theorem reports_run_of_load (hload : (loadConfiguration request.configPath).Reports before)
    (hreplies : ∀ fault, Reply.broken fault ∉ before.replies) : (run request).Reports before :=
  (reports_prepare hload hreplies).bind fun (plan, schema) ready _ =>
    reports_publish plan schema ready

/-- Without a configuration file, a run that fails reports why, unless the client breaks. -/
theorem reports_run (hconfig : request.configPath = none)
    (hreplies : ∀ fault, Reply.broken fault ∉ before.replies) : (run request).Reports before := by
  refine reports_run_of_load ?_ hreplies
  rw [hconfig]
  exact Attempt.failsWith_pure _ before

/-- A run whose configuration cannot be loaded ends there. -/
theorem exec_run_of_load {error : Failed Error}
    (h : (loadConfiguration request.configPath).exec before = (.error error, after)) :
    (run request).exec before = (.error error, after) :=
  (exec_run_of_unsettled (Attempt.exec_bind_of_error h _)).1

/-- A run breaks exactly where loading its configuration does, unless the client breaks. -/
theorem run_breaks_iff {cause : Host.Breakdown}
    (hreplies : ∀ fault, Reply.broken fault ∉ before.replies) :
    (∃ after, (run request).exec before = (.error (.broken cause), after)) ↔
      ∃ after, (loadConfiguration request.configPath).exec before =
        (.error (.broken cause), after) := by
  constructor
  · rintro ⟨after, hrun⟩
    rcases hload : (loadConfiguration request.configPath).exec before with ⟨error | settings, ready⟩
    · cases hrun.symm.trans (exec_run_of_load hload)
      exact ⟨_, rfl⟩
    · have hreports : (loadConfiguration request.configPath).Reports before := by
        intro error after hfailed
        cases hload.symm.trans hfailed
      exact (reports_run_of_load hreports hreplies _ _ hrun).elim
  · rintro ⟨after, hload⟩
    exact ⟨after, exec_run_of_load hload⟩

/-! ### Before writing starts -/

/-- **Nothing is written before all documents are complete.** A run that fails leaves all files as
they were unless it fails in writing, and so does a run that has no directory to write to. If the
settings cannot be settled, the run fails, no message has been sent, nothing has been waited for,
and neither standard input nor any other file than that of the configuration has been read. -/
theorem files_kept_until_writing {result : Except (Failed Error) Outcome}
    (hrun : (run request).exec before = (result, after)) :
    (∀ error, result = .error error → BeforeWriting error → after.files = before.files) ∧
      (∀ plan ready, (readPlan request).exec before = (.ok plan, ready) →
        plan.output.outDir = none → after.files = before.files) ∧
      (Unsettled request before →
        (∃ error, result = .error error) ∧ after.files = before.files ∧
          after.sent = before.sent ∧ after.pauses = before.pauses ∧ after.input = before.input ∧
          ∀ asked ∈ (run request).asked before, AboutConfiguration request.configPath asked) := by
  refine ⟨?_, fun plan ready hplan => files_of_exec_run_printing hrun hplan, ?_⟩
  · rintro error rfl hwrite
    exact files_of_exec_run_error hrun hwrite
  · intro hunsettled
    obtain ⟨error, ready, hplan⟩ := hunsettled.exec_readPlan
    obtain ⟨hends, hasked⟩ := exec_run_of_unsettled hplan
    -- The run ends where settling does, which has not changed anything.
    obtain rfl := state_of_exec_readPlan hplan
    cases hrun.symm.trans hends
    refine ⟨⟨error, rfl⟩, rfl, rfl, rfl, rfl, ?_⟩
    rw [hasked]
    exact asks_readPlan request _

/-- A host without files, whose standard input holds a schema without types. -/
def bareHost : State :=
  { files := ⟨[]⟩, working := [], replies := [], sent := [], pauses := [], notes := []
    input := Text.Utf8.encode "\x7b\"data\":\x7b\"__schema\":\x7b\x7d\x7d\x7d" }

/-- A request whose front matter is no entry. -/
def untitledRequest : Request :=
  { jsonPath := some "answer.json", outDir := some "out", frontMatter := some "title" }

/-- A request for files from definitions, which are not understood. -/
def definitionsRequest : Request :=
  { schemaPath := some "api.graphql", outDir := some "out" }

/-- Malformed front matter ends a run before it asks for anything; a run that fails to load its
schema, and a run that prints the documents of standard input, leave the files alone. -/
theorem files_kept_until_writing_untitled :
    (∃ error after, (run untitledRequest).exec bareHost = (.error error, after) ∧
        after.files = bareHost.files ∧ after.input = bareHost.input ∧
        (run untitledRequest).asked bareHost = []) ∧
      (∃ error after, (run definitionsRequest).exec bareHost = (.error error, after) ∧
        after.files = bareHost.files) ∧
      ∃ outcome after, (run {}).exec bareHost = (.ok outcome, after) ∧
        after.files = bareHost.files := by
  refine ⟨?_, ?_, ?_⟩
  · rcases hrun : (run untitledRequest).exec bareHost with ⟨result, after⟩
    have hmalformed : frontMatterEntries (some "title") = .error ⟨"title"⟩ := rfl
    have hunsettled : Unsettled untitledRequest bareHost := .frontMatter rfl hmalformed
    obtain ⟨-, -, hearly⟩ := files_kept_until_writing hrun
    obtain ⟨⟨error, rfl⟩, hfiles, -, -, hinput, habout⟩ := hearly hunsettled
    refine ⟨error, after, rfl, hfiles, hinput, List.eq_nil_iff_forall_not_mem.mpr ?_⟩
    intro asked hasked
    obtain ⟨text, hpath, -⟩ := habout asked hasked
    cases hpath
  · have hrun : (run definitionsRequest).exec bareHost =
        (.error (.reported (.load (.source .definitionsNotSupported))), bareHost) := rfl
    obtain ⟨hfailed, -, -⟩ := files_kept_until_writing hrun
    exact ⟨_, _, hrun, hfailed _ rfl fun directory failure h => nomatch h⟩
  · have hdone : ((run {}).exec bareHost).1.toOption.isSome := by decide +kernel
    rcases hrun : (run {}).exec bareHost with ⟨_ | outcome, after⟩
    · simp [hrun, Except.toOption] at hdone
    obtain ⟨-, hprinting, -⟩ := files_kept_until_writing hrun
    exact ⟨outcome, after, rfl, hprinting _ _ rfl rfl⟩

end SchemaPages.Generation
