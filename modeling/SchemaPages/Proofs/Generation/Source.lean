import SchemaPages.Proofs.Generation.Stages
import SchemaPages.Proofs.Settings.Source

/-!
# The source of a run

The settings that a run loads its schema with come from its configuration and from its request. Both
are checked by rules of their own, and the settings are well-formed after each step: the defaults
and those of a configuration file are (`wellFormed_of_exec_loadConfiguration`), and a request that
can be combined with well-formed settings leads to well-formed ones (`wellFormed_of_mergeSource`).
So a run either ends before it looks at its source, or it loads the schema with well-formed settings
(`run_loads_wellFormed`).
-/

namespace SchemaPages.Generation

open Files (Path)
open Host (Attempt State)
open Introspection (Header SourceSettings)

variable {request : Request} {plan : Plan} {settings merged : SourceSettings}
  {before ready after : State}

/-- How the settings of a source come from configured ones and from a request: a source that the
request names replaces the configured one as a whole, and its headers follow the configured ones. -/
structure Request.Combines (request : Request) (configured settings : SourceSettings) : Prop where
  requested : request.sources ≠ [] → settings.url = nonEmpty? request.url ∧
    settings.jsonPath = (nonEmpty? request.jsonPath).map Path.ofString ∧
    settings.schemaPath = (nonEmpty? request.schemaPath).map Path.ofString
  kept : request.sources = [] → settings.url = configured.url ∧
    settings.jsonPath = configured.jsonPath ∧ settings.schemaPath = configured.schemaPath
  headers : ∃ requested, request.headers.mapM Header.parse = .ok requested ∧
    settings.headers = configured.headers ++ requested
  timeoutSeconds : settings.timeoutSeconds = request.timeoutSeconds.getD configured.timeoutSeconds
  maxRetries : settings.maxRetries = configured.maxRetries
  retryBackoffSeconds : settings.retryBackoffSeconds = configured.retryBackoffSeconds

/-! ### Requests and settings -/

/-- A source of its own changes nothing else in the settings. -/
theorem exists_withSource_eq (request : Request) (settings : SourceSettings) :
    ∃ url jsonPath schemaPath,
      request.withSource settings = { settings with url, jsonPath, schemaPath } := by
  rw [Request.withSource]
  split <;> exact ⟨_, _, _, rfl⟩

/-- A request that is combined with settings is checked for its sources, then for its headers and
then for its time to wait. -/
theorem mergeSource_eq (request : Request) (settings : SourceSettings) :
    request.mergeSource settings =
      if 1 < request.sources.length then .error .severalSources
      else
        match request.headers.mapM Header.parse with
        | .error cause => .error (.header cause)
        | .ok requested =>
          if ∃ seconds ∈ request.timeoutSeconds, seconds ≤ 0 then .error .timeout
          else .ok { request.withSource settings with
            headers := settings.headers ++ requested
            timeoutSeconds := request.timeoutSeconds.getD settings.timeoutSeconds } := by
  obtain ⟨url, jsonPath, schemaPath, hsource⟩ := exists_withSource_eq request settings
  rw [Request.mergeSource, Request.parsedHeaders, hsource]
  split
  · rfl
  · cases request.headers.mapM Header.parse with
    | error cause => rfl
    | ok requested =>
      cases request.timeoutSeconds with
      | none => simp [Except.mapError, bind, Except.bind, pure, Except.pure]
      | some seconds =>
        by_cases hseconds : seconds ≤ 0 <;>
          simp [hseconds, Except.mapError, bind, Except.bind, pure, Except.pure, throw, throwThe,
            MonadExceptOf.throw]

/-- A request that is combined with settings has passed all checks. -/
theorem exists_of_mergeSource (h : request.mergeSource settings = .ok merged) :
    request.sources.length ≤ 1 ∧ (∀ seconds ∈ request.timeoutSeconds, 1 ≤ seconds) ∧
      ∃ requested, request.headers.mapM Header.parse = .ok requested ∧
        merged = { request.withSource settings with
          headers := settings.headers ++ requested
          timeoutSeconds := request.timeoutSeconds.getD settings.timeoutSeconds } := by
  rw [mergeSource_eq] at h
  split at h
  · cases h
  next hmany =>
    split at h
    · cases h
    next requested hparse =>
      split at h
      · cases h
      next htime =>
        refine ⟨Nat.not_lt.mp hmany, fun seconds hseconds => ?_, requested, hparse, ?_⟩
        · exact Int.not_le.mp fun hle => htime ⟨seconds, hseconds, hle⟩
        · exact (Except.ok.inj h).symm

theorem combines_of_mergeSource (h : request.mergeSource settings = .ok merged) :
    request.Combines settings merged := by
  obtain ⟨-, -, requested, hparse, rfl⟩ := exists_of_mergeSource h
  obtain ⟨url, jsonPath, schemaPath, hsource⟩ := exists_withSource_eq request settings
  exact {
    requested := fun hnamed => by simp [Request.withSource, hnamed]
    kept := fun hunnamed => by simp [Request.withSource, hunnamed]
    headers := ⟨requested, hparse, rfl⟩
    timeoutSeconds := rfl
    maxRetries := by rw [hsource]
    retryBackoffSeconds := by rw [hsource] }

/-- The sources that a request names, as a list and as settings. -/
theorem count_sources (request : Request) :
    [(nonEmpty? request.url).isSome, ((nonEmpty? request.jsonPath).map Path.ofString).isSome,
      ((nonEmpty? request.schemaPath).map Path.ofString).isSome].count true =
        request.sources.length := by
  simp only [Request.sources, List.filterMap_cons, List.filterMap_nil]
  cases nonEmpty? request.url <;> cases nonEmpty? request.jsonPath <;>
    cases nonEmpty? request.schemaPath <;> rfl

theorem nonEmpty?_ne_empty (text : Option String) : nonEmpty? text ≠ some "" := by
  intro h
  have hkept := (Option.filter_eq_some_iff.mp h).2
  exact of_decide_eq_true hkept rfl

theorem wellFormed_withSource (hmany : request.sources.length ≤ 1) (h : settings.WellFormed) :
    (request.withSource settings).WellFormed := by
  rw [Request.withSource]
  split
  · exact h
  · exact {
      source := (count_sources request).trans_le hmany
      url := nonEmpty?_ne_empty request.url
      headers := h.headers
      timeoutSeconds := h.timeoutSeconds
      maxRetries := h.maxRetries }

/-- A request that can be combined with well-formed settings leads to well-formed settings. -/
theorem wellFormed_of_mergeSource (hsettings : settings.WellFormed)
    (h : request.mergeSource settings = .ok merged) : merged.WellFormed := by
  obtain ⟨hmany, htime, requested, hparse, rfl⟩ := exists_of_mergeSource h
  have hsource := wellFormed_withSource hmany hsettings
  exact {
    source := hsource.source
    url := hsource.url
    headers := List.forall_mem_append.mpr
      ⟨hsettings.headers, Settings.wellFormed_of_mapM_parse hparse⟩
    timeoutSeconds := by
      cases hgiven : request.timeoutSeconds with
      | none => exact hsettings.timeoutSeconds
      | some seconds => exact htime seconds hgiven
    maxRetries := hsource.maxRetries }

/-! ### Runs -/

theorem wellFormed_of_exec_loadConfiguration {configPath : Option String}
    {configuration : Settings.Configuration}
    (h : (loadConfiguration configPath).exec before = (.ok configuration, after)) :
    configuration.source.WellFormed := by
  cases configPath with
  | none =>
    cases h
    exact Introspection.wellFormed_default
  | some text => exact Settings.wellFormed_of_exec_load (Attempt.exec_adapt_eq_ok_iff.mp h)

/-- A run whose settings are settled loads its schema and publishes it. -/
theorem exec_run_of_readPlan (h : (readPlan request).exec before = (.ok plan, ready)) :
    (run request).exec before =
      ((Introspection.loadSchema plan.source).within Error.load >>= publish plan).exec ready := by
  rw [run_eq, Attempt.exec_bind_of_ok h]

/-- Settings that are settled come from a configuration and the request. -/
theorem exists_of_exec_readPlan (h : (readPlan request).exec before = (.ok plan, ready)) :
    ∃ configuration,
      (loadConfiguration request.configPath).exec before = (.ok configuration, ready) ∧
        request.mergeSource configuration.source = .ok plan.source := by
  rcases hload : (loadConfiguration request.configPath).exec before with
    ⟨error | configuration, loaded⟩
  · rw [readPlan, Attempt.exec_bind_of_error hload] at h
    cases h
  · rw [exec_readPlan hload, settle_eq] at h
    split at h
    · cases h
    next source hsource =>
      split at h <;> cases h
      exact ⟨configuration, rfl, hsource⟩

/-- **The settings of a run.** If the settings of a run cannot be settled, the run ends there and
asks for nothing else. Otherwise it loads its schema with the settings of its plan and publishes it.
These settings are well-formed, and they come from the configuration and the request: the source of
the request, if it names one, and else the configured one; the configured headers and then those of
the request; and the time to wait of the request, if it has one. -/
theorem run_loads_wellFormed (request : Request) (before : State) :
    (∃ error, (readPlan request).exec before = (.error error, before) ∧
        (run request).exec before = (.error error, before) ∧
        (run request).asked before = (readPlan request).asked before) ∨
      ∃ configuration plan,
        (loadConfiguration request.configPath).exec before = (.ok configuration, before) ∧
        (readPlan request).exec before = (.ok plan, before) ∧
        (run request).exec before =
          ((Introspection.loadSchema plan.source).within Error.load >>= publish plan).exec before ∧
        plan.source.WellFormed ∧ request.Combines configuration.source plan.source := by
  rcases hplan : (readPlan request).exec before with ⟨error | plan, ready⟩
  · obtain rfl := state_of_exec_readPlan hplan
    exact .inl ⟨error, rfl, exec_run_of_unsettled hplan⟩
  · obtain rfl := state_of_exec_readPlan hplan
    obtain ⟨configuration, hload, hmerge⟩ := exists_of_exec_readPlan hplan
    exact .inr ⟨configuration, plan, hload, rfl, exec_run_of_readPlan hplan,
      wellFormed_of_mergeSource (wellFormed_of_exec_loadConfiguration hload) hmerge,
      combines_of_mergeSource hmerge⟩

end SchemaPages.Generation
