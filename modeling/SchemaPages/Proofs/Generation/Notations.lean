import SchemaPages.Proofs.Generation.Source
import SchemaPages.Proofs.Settings.Notations

/-!
# Headers of configurations and of requests

The headers of a request are written like those in the list of a configuration, so a run that is
given headers settles the same settings as one that is given none, with these headers behind the
configured ones (`exec_readPlan_of_ok`), or it fails (`exec_run_of_malformed`). With what holds of
the notations in a configuration, it is the same whether headers are given as a mapping, as a list,
or with the request (`header_notations_agree`).
-/

namespace SchemaPages.Generation

open Files (Location Path)
open Host (Attempt State)
open Introspection (Header MalformedHeader SourceSettings)
open Settings
open Yaml (Value)

variable {request : Request} {texts : List String} {found : List Header} {cause : MalformedHeader}
  {entries : List (String × String)} {before : State}

/-- The same request with other headers. -/
def Request.replaceHeaders (request : Request) (headers : List String) : Request :=
  { request with headers }

/-- The same plan with more headers. -/
def Plan.appendHeaders (plan : Plan) (headers : List Header) : Plan :=
  { plan with source := { plan.source with headers := plan.source.headers ++ headers } }

/-! ### Runs with headers -/

/-- The headers of a request come behind the others, and nothing else depends on them. -/
theorem mergeSource_of_ok (h : texts.mapM Header.parse = .ok found) (settings : SourceSettings) :
    (request.replaceHeaders texts).mergeSource settings =
      ((request.replaceHeaders []).mergeSource settings).map fun merged =>
        { merged with headers := merged.headers ++ found } := by
  have hgiven : (request.replaceHeaders texts).headers.mapM Header.parse = .ok found := h
  have hnone : (request.replaceHeaders []).headers.mapM Header.parse = .ok [] := rfl
  have hsources : ∀ texts, (request.replaceHeaders texts).sources = request.sources := fun _ => rfl
  have hseconds : ∀ texts, (request.replaceHeaders texts).timeoutSeconds = request.timeoutSeconds :=
    fun _ => rfl
  have hsource : ∀ texts, (request.replaceHeaders texts).withSource settings =
      request.withSource settings := fun _ => rfl
  rw [mergeSource_eq, mergeSource_eq, hgiven, hnone]
  simp only [hsources, hseconds, hsource]
  split
  · rfl
  · split
    · rfl
    · simp [Except.map]

theorem mergeSource_of_error (h : texts.mapM Header.parse = .error cause)
    (settings : SourceSettings) :
    ∃ error, (request.replaceHeaders texts).mergeSource settings = .error error := by
  have hgiven : (request.replaceHeaders texts).headers.mapM Header.parse = .error cause := h
  rw [mergeSource_eq, hgiven]
  split <;> exact ⟨_, rfl⟩

/-- Headers that are accepted come behind the configured ones, and nothing else changes. -/
theorem exec_readPlan_of_ok (h : texts.mapM Header.parse = .ok found) (request : Request)
    (before : State) :
    (readPlan (request.replaceHeaders texts)).exec before =
      (((readPlan (request.replaceHeaders [])).exec before).1.map fun plan =>
        plan.appendHeaders found, before) := by
  have hoption : ∀ texts, (request.replaceHeaders texts).configPath = request.configPath :=
    fun _ => rfl
  have houtput : ∀ texts output,
      (request.replaceHeaders texts).mergeOutput output = request.mergeOutput output :=
    fun _ _ => rfl
  rcases hload : (loadConfiguration request.configPath).exec before with
    ⟨error | configuration, ready⟩
  · -- Nothing is merged where the configuration cannot be loaded.
    have hfails : ∀ texts, (readPlan (request.replaceHeaders texts)).exec before =
        (.error error, ready) :=
      fun texts => Attempt.exec_bind_of_error (by rw [hoption]; exact hload) _
    rw [hfails, hfails, state_of_exec_readPlan (hfails texts)]
    rfl
  · have hplan : ∀ texts, (readPlan (request.replaceHeaders texts)).exec before =
        ((settle (request.replaceHeaders texts) configuration).mapError .reported, ready) :=
      fun texts => exec_readPlan (by rw [hoption]; exact hload)
    rw [hplan, hplan, state_of_exec_readPlan (hplan texts), settle_eq, settle_eq,
      mergeSource_of_ok h]
    simp only [houtput]
    rcases (request.replaceHeaders []).mergeSource configuration.source with error | merged
    · rfl
    · rcases frontMatterEntries (request.mergeOutput configuration.output).frontMatter with
        error | entries <;> rfl

/-- A run whose headers are malformed fails. -/
theorem exec_run_of_malformed (h : texts.mapM Header.parse = .error cause) (request : Request)
    (before : State) :
    ∃ error, (run (request.replaceHeaders texts)).exec before = (.error error, before) := by
  have hunsettled : Unsettled (request.replaceHeaders texts) before := by
    rcases hload : (loadConfiguration request.configPath).exec before with
      ⟨error | configuration, ready⟩
    · exact .load hload
    · obtain ⟨error, hmerge⟩ := mergeSource_of_error h configuration.source
      exact .merge hload hmerge
  obtain ⟨error, after, hplan⟩ := hunsettled.exec_readPlan
  obtain rfl := state_of_exec_readPlan hplan
  exact ⟨error, (exec_run_of_unsettled hplan).1⟩

/-! ### The notations together -/

/-- **The notations of headers agree.** Take texts with names that have no colon. Either no name is
blank, and then the mapping of these texts, the list with a colon behind each name, and the same
list in a request all give the same headers, trimmed and in this order, and change nothing else in
what a configuration or a run would be without them. Or some name is blank, and then every
configuration with the mapping or with the list is refused, and so is every run with the list. And a
text that defines a header is, written again from what has been read, one that defines the same
header. -/
theorem header_notations_agree (hcolon : ∀ entry ∈ entries, ':' ∉ entry.1.toList) :
    ((∀ entry ∈ entries, Text.trim entry.1 ≠ "") ∧
        (∀ working path content source,
          configuredWith working path content source (.mapping (textEntries entries)) =
              (configuredWith working path content source (.scalar .null)).map
                (fun configuration => configuration.replaceHeaders (trimmedEntries entries)) ∧
          configuredWith working path content source
                (.sequence (textItems (joinedEntries entries))) =
              (configuredWith working path content source (.scalar .null)).map
                (fun configuration => configuration.replaceHeaders (trimmedEntries entries))) ∧
        (∀ (request : Request) before,
          (readPlan (request.replaceHeaders (joinedEntries entries))).exec before =
            (((readPlan (request.replaceHeaders [])).exec before).1.map
              (fun plan => plan.appendHeaders (trimmedEntries entries)), before)) ∨
      (∃ entry ∈ entries, Text.trim entry.1 = "") ∧
        (∀ working path content source,
          (∃ error, configuredWith working path content source (.mapping (textEntries entries)) =
            .error error) ∧
          ∃ error, configuredWith working path content source
            (.sequence (textItems (joinedEntries entries))) = .error error) ∧
        ∀ (request : Request) before, ∃ error,
          (run (request.replaceHeaders (joinedEntries entries))).exec before =
            (.error error, before)) ∧
    ∀ text header, Header.parse text = .ok header →
      Header.parse (header.1 ++ ":" ++ header.2) = .ok header := by
  refine ⟨?_, fun text header => Header.parse_again⟩
  by_cases hnames : ∀ entry ∈ entries, Text.trim entry.1 ≠ ""
  · have hmapping : headersSetting [(.text "headers", .mapping (textEntries entries))] =
        .ok (trimmedEntries entries) := headersOfEntries_textEntries hnames
    have hparse := mapM_parse_of_nonblank hcolon hnames
    have hlist : headersSetting [(.text "headers", .sequence (textItems (joinedEntries entries)))] =
        .ok (trimmedEntries entries) := by
      refine (headersOfItems_texts (joinedEntries entries)).trans ?_
      rw [hparse]
      rfl
    exact .inl ⟨hnames,
      fun working path content source =>
        ⟨configuredWith_of_ok hmapping, configuredWith_of_ok hlist⟩,
      fun request before => exec_readPlan_of_ok hparse request before⟩
  · have hblank : ∃ entry ∈ entries, Text.trim entry.1 = "" := by
      push Not at hnames
      exact hnames
    obtain ⟨cause, hparse⟩ := mapM_parse_of_blank hcolon hblank
    have hmapping : ∃ error, headersSetting [(.text "headers", .mapping (textEntries entries))] =
        .error error := headersOfEntries_of_blank hblank
    have hlist : ∃ error,
        headersSetting [(.text "headers", .sequence (textItems (joinedEntries entries)))] =
          .error error := by
      refine ⟨.reported (.headerFormat cause),
        (headersOfItems_texts (joinedEntries entries)).trans ?_⟩
      rw [hparse]
      rfl
    exact .inr ⟨hblank,
      fun working path content source =>
        ⟨configuredWith_of_error hmapping, configuredWith_of_error hlist⟩,
      fun request before => exec_run_of_malformed hparse request before⟩

/-- Headers with blanks around names and values, a colon in a value, and an empty value. -/
def spacedHeaders : List (String × String) :=
  [("Host ", " api:8080"), ("\tToken", "a b\u00a0"), ("Empty", "")]

theorem header_notations_agree_spaced :
    (∀ entry ∈ spacedHeaders, ':' ∉ entry.1.toList) ∧
      (∀ working path content source,
        configuredWith working path content source (.mapping (textEntries spacedHeaders)) =
          configuredWith working path content source
            (.sequence (textItems ["Host : api:8080", "\tToken:a b\u00a0", "Empty:"]))) ∧
      ∀ (request : Request) before,
        (readPlan (request.replaceHeaders ["Host : api:8080", "\tToken:a b\u00a0", "Empty:"])).exec
            before =
          (((readPlan (request.replaceHeaders [])).exec before).1.map (fun plan =>
            plan.appendHeaders [("Host", "api:8080"), ("Token", "a b"), ("Empty", "")]),
            before) := by
  have hcolon : ∀ entry ∈ spacedHeaders, ':' ∉ entry.1.toList := by decide
  have hnames : ¬ ∃ entry ∈ spacedHeaders, Text.trim entry.1 = "" := by decide
  have hjoined : joinedEntries spacedHeaders =
      ["Host : api:8080", "\tToken:a b\u00a0", "Empty:"] := by decide
  have htrimmed : trimmedEntries spacedHeaders =
      [("Host", "api:8080"), ("Token", "a b"), ("Empty", "")] := by decide
  obtain ⟨⟨-, hconfigured, hplanned⟩ | ⟨hblank, -⟩, -⟩ := header_notations_agree hcolon
  · rw [hjoined, htrimmed] at hconfigured hplanned
    exact ⟨hcolon, fun working path content source =>
      (hconfigured working path content source).1.trans
        (hconfigured working path content source).2.symm, hplanned⟩
  · exact absurd hblank hnames

end SchemaPages.Generation
