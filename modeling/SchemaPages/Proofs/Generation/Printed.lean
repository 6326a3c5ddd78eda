import SchemaPages.Proofs.Generation.Link
import SchemaPages.Proofs.Generation.Stages
import SchemaPages.Proofs.Pages.NameOrder

/-!
# Printed and written documents

Whether a run prints its documents or writes them into a directory is looked at last: two requests
that differ in the directory only are prepared alike, with the same schema, in the same state
(`exec_prepare_into`). What is printed is the documents with content in the order of their names,
and the files are written from the same list, so the printed text is what the files hold, one after
the other (`printed_eq_written`).
-/

namespace SchemaPages.Generation

open Files (Path)
open Host (Attempt Failed State)
open Settings (Configuration)

variable {request : Request} {plan : Plan} {schema : Schema} {outcome : Outcome}
  {directory : String} {before ready after : State}

/-! ### Requests that differ in the directory -/

/-- The request with an output directory. -/
def Request.into (request : Request) (directory : String) : Request :=
  { request with outDir := some directory }

/-- The plan with an output directory. -/
def Plan.into (plan : Plan) (directory : Path) : Plan :=
  { plan with output := { plan.output with outDir := some directory } }

theorem mergeOutput_into (hdirectory : directory ≠ "") (settings : Settings.OutputSettings) :
    (request.into directory).mergeOutput settings =
      { request.mergeOutput settings with outDir := some (Path.ofString directory) } := by
  rw [Request.mergeOutput, Request.into, nonEmpty?_some hdirectory]
  rfl

/-- A directory changes nothing but where the documents go. -/
theorem settle_into (hdirectory : directory ≠ "") (configuration : Configuration) :
    settle (request.into directory) configuration =
      (settle request configuration).map (Plan.into · (Path.ofString directory)) := by
  have hsource : (request.into directory).mergeSource configuration.source =
      request.mergeSource configuration.source := rfl
  rw [settle_eq, settle_eq, hsource, mergeOutput_into hdirectory]
  rcases request.mergeSource configuration.source with error | source
  · rfl
  · simp only
    cases frontMatterEntries (request.mergeOutput configuration.output).frontMatter <;> rfl

theorem exec_readPlan_into (hdirectory : directory ≠ "") (before : State) :
    (readPlan (request.into directory)).exec before =
      ((readPlan request).exec before).map
        (Except.map (Plan.into · (Path.ofString directory))) id := by
  rcases hload : (loadConfiguration request.configPath).exec before with
    ⟨error | configuration, ready⟩
  · rw [readPlan, readPlan, Attempt.exec_bind_of_error hload]
    exact Attempt.exec_bind_of_error hload _
  · have hinto : (loadConfiguration (request.into directory).configPath).exec before =
        (.ok configuration, ready) := hload
    rw [exec_readPlan hload, exec_readPlan hinto, settle_into hdirectory]
    cases settle request configuration <;> rfl

/-- The same schema is loaded, with the same plan for anything else. -/
theorem exec_prepare_into (request : Request) (hdirectory : directory ≠ "") (before : State) :
    (prepare (request.into directory)).exec before =
      ((prepare request).exec before).map
        (Except.map (Prod.map (Plan.into · (Path.ofString directory)) id)) id := by
  rcases hplan : (readPlan request).exec before with ⟨error | plan, ready⟩
  · have hinto : (readPlan (request.into directory)).exec before = (.error error, ready) := by
      rw [exec_readPlan_into hdirectory, hplan]
      rfl
    rw [prepare, prepare, Attempt.exec_bind_of_error hplan, Attempt.exec_bind_of_error hinto]
    rfl
  · have hinto : (readPlan (request.into directory)).exec before =
        (.ok (plan.into (Path.ofString directory)), ready) := by
      rw [exec_readPlan_into hdirectory, hplan]
      rfl
    have hsource : (plan.into (Path.ofString directory)).source = plan.source := rfl
    rw [prepare, prepare, Attempt.exec_bind_of_ok hplan, Attempt.exec_bind_of_ok hinto,
      Attempt.exec_bind, Attempt.exec_bind, hsource]
    rcases ((Introspection.loadSchema plan.source).within Error.load).exec ready with
      ⟨_ | _, _⟩ <;> rfl

/-! ### Requests without a directory -/

/-- Without a directory in the request and in the configuration there is none in the plan. -/
theorem outDir_of_exec_readPlan (hrequest : nonEmpty? request.outDir = none)
    (hconfiguration : ∀ configuration ready,
      (loadConfiguration request.configPath).exec before = (.ok configuration, ready) →
      configuration.output.outDir = none)
    (hplan : (readPlan request).exec before = (.ok plan, ready)) : plan.output.outDir = none := by
  rcases hload : (loadConfiguration request.configPath).exec before with
    ⟨error | configuration, loaded⟩
  · rw [readPlan, Attempt.exec_bind_of_error hload] at hplan
    cases hplan
  · have hnone : (request.mergeOutput configuration.output).outDir = none := by
      rw [Request.mergeOutput, hrequest, hconfiguration _ _ hload]
      rfl
    rw [exec_readPlan hload, settle_eq] at hplan
    split at hplan
    · cases hplan
    · split at hplan <;> cases hplan
      exact hnone

/-! ### The two deliveries -/

/-- The file of a document in a directory. -/
theorem filePath_of_mem_documentsWith {entries : FrontMatter.Entries} {name text : String}
    (h : (name, text) ∈ documentsWith entries schema) (path : Path) :
    filePath path name = { path with segments := path.segments ++ [name ++ ".md"] } := by
  have hname : name ∈ Pages.documentNames := by
    rw [← map_fst_documentsWith entries schema]
    exact List.mem_map_of_mem h
  exact filePath_eq path (wellNamed_documentNames.plain name hname)

theorem mem_nonEmpty_inNameOrder {documents : Pages.Documents} {document : String × String} :
    document ∈ Pages.nonEmpty (Pages.inNameOrder documents) ↔
      document ∈ documents ∧ document.2 ≠ "" := by
  rw [Pages.nonEmpty, List.mem_filter, Pages.inNameOrder, Pages.mem_sortedBy]
  simp

/-- Publishing in a directory keeps the documents and files those with content in the order of their
names. -/
theorem written_of_exec_publish {path : Path} (hpath : plan.output.outDir = some path)
    (h : (publish plan schema).exec ready = (.ok outcome, after)) :
    outcome.documents = documentsWith plan.entries schema ∧
      outcome.writtenPaths = (Pages.nonEmpty (Pages.inNameOrder outcome.documents)).map
        (fun document => { path with segments := path.segments ++ [document.1 ++ ".md"] }) ∧
      ∀ document ∈ Pages.nonEmpty (Pages.inNameOrder outcome.documents),
        after.files.read after.working
            { path with segments := path.segments ++ [document.1 ++ ".md"] } =
          .ok (Text.Utf8.encode document.2) := by
  have hdocuments := documents_of_exec_publish h
  obtain ⟨made, hfiled⟩ := filed_of_exec_publish hpath h
  have hplace : ∀ document ∈ Pages.nonEmpty (Pages.inNameOrder outcome.documents),
      filePath path document.1 =
        { path with segments := path.segments ++ [document.1 ++ ".md"] } := by
    intro document hmem
    rw [hdocuments] at hmem
    exact filePath_of_mem_documentsWith (mem_nonEmpty_inNameOrder.mp hmem).1 path
  refine ⟨hdocuments, ?_, fun document hmem => ?_⟩
  · rw [hfiled.paths_eq, ← hdocuments]
    exact List.map_congr_left hplace
  · rw [← hplace document hmem]
    exact hfiled.reads document (hdocuments ▸ hmem)

/-- **Printing and writing.** Carry out a request without an output directory, and the same request
with one, on the same host. Either both fail in the same way before anything is written, or the
first one succeeds. If the second one succeeds too, both have the same documents; the second one has
written a file for each document with content, in the strictly ascending order of their names; and
the first one has printed what these files hold in this order, each followed by a line end. -/
theorem printed_eq_written (hrequest : nonEmpty? request.outDir = none)
    (hconfiguration : ∀ configuration ready,
      (loadConfiguration request.configPath).exec before = (.ok configuration, ready) →
      configuration.output.outDir = none)
    (hdirectory : directory ≠ "") :
    (∃ error after, BeforeWriting error ∧ after.files = before.files ∧
        (run request).exec before = (.error error, after) ∧
        (run { request with outDir := some directory }).exec before = (.error error, after)) ∨
      ∃ printed after, (run request).exec before = (.ok printed, after) ∧
        ∀ written final,
          (run { request with outDir := some directory }).exec before = (.ok written, final) →
          ∃ filled : List (String × String),
            written.documents = printed.documents ∧
            (∀ document, document ∈ filled ↔
              document ∈ printed.documents ∧ document.2 ≠ "") ∧
            (filled.map Prod.fst).Pairwise (· < ·) ∧
            written.writtenPaths = filled.map (fun document =>
              { Path.ofString directory with
                segments := (Path.ofString directory).segments ++ [document.1 ++ ".md"] }) ∧
            (∀ document ∈ filled,
              final.files.read final.working
                  { Path.ofString directory with
                    segments := (Path.ofString directory).segments ++ [document.1 ++ ".md"] } =
                .ok (Text.Utf8.encode document.2)) ∧
            printed.stdoutText =
              some (String.join (filled.map fun document => document.2 ++ "\n")) := by
  have hinto := exec_prepare_into request hdirectory before
  rcases hprepare : (prepare request).exec before with ⟨error | ⟨plan, schema⟩, ready⟩ <;>
    rw [hprepare] at hinto
  · refine .inl ⟨error, ready, failsWith_prepare request before _ _ hprepare,
      files_of_exec_prepare hprepare, ?_, ?_⟩
    · exact Attempt.exec_bind_of_error hprepare _
    · exact Attempt.exec_bind_of_error hinto _
  · obtain ⟨_, hplan⟩ := exec_readPlan_of_exec_prepare hprepare
    have hnone : plan.output.outDir = none := outDir_of_exec_readPlan hrequest hconfiguration hplan
    have hprinted : (run request).exec before =
        (.ok ⟨documentsWith plan.entries schema, [],
          some (Pages.printed (documentsWith plan.entries schema))⟩,
          ready.noted (renderedNote schema)) := by
      rw [exec_run hprepare, exec_publish, hnone, exec_deliver_none]
    refine .inr ⟨_, _, hprinted, fun written final hwritten => ?_⟩
    -- The second request publishes the same schema as a plan with the directory says.
    rw [← Request.into, exec_run hinto] at hwritten
    obtain ⟨hdocuments, hpaths, hreads⟩ := written_of_exec_publish rfl hwritten
    refine ⟨Pages.nonEmpty (Pages.inNameOrder written.documents), hdocuments, ?_, ?_, hpaths,
      hreads, ?_⟩
    · intro document
      rw [hdocuments]
      exact mem_nonEmpty_inNameOrder
    · refine Pages.pairwise_names_nonEmpty ?_
      rw [hdocuments, map_fst_documentsWith]
      exact Pages.nodup_documentNames
    · rw [hdocuments]
      rfl

/-- A request to print documents with front matter. -/
def printRequest : Request :=
  { frontMatter := some "layout:page" }

/-- What is printed of a schema with one type is what the one file holds. -/
theorem printed_eq_written_user :
    ∃ printed after written final text,
      (run printRequest).exec userHost = (.ok printed, after) ∧
        (run userRequest).exec userHost = (.ok written, final) ∧
        written.writtenPaths = [⟨.working, ["out", "objects.md"]⟩] ∧
        final.files.read final.working ⟨.working, ["out", "objects.md"]⟩ =
          .ok (Text.Utf8.encode text) ∧
        printed.stdoutText = some (text ++ "\n") := by
  have hdone : ((run userRequest).exec userHost).1.toOption.map Outcome.writtenPaths =
      some [⟨.working, ["out", "objects.md"]⟩] := by decide +kernel
  rcases hwritten : (run userRequest).exec userHost with ⟨_ | written, final⟩
  · simp [hwritten, Except.toOption] at hdone
  simp only [hwritten, Except.toOption, Option.map_some, Option.some.injEq] at hdone
  rcases @printed_eq_written printRequest "out" userHost rfl
    (fun configuration ready hload => by cases hload; rfl) (by decide) with
    ⟨error, after, -, -, -, hfailed⟩ | ⟨printed, after, hprinted, hsame⟩
  · cases hwritten.symm.trans hfailed
  · obtain ⟨filled, -, -, -, hpaths, hreads, htext⟩ := hsame written final hwritten
    -- There is one path, so one document has content.
    obtain ⟨document, rfl, hpath⟩ := List.map_eq_singleton_iff.mp (hpaths.symm.trans hdone)
    have hread := hreads document List.mem_cons_self
    rw [hpath] at hread
    refine ⟨printed, after, written, final, document.2, hprinted, rfl, hdone, hread, ?_⟩
    rw [htext, List.map_singleton, String.join_cons, String.join_nil, String.append_empty]

end SchemaPages.Generation
