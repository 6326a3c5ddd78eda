import SchemaPages.Proofs.Generation.Consulted
import SchemaPages.Proofs.Generation.Frame
import SchemaPages.Proofs.Generation.Link

/-!
# Running twice

A run that takes its schema from a file and writes its documents into a directory can be repeated on
the files that it has left. The directory is there then, and each document is in its file already,
so writing the same documents again changes nothing (`exec_publish_again`). What the run has read
reads as before unless it has been written over (`read_of_exec_publish`), so the second run has the
same documents to write, and leaves all files as it has found them (`run_twice`).
-/

namespace SchemaPages.Generation

open Files (Path Tree)
open Host (Asked Attempt Failed Respects State)
open Introspection (AboutSource SourceSettings)
open Settings (Configuration)

variable {request : Request} {plan : Plan} {schema : Schema} {outcome : Outcome}
  {configuration : Configuration} {configPath : Option String} {settings : SourceSettings}
  {directory path json : Path} {documents : Pages.Documents} {paths : List Path}
  {content : Text.Bytes} {text : String} {before ready again after : State}

/-! ### The files that a run reads -/

/-- Whether a configuration file, if one is named, can be read on two hosts, with the same content.
-/
structure ConfigurationKept (configPath : Option String) (state other : State) : Prop where
  working : state.working = other.working
  content : ∀ text, configPath = some text → ∃ content,
    state.files.read state.working (Path.ofString text) = .ok content ∧
      other.files.read other.working (Path.ofString text) = .ok content

theorem AboutConfiguration.respects_kept {asked : Asked} (h : AboutConfiguration configPath asked) :
    Respects (ConfigurationKept configPath) asked := by
  intro state other hkept
  obtain ⟨text, hpath, hasked⟩ := h
  obtain ⟨content, hread, hread'⟩ := hkept.content text hpath
  rcases hasked with rfl | rfl | rfl
  · refine ⟨?_, hkept⟩
    simp only [State.answer, Tree.status_of_read hread, Tree.status_of_read hread']
  · exact ⟨hkept.working, hkept⟩
  · exact ⟨hread.trans hread'.symm, hkept⟩

/-- A configuration that can be loaded has been read. -/
theorem exists_read_of_exec_load
    (h : (Configuration.load text).exec before = (.ok configuration, after)) :
    ∃ content, before.files.read before.working (Path.ofString text) = .ok content := by
  rw [Configuration.load, Attempt.exec_bind_eq_ok_iff] at h
  obtain ⟨there, middle, hthere, h⟩ := h
  have hkept : middle = before := by
    rw [Settings.isThere, Attempt.exec_request_bind] at hthere
    split at hthere <;> cases hthere <;> rfl
  subst hkept
  split at h
  · cases h
  · simp only [Attempt.exec_request_bind] at h
    obtain ⟨content, _, hcontent, -⟩ := Attempt.exec_bind_eq_ok_iff.mp h
    exact ⟨content, (Attempt.exec_check_eq_ok_iff.mp hcontent).1⟩

/-- Settings that can be settled have been read. -/
theorem exists_read_of_exec_readPlan (h : (readPlan request).exec before = (.ok plan, ready))
    (hpath : request.configPath = some text) :
    ∃ content, before.files.read before.working (Path.ofString text) = .ok content := by
  obtain ⟨configuration, _, hload, -⟩ := Attempt.exec_bind_eq_ok_iff.mp h
  rw [hpath] at hload
  exact exists_read_of_exec_load (Attempt.exec_adapt_eq_ok_iff.mp hload)

theorem exists_read_of_exec_readFile
    (h : (Introspection.readFile path).exec before = (.ok text, after)) :
    ∃ content, before.files.read before.working path = .ok content := by
  rw [Introspection.readFile, Attempt.exec_request_bind] at h
  split at h
  · cases h
  · cases h
  · next content hread => exact ⟨content, hread⟩

/-- A schema that can be loaded from a file has been read. -/
theorem exists_read_of_exec_loadSchema (hsource : settings.source = .file json)
    (h : (Introspection.loadSchema settings).exec before = (.ok schema, after)) :
    ∃ content, before.files.read before.working json = .ok content := by
  obtain ⟨text, _, htext, -⟩ := Attempt.exec_bind_eq_ok_iff.mp h
  have hread := Attempt.exec_adapt_eq_ok_iff.mp htext
  rw [Introspection.readText, hsource] at hread
  simp only [Introspection.sourceNote, Attempt.exec_note_bind] at hread
  obtain ⟨content, hcontent⟩ := exists_read_of_exec_readFile hread
  exact ⟨content, hcontent⟩

/-- Settings are settled as before if the configuration file reads as before. -/
theorem exec_readPlan_of_kept (hkept : ConfigurationKept request.configPath before again)
    (h : (readPlan request).exec before = (.ok plan, ready)) :
    (readPlan request).exec again = (.ok plan, again) := by
  have halike := ((asks_readPlan request).mono fun _ =>
    AboutConfiguration.respects_kept).alike hkept
  refine Prod.ext ?_ (state_of_exec_readPlan rfl)
  rw [← halike.result, h]

/-- A schema is loaded as before if its file reads as before. -/
theorem exec_loadSchema_of_kept (hsource : settings.source = .file json)
    (hkept : before.files.read before.working json = again.files.read again.working json)
    (h : (Introspection.loadSchema settings).exec before = (.ok schema, after)) :
    ∃ final, (Introspection.loadSchema settings).exec again = (.ok schema, final) := by
  have hseen : settings.source.SeenAlike before again := by
    rw [hsource]
    exact ⟨by rintro _ ⟨⟩, fun path hpath => by cases hpath; exact hkept, by rintro ⟨⟩⟩
  have halike := ((Introspection.asks_loadSchema settings).mono fun _ =>
    AboutSource.respects).alike hseen
  refine ⟨_, Prod.ext ?_ rfl⟩
  rw [← halike.result, h]

/-- Loading a schema changes neither the files nor the working directory. -/
theorem kept_of_exec_loadSchema {result : Except (Failed Introspection.LoadError) Schema}
    (h : (Introspection.loadSchema settings).exec before = (result, after)) :
    after.working = before.working ∧ after.files = before.files := by
  have hkept := ((Introspection.asks_loadSchema settings).mono
    fun _ => AboutSource.leaves).unchanged before
  rw [h] at hkept
  exact Prod.mk.inj hkept

/-! ### The files that a run writes -/

/-- A file that is none of those written reads as before. -/
theorem read_of_exec_writeDocuments (hnames : WellNamed (documents.map Prod.fst))
    (h : (writeDocuments documents directory).exec before = (.ok paths, after))
    (hread : before.files.read before.working path = .ok content)
    (hapart : ∀ written ∈ paths, written.locate before.working ≠ path.locate before.working) :
    after.files.read before.working path = .ok content := by
  obtain ⟨-, hwrite⟩ := exec_writeDocuments_eq_ok_iff.mp h
  have hfiled := filed_of_exec_writeFiles hnames.inNameOrder hwrite
  have hnew := Tree.madeAlong_makeDirectories before.files before.working directory
  have hmade := Tree.read_of_keeps hnew.keepsDirectories ?_ hread
  · refine Tree.read_of_keeps hfiled.keeps (hfiled.elsewhere _ fun document hmem heq => ?_) hmade
    refine hapart (filePath directory document.1) ?_ heq.symm
    rw [hfiled.paths_eq]
    exact List.mem_map_of_mem hmem
  · -- A directory is made only where nothing was, and there is a file.
    obtain ⟨location, hlocate, hfile⟩ := Tree.read_eq_ok_iff.mp hread
    rw [Tree.locate_eq hlocate]
    by_contra hchanged
    exact nomatch (hnew location hchanged).1.symm.trans hfile

/-- Documents that are in their files already are written without a change. -/
theorem exec_writeFiles_again
    (h : ∀ document ∈ Pages.nonEmpty documents,
      again.files.read again.working (filePath directory document.1) =
        .ok (Text.Utf8.encode document.2)) :
    ∃ final, (writeFiles directory documents).exec again =
        (.ok ((Pages.nonEmpty documents).map fun document => filePath directory document.1),
          final) ∧
      final.files = again.files := by
  induction documents generalizing again with
  | nil => exact ⟨again, rfl, rfl⟩
  | cons document rest ih =>
    obtain ⟨name, text⟩ := document
    by_cases htext : text = ""
    · subst htext
      rw [nonEmpty_cons_empty] at h ⊢
      rw [exec_writeFiles_skip]
      exact ih h
    · rw [nonEmpty_cons htext] at h ⊢
      obtain ⟨hfirst, hrest⟩ := List.forall_mem_cons.mp h
      obtain ⟨final, hrun, hfiles⟩ :=
        @ih (again.noted ⟨.info, .output, "Wrote " ++ (filePath directory name).text⟩) hrest
      exact ⟨final, (exec_writeFiles_cons_eq_ok_iff htext).mpr
        ⟨again.files, _, Tree.write_of_read hfirst, hrun, rfl⟩, hfiles⟩

/-- Documents that have been written are written again without a change. -/
theorem exec_writeDocuments_again (hnames : WellNamed (documents.map Prod.fst))
    (h : (writeDocuments documents directory).exec before = (.ok paths, after))
    (hfiles : again.files = after.files) (hworking : again.working = before.working) :
    ∃ final, (writeDocuments documents directory).exec again = (.ok paths, final) ∧
      final.files = again.files := by
  obtain ⟨hmade, hwrite⟩ := exec_writeDocuments_eq_ok_iff.mp h
  have hfiled := filed_of_exec_writeFiles hnames.inNameOrder hwrite
  have hthere : again.files.isDirectory again.working directory = true := by
    rw [hfiles, hworking]
    exact Tree.isDirectory_of_keeps hfiled.keeps (Tree.isDirectory_of_makeDirectories hmade)
  have hkept := Tree.makeDirectories_of_isDirectory hthere
  -- The directory is there, so the files are written from the state as it is.
  have hreads : ∀ document ∈ Pages.nonEmpty (Pages.inNameOrder documents),
      again.files.read again.working (filePath directory document.1) =
        .ok (Text.Utf8.encode document.2) := by
    rw [hfiles, hworking.trans hfiled.working.symm]
    exact hfiled.reads
  obtain ⟨final, hrun, hunchanged⟩ := exec_writeFiles_again hreads
  refine ⟨final, exec_writeDocuments_eq_ok_iff.mpr ⟨?_, ?_⟩, hunchanged⟩
  · rw [hkept]
  · rw [hkept, hfiled.paths_eq]
    exact hrun

/-- Publishing in a directory notes the documents and writes them into it. -/
theorem exec_writeDocuments_of_exec_publish (hdirectory : plan.output.outDir = some directory)
    (h : (publish plan schema).exec before = (.ok outcome, after)) :
    (writeDocuments (documentsWith plan.entries schema) directory).exec
        (before.noted (renderedNote schema)) = (.ok outcome.writtenPaths, after) ∧
      outcome = ⟨documentsWith plan.entries schema, outcome.writtenPaths, none⟩ := by
  rw [exec_publish, hdirectory, exec_deliver_some] at h
  split at h <;> cases h
  next hwritten => exact ⟨hwritten, rfl⟩

theorem read_of_exec_publish (hdirectory : plan.output.outDir = some directory)
    (h : (publish plan schema).exec before = (.ok outcome, after))
    (hread : before.files.read before.working path = .ok content)
    (hapart : ∀ written ∈ outcome.writtenPaths,
      written.locate before.working ≠ path.locate before.working) :
    after.files.read before.working path = .ok content := by
  obtain ⟨hwritten, -⟩ := exec_writeDocuments_of_exec_publish hdirectory h
  -- The documents are noted first, which leaves the files and the working directory as they are.
  have hnoted : after.files.read (before.noted (renderedNote schema)).working path = .ok content :=
    read_of_exec_writeDocuments (wellNamed_documentsWith _ _) hwritten hread hapart
  exact hnoted

/-- Documents that have been published are published again without a change. -/
theorem exec_publish_again (hdirectory : plan.output.outDir = some directory)
    (h : (publish plan schema).exec before = (.ok outcome, after))
    (hfiles : again.files = after.files) (hworking : again.working = before.working) :
    ∃ final, (publish plan schema).exec again = (.ok outcome, final) ∧
      final.files = again.files := by
  obtain ⟨hwritten, houtcome⟩ := exec_writeDocuments_of_exec_publish hdirectory h
  have hnoted : (again.noted (renderedNote schema)).files = after.files := hfiles
  obtain ⟨final, hrun, hkept⟩ :=
    exec_writeDocuments_again (wellNamed_documentsWith _ _) hwritten hnoted hworking
  refine ⟨final, ?_, hkept⟩
  rw [exec_publish, hdirectory, exec_deliver_some, hrun, houtcome]

/-! ### Two runs -/

/-- **Generating twice changes nothing.** Let a run take its schema from a file and write its
documents into a directory, where source and directory are those of the request or of its
configuration file. If the run succeeds, and has written over neither the file with the schema nor
the configuration file, the same run succeeds on the files that it has left, with the same outcome,
and leaves these files as they are, whatever else is different on the host. -/
theorem run_twice (hplan : (readPlan request).exec before = (.ok plan, ready))
    (hsource : plan.source.source = .file json) (hdirectory : plan.output.outDir = some directory)
    (hrun : (run request).exec before = (.ok outcome, after))
    (hjson : ∀ written ∈ outcome.writtenPaths,
      written.locate before.working ≠ json.locate before.working)
    (hconfig : ∀ text, request.configPath = some text → ∀ written ∈ outcome.writtenPaths,
      written.locate before.working ≠ (Path.ofString text).locate before.working) :
    ∀ again : State, again.files = after.files → again.working = before.working →
      ∃ final, (run request).exec again = (.ok outcome, final) ∧ final.files = after.files := by
  intro again hfiles hworking
  obtain rfl := state_of_exec_readPlan hplan
  rw [run_eq, Attempt.exec_bind_of_ok hplan] at hrun
  obtain ⟨schema, loaded, hwithin, hpublish⟩ := Attempt.exec_bind_eq_ok_iff.mp hrun
  have hload := Attempt.exec_adapt_eq_ok_iff.mp hwithin
  obtain ⟨hloadedWorking, hloadedFiles⟩ := kept_of_exec_loadSchema hload
  -- What the first run has read is not written over, so it reads the same in the second one.
  have hreads : ∀ path content, ready.files.read ready.working path = .ok content →
      (∀ written ∈ outcome.writtenPaths,
        written.locate ready.working ≠ path.locate ready.working) →
      again.files.read again.working path = .ok content := by
    intro path content hread hapart
    rw [← hloadedWorking] at hapart
    rw [← hloadedWorking, ← hloadedFiles] at hread
    rw [hfiles, hworking, ← hloadedWorking]
    exact read_of_exec_publish hdirectory hpublish hread hapart
  have hconfiguration : ConfigurationKept request.configPath ready again := by
    refine ⟨hworking.symm, fun text hpath => ?_⟩
    obtain ⟨content, hread⟩ := exists_read_of_exec_readPlan hplan hpath
    exact ⟨content, hread, hreads _ _ hread (hconfig text hpath)⟩
  obtain ⟨content, hread⟩ := exists_read_of_exec_loadSchema hsource hload
  obtain ⟨loadedAgain, hloadAgain⟩ :=
    exec_loadSchema_of_kept hsource (hread.trans (hreads _ _ hread hjson).symm) hload
  obtain ⟨hworkingAgain, hfilesAgain⟩ := kept_of_exec_loadSchema hloadAgain
  have hwithinAgain : ((Introspection.loadSchema plan.source).within Error.load).exec again =
      (.ok schema, loadedAgain) := Attempt.exec_adapt_eq_ok_iff.mpr hloadAgain
  obtain ⟨final, hfinal, hkept⟩ := exec_publish_again hdirectory hpublish
    (hfilesAgain.trans hfiles) (hworkingAgain.trans (hworking.trans hloadedWorking.symm))
  refine ⟨final, ?_, hkept.trans (hfilesAgain.trans hfiles)⟩
  rw [run_eq, Attempt.exec_bind_of_ok (exec_readPlan_of_kept hconfiguration hplan),
    Attempt.exec_bind_of_ok hwithinAgain]
  exact hfinal

/-- A host with a schema in a file, and with a configuration that names this file and a directory.
-/
def repeatHost : State :=
  { files := ⟨[(["pets.yml"],
        .file (Text.Utf8.encode "source:\n  json: answer.json\noutput:\n  out_dir: out\n")),
      (["answer.json"], .file storedAnswer)]⟩
    working := [], input := [], replies := [], sent := [], pauses := [], notes := [] }

/-- A request that leaves everything to the configuration. -/
def repeatRequest : Request :=
  { configPath := some "pets.yml" }

/-- A run that makes a directory and writes a file into it is repeated without a change. -/
theorem run_twice_stored :
    ∃ outcome after final, (run repeatRequest).exec repeatHost = (.ok outcome, after) ∧
      outcome.writtenPaths = [⟨.root, ["out", "enums.md"]⟩] ∧
      (run repeatRequest).exec { repeatHost with files := after.files } = (.ok outcome, final) ∧
      final.files = after.files := by
  have hsettled : ((readPlan repeatRequest).exec repeatHost).1.toOption.map
      (fun plan => (plan.source.source, plan.output.outDir)) =
        some (.file ⟨.root, ["answer.json"]⟩, some ⟨.root, ["out"]⟩) := by decide +kernel
  have hdone : ((run repeatRequest).exec repeatHost).1.toOption.map Outcome.writtenPaths =
      some [⟨.root, ["out", "enums.md"]⟩] := by decide +kernel
  obtain ⟨plan, ready, hplan, hview⟩ := Attempt.exists_of_map_toOption hsettled
  obtain ⟨hsource, hdirectory⟩ := Prod.mk.inj hview
  obtain ⟨outcome, after, hrun, hwritten⟩ := Attempt.exists_of_map_toOption hdone
  have hjson : ∀ written ∈ outcome.writtenPaths, written.locate repeatHost.working ≠
      Path.locate repeatHost.working ⟨.root, ["answer.json"]⟩ := by
    rw [hwritten]
    decide +kernel
  have hconfig : ∀ text, repeatRequest.configPath = some text →
      ∀ written ∈ outcome.writtenPaths, written.locate repeatHost.working ≠
        (Path.ofString text).locate repeatHost.working := by
    rintro _ ⟨⟩
    rw [hwritten]
    decide +kernel
  obtain ⟨final, hagain, hkept⟩ := run_twice hplan hsource hdirectory hrun hjson hconfig
    { repeatHost with files := after.files } rfl rfl
  exact ⟨outcome, after, final, hrun, hwritten, hagain, hkept⟩

end SchemaPages.Generation
