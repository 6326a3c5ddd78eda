import SchemaPages.Generation.Writer
import SchemaPages.Proofs.Files.Tree
import SchemaPages.Proofs.Host.Attempt

/-!
# What writing documents leaves behind

The name of a document that holds no slash is one segment of a path, so the file of the document
lies directly in the output directory, and documents with different names have different files.
Writing documents one after the other therefore never writes over a file of its own: when it
succeeds, every document with content can be read back from its file, and whatever lies elsewhere is
as it was (`filed_of_exec_writeFiles`). The induction is on the documents still to be written; what
carries it is that a write keeps the directories and touches one place only.
-/

namespace SchemaPages.Generation

open Files (Path Location Tree)
open Host (Attempt State)
open Pages (Documents documentFile)

/-- Names of documents that can lie side by side in a directory: distinct, and without slashes. -/
structure WellNamed (names : List String) : Prop where
  distinct : names.Nodup
  plain : ∀ name ∈ names, '/' ∉ name.toList

theorem WellNamed.perm {names others : List String} (h : WellNamed names)
    (hperm : names.Perm others) : WellNamed others :=
  ⟨hperm.nodup h.distinct, fun name hname => h.plain name (hperm.mem_iff.mpr hname)⟩

theorem WellNamed.inNameOrder {documents : Documents} (h : WellNamed (documents.map Prod.fst)) :
    WellNamed ((Pages.inNameOrder documents).map Prod.fst) :=
  h.perm ((Pages.sortedBy_perm _ documents).map Prod.fst).symm

/-! ### The place of a file -/

theorem toList_documentFile (document : String) :
    (documentFile document).toList = document.toList ++ ['.', 'm', 'd'] := by
  simp [documentFile, Pages.documentSuffix]

theorem documentFile_injective {first second : String}
    (h : documentFile first = documentFile second) : first = second := by
  have hlist := congrArg String.toList h
  rw [toList_documentFile, toList_documentFile] at hlist
  exact String.toList_injective (List.append_cancel_right hlist)

/-- A shorter name, such as one that means something else in a path, is no file of a document. -/
theorem documentFile_ne {document name : String} (h : name.toList.length < 3) :
    documentFile document ≠ name := by
  rintro rfl
  rw [toList_documentFile, List.length_append] at h
  simp only [List.length_cons] at h
  omega

theorem originOf_of_not_mem {text : List Char} (h : '/' ∉ text) :
    Path.originOf text = .working := by
  unfold Path.originOf
  split <;> simp_all

theorem ofString_documentFile {document : String} (h : '/' ∉ document.toList) :
    Path.ofString (documentFile document) = ⟨.working, [documentFile document]⟩ := by
  have hplain : '/' ∉ (documentFile document).toList := by
    rw [toList_documentFile]
    simpa using h
  have hempty : documentFile document ≠ "" := documentFile_ne (by decide)
  have hself : documentFile document ≠ Path.selfSegment := documentFile_ne (by decide)
  rw [Path.ofString, originOf_of_not_mem hplain, Path.segmentsOf,
    Text.splitAtChar_of_not_mem hplain]
  simp [hempty, hself]

/-- The file of a document is one segment below the directory. -/
theorem filePath_eq (directory : Path) {document : String} (h : '/' ∉ document.toList) :
    filePath directory document =
      { directory with segments := directory.segments ++ [documentFile document] } := by
  rw [filePath, ofString_documentFile h, Path.join, if_neg (by simp [Path.isAbsolute])]

theorem locate_filePath (directory : Path) (working : Location) {document : String}
    (h : '/' ∉ document.toList) :
    (filePath directory document).locate working =
      directory.locate working ++ [documentFile document] := by
  have hparent : documentFile document ≠ Path.parentSegment := documentFile_ne (by decide)
  rw [filePath_eq directory h, Path.locate, Path.locate, List.foldl_append]
  simp [Path.step, Path.isAbsolute, hparent]

/-- Documents with different names have different files. -/
theorem locate_filePath_ne (directory : Path) (working : Location) {first second : String}
    (hfirst : '/' ∉ first.toList) (hsecond : '/' ∉ second.toList) (hne : first ≠ second) :
    (filePath directory first).locate working ≠ (filePath directory second).locate working := by
  rw [locate_filePath directory working hfirst, locate_filePath directory working hsecond]
  intro heq
  have hfile := List.append_cancel_left heq
  exact hne (documentFile_injective (List.singleton_inj.mp hfile))

/-! ### One document after the other -/

variable {directory : Path} {documents rest : Documents} {name text : String}
  {before after : State} {paths : List Path}

theorem wellNamed_cons {names : List String} (h : WellNamed (name :: names)) :
    name ∉ names ∧ '/' ∉ name.toList ∧ WellNamed names := by
  obtain ⟨hfirst, hnodup⟩ := List.nodup_cons.mp h.distinct
  exact ⟨hfirst, h.plain name List.mem_cons_self, hnodup,
    fun other hother => h.plain other (List.mem_cons_of_mem _ hother)⟩

/-- A document without content is only noted. -/
theorem exec_writeFiles_skip :
    (writeFiles directory ((name, "") :: rest)).exec before =
      (writeFiles directory rest).exec
        (before.noted ⟨.debug, .output, "Skipping empty document " ++ name⟩) := by
  rw [writeFiles, if_pos rfl, Attempt.exec_bind, Attempt.exec_note]

/-- A document with content is written and noted before the others are written; if it cannot be
written, nothing has happened. -/
theorem exec_writeFiles_cons (htext : text ≠ "") :
    (writeFiles directory ((name, text) :: rest)).exec before =
      match before.files.write before.working (filePath directory name)
        (Text.Utf8.encode text) with
      | .error cause => (.error ⟨cause, (filePath directory name).text⟩, before)
      | .ok files =>
        Prod.map (Except.map (filePath directory name :: ·)) id
          ((writeFiles directory rest).exec
            ({ before with files }.noted
              ⟨.info, .output, "Wrote " ++ (filePath directory name).text⟩)) := by
  rw [writeFiles, if_neg htext, Attempt.exec_bind, Attempt.exec_request]
  rcases hwrite : before.files.write before.working (filePath directory name)
    (Text.Utf8.encode text) with cause | files
  · simp only [State.answer, hwrite]
    rfl
  · simp only [State.answer, hwrite, Attempt.exec_bind, Attempt.exec_check, Except.mapError,
      Attempt.exec_note, Attempt.exec_pure]
    rcases (writeFiles directory rest).exec _ with ⟨_ | _, _⟩ <;> rfl

theorem exec_writeFiles_cons_eq_ok_iff (htext : text ≠ "") :
    (writeFiles directory ((name, text) :: rest)).exec before = (.ok paths, after) ↔
      ∃ files others,
        before.files.write before.working (filePath directory name) (Text.Utf8.encode text) =
          .ok files ∧
        (writeFiles directory rest).exec
            ({ before with files }.noted
              ⟨.info, .output, "Wrote " ++ (filePath directory name).text⟩) =
          (.ok others, after) ∧
        filePath directory name :: others = paths := by
  rw [exec_writeFiles_cons htext]
  cases before.files.write before.working (filePath directory name) (Text.Utf8.encode text) with
  | error cause => simp
  | ok files =>
    simp only [Except.ok.injEq, exists_and_left, exists_eq_left']
    generalize (writeFiles directory rest).exec _ = outcome
    rcases outcome with ⟨_ | others, final⟩
    · simp [Except.map]
    · constructor
      · intro h
        cases h
        exact ⟨others, rfl, rfl⟩
      · rintro ⟨_, h, rfl⟩
        cases h
        rfl

/-! ### All documents -/

/-- What is left after documents have been written into a directory: each one with content can be
read back from its file, and nothing has changed elsewhere. -/
structure Filed (directory : Path) (documents : Documents) (before : State) (paths : List Path)
    (after : State) : Prop where
  paths_eq : paths =
    (Pages.nonEmpty documents).map fun document => filePath directory document.1
  working : after.working = before.working
  keeps : Tree.KeepsDirectories before.files after.files
  elsewhere : ∀ location,
    (∀ document ∈ Pages.nonEmpty documents,
      location ≠ (filePath directory document.1).locate before.working) →
    after.files.at? location = before.files.at? location
  reads : ∀ document ∈ Pages.nonEmpty documents,
    after.files.read after.working (filePath directory document.1) =
      .ok (Text.Utf8.encode document.2)

theorem nonEmpty_cons_empty : Pages.nonEmpty ((name, "") :: rest) = Pages.nonEmpty rest := by
  simp [Pages.nonEmpty]

theorem nonEmpty_cons (h : text ≠ "") :
    Pages.nonEmpty ((name, text) :: rest) = (name, text) :: Pages.nonEmpty rest := by
  simp [Pages.nonEmpty, h]

theorem mem_names_of_nonEmpty {document : String × String}
    (h : document ∈ Pages.nonEmpty documents) : document.1 ∈ documents.map Prod.fst :=
  List.mem_map_of_mem (List.mem_filter.mp h).1

/-- **Writing.** When all documents have been written, each one with content reads back from its
file as its text in UTF-8, and every other place is as it was. -/
theorem filed_of_exec_writeFiles (hnames : WellNamed (documents.map Prod.fst))
    (h : (writeFiles directory documents).exec before = (.ok paths, after)) :
    Filed directory documents before paths after := by
  induction documents generalizing before paths with
  | nil =>
    cases h
    exact ⟨rfl, rfl, .refl _, fun _ _ => rfl, fun _ hmem => absurd hmem List.not_mem_nil⟩
  | cons document rest ih =>
    obtain ⟨name, text⟩ := document
    obtain ⟨hfirst, hplain, hrest⟩ := wellNamed_cons hnames
    by_cases htext : text = ""
    · subst htext
      rw [exec_writeFiles_skip] at h
      obtain ⟨hpaths, hworking, hkeeps, helsewhere, hreads⟩ := ih hrest h
      rw [← nonEmpty_cons_empty] at hpaths helsewhere hreads
      exact ⟨hpaths, hworking, hkeeps, helsewhere, hreads⟩
    · obtain ⟨files, others, hwrite, hrun, rfl⟩ := (exec_writeFiles_cons_eq_ok_iff htext).mp h
      have hdone := ih hrest hrun
      have hother : ∀ document ∈ Pages.nonEmpty rest,
          (filePath directory name).locate before.working ≠
            (filePath directory document.1).locate before.working := by
        intro document hmem
        have hname := mem_names_of_nonEmpty hmem
        exact locate_filePath_ne directory before.working hplain (hrest.plain _ hname)
          fun heq => hfirst (heq ▸ hname)
      -- No later document has the file just written, so its content stays.
      have hkept := hdone.elsewhere _ hother
      refine ⟨?_, hdone.working, (Tree.keepsDirectories_write hwrite).trans hdone.keeps, ?_, ?_⟩
      · rw [nonEmpty_cons htext, List.map_cons, hdone.paths_eq]
      · intro location hlocation
        rw [nonEmpty_cons htext, List.forall_mem_cons] at hlocation
        rw [hdone.elsewhere location hlocation.2]
        exact Tree.at?_write_of_ne hwrite hlocation.1
      · rw [nonEmpty_cons htext, List.forall_mem_cons]
        refine ⟨?_, hdone.reads⟩
        rw [hdone.working]
        exact Tree.read_of_keeps hdone.keeps hkept (Tree.read_write_self hwrite)

/-- Writing documents makes the directory first and then follows the order of the names. -/
theorem exec_writeDocuments_eq_ok_iff :
    (writeDocuments documents directory).exec before = (.ok paths, after) ↔
      (before.files.makeDirectories before.working directory).2 = .ok () ∧
        (writeFiles directory (Pages.inNameOrder documents)).exec
          { before with files := (before.files.makeDirectories before.working directory).1 } =
          (.ok paths, after) := by
  rw [writeDocuments, Attempt.exec_bind, Attempt.exec_request]
  simp only [State.answer, Attempt.exec_bind_eq_ok_iff, Attempt.exec_check_eq_ok_iff]
  constructor
  · rintro ⟨_, _, ⟨hmade, rfl⟩, hrest⟩
    exact ⟨hmade, hrest⟩
  · rintro ⟨hmade, hrest⟩
    exact ⟨(), _, ⟨hmade, rfl⟩, hrest⟩

end SchemaPages.Generation
