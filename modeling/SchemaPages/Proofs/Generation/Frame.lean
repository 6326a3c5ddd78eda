import SchemaPages.Proofs.Files.Directories
import SchemaPages.Proofs.Generation.Writer
import SchemaPages.Proofs.Pages.NameOrder

/-!
# What writing documents touches

Writing documents makes the output directory, with all that is missing above it, and then writes one
file after the other. If it fails in between, what it has done is what it would have done
successfully for the first documents alone (`exists_of_exec_writeFiles_error`). So in both cases
some of the documents with content, in the order of their names, are in their files, and apart from
directories that were missing nothing else has changed (`writeDocuments_touches`).
-/

namespace SchemaPages.Generation

open Files (Path Location Tree)
open Host (Attempt State)
open Pages (Documents documentFile)

variable {directory : Path} {documents : Documents} {before made after : State} {paths : List Path}
  {failure : Files.Failure}

/-! ### Writing that fails -/

/-- If writing fails, the first documents have been written as if there were no others. -/
theorem exists_of_exec_writeFiles_error
    (h : (writeFiles directory documents).exec before = (.error failure, after)) :
    ∃ done left paths, documents = done ++ left ∧
      (writeFiles directory done).exec before = (.ok paths, after) := by
  induction documents generalizing before with
  | nil => cases h
  | cons document rest ih =>
    obtain ⟨name, text⟩ := document
    by_cases htext : text = ""
    · subst htext
      rw [exec_writeFiles_skip] at h
      obtain ⟨done, left, paths, rfl, hdone⟩ := ih h
      exact ⟨(name, "") :: done, left, paths, rfl, by rw [exec_writeFiles_skip, hdone]⟩
    · rw [exec_writeFiles_cons htext] at h
      cases hwrite : before.files.write before.working (filePath directory name)
          (Text.Utf8.encode text) with
      | error cause =>
        -- The first file cannot be written, so nothing has been done.
        rw [hwrite] at h
        cases h
        exact ⟨[], (name, text) :: rest, [], rfl, rfl⟩
      | ok files =>
        rw [hwrite] at h
        rcases hrest : (writeFiles directory rest).exec
          ({ before with files }.noted ⟨.info, .output, "Wrote " ++ (filePath directory name).text⟩)
          with ⟨cause | others, final⟩ <;> simp only [hrest, Prod.map, Except.map] at h <;> cases h
        obtain ⟨done, left, paths, rfl, hdone⟩ := ih hrest
        exact ⟨(name, text) :: done, left, filePath directory name :: paths, rfl,
          (exec_writeFiles_cons_eq_ok_iff htext).mpr ⟨files, paths, hwrite, hdone, rfl⟩⟩

/-- The state in which a directory has been made, with what was missing above it. -/
def withDirectory (before : State) (directory : Path) : State :=
  { before with files := (before.files.makeDirectories before.working directory).1 }

/-- Writing documents that fails has failed in making the directory or in writing the files. -/
theorem exec_writeDocuments_error
    (h : (writeDocuments documents directory).exec before = (.error failure, after)) :
    after = withDirectory before directory ∨
      (writeFiles directory (Pages.inNameOrder documents)).exec (withDirectory before directory) =
        (.error failure, after) := by
  rw [writeDocuments, Attempt.exec_request_bind, Attempt.exec_bind, Attempt.exec_check] at h
  simp only [State.answer] at h
  rw [withDirectory]
  rcases hmake : before.files.makeDirectories before.working directory with ⟨files, cause | _⟩ <;>
    rw [hmake] at h
  · cases h
    exact .inl rfl
  · exact .inr h

/-! ### What is left -/

/-- What is left when documents have been written into a directory: the text of each of them is at
its place in the directory, and whatever else has changed was missing and is a directory now, the
output directory or one above it. -/
structure WritesOnly (directory : Path) (written : Documents) (before after : State) : Prop where
  files : ∀ document ∈ written,
    after.files.at? (directory.locate before.working ++ [document.1 ++ ".md"]) =
      some (.file (Text.Utf8.encode document.2))
  frame : ∀ location, after.files.at? location ≠ before.files.at? location →
    (∃ document ∈ written, location = directory.locate before.working ++ [document.1 ++ ".md"]) ∨
      before.files.at? location = none ∧ after.files.at? location = some .directory ∧
        directory.LeadsThrough before.working location

/-- The place of a document with content. -/
theorem locate_filePath_of_mem (hnames : WellNamed (documents.map Prod.fst))
    {document : String × String} (h : document ∈ Pages.nonEmpty documents) (working : Location) :
    (filePath directory document.1).locate working =
      directory.locate working ++ [document.1 ++ ".md"] :=
  locate_filePath directory working (hnames.plain _ (mem_names_of_nonEmpty h))

/-- Documents that have been filed in a directory that has been made. -/
theorem writesOnly_of_filed (hnames : WellNamed (documents.map Prod.fst))
    (h : Filed directory documents (withDirectory before directory) paths after) :
    WritesOnly directory (Pages.nonEmpty documents) before after where
  files document hmem := by
    obtain ⟨place, hlocate, hfile⟩ := Tree.read_eq_ok_iff.mp (h.reads document hmem)
    rw [← Tree.locate_eq hlocate, h.working, locate_filePath_of_mem hnames hmem] at hfile
    exact hfile
  frame location hchanged := by
    by_cases hplace : ∃ document ∈ Pages.nonEmpty documents,
        location = directory.locate before.working ++ [document.1 ++ ".md"]
    · exact .inl hplace
    · have helsewhere : after.files.at? location =
          (withDirectory before directory).files.at? location := by
        refine h.elsewhere location fun document hmem heq => hplace ⟨document, hmem, ?_⟩
        rw [heq, locate_filePath_of_mem hnames hmem]
        rfl
      rw [helsewhere] at hchanged ⊢
      exact .inr (Tree.madeAlong_makeDirectories _ before.working directory location hchanged)

/-- Nothing has been written yet when the directory has been made. -/
theorem writesOnly_nil (directory : Path) (before : State) :
    WritesOnly directory [] before (withDirectory before directory) where
  files _ h := absurd h List.not_mem_nil
  frame location hchanged :=
    .inr (Tree.madeAlong_makeDirectories _ before.working directory location hchanged)

/-- What is left when writing fails has been written for the first documents with content. -/
theorem exists_writesOnly_of_error
    (hnames : WellNamed ((Pages.inNameOrder documents).map Prod.fst))
    (h : (writeDocuments documents directory).exec before = (.error failure, after)) :
    ∃ done left, Pages.nonEmpty (Pages.inNameOrder documents) = done ++ left ∧
      WritesOnly directory done before after := by
  rcases exec_writeDocuments_error h with rfl | hfiles
  · exact ⟨[], _, rfl, writesOnly_nil directory before⟩
  · obtain ⟨done, left, paths, hsplit, hdone⟩ := exists_of_exec_writeFiles_error hfiles
    have hfirst : WellNamed (done.map Prod.fst) := by
      rw [hsplit, List.map_append] at hnames
      exact ⟨hnames.distinct.of_append_left, fun name hname =>
        hnames.plain name (List.mem_append_left _ hname)⟩
    refine ⟨Pages.nonEmpty done, Pages.nonEmpty left, ?_, ?_⟩
    · rw [hsplit]
      exact List.filter_append done left
    · exact writesOnly_of_filed hfirst (filed_of_exec_writeFiles hfirst hdone)

/-- **What writing touches.** Let documents with distinct names, each a single segment of a path, be
written into a directory. If that succeeds, the directory and all above it are directories; each
document with content is at its place; these files are returned, in the strictly ascending order of
their names; and every other place is as it was, also the file of a document without content. If it
fails, that holds of the first of these documents, however many, instead of all of them. -/
theorem writeDocuments_touches {result : Except Files.Failure (List Path)}
    (hnames : WellNamed (documents.map Prod.fst))
    (h : (writeDocuments documents directory).exec before = (result, after)) :
    ∃ filled : Documents,
      (∀ document, document ∈ filled ↔ document ∈ documents ∧ document.2 ≠ "") ∧
      (filled.map Prod.fst).Pairwise (· < ·) ∧
      (∀ paths, result = .ok paths →
        paths = filled.map (fun document =>
          { directory with segments := directory.segments ++ [document.1 ++ ".md"] }) ∧
        (∀ location, directory.LeadsThrough before.working location →
          after.files.at? location = some .directory) ∧
        WritesOnly directory filled before after) ∧
      ∀ failure, result = .error failure →
        ∃ count ≤ filled.length, WritesOnly directory (filled.take count) before after := by
  have hordered := hnames.inNameOrder
  refine ⟨Pages.nonEmpty (Pages.inNameOrder documents), fun document => ?_,
    Pages.pairwise_names_nonEmpty hnames.distinct, ?_, ?_⟩
  · rw [Pages.nonEmpty, List.mem_filter, Pages.inNameOrder, Pages.mem_sortedBy]
    simp
  · rintro paths rfl
    obtain ⟨hmade, hwrite⟩ := exec_writeDocuments_eq_ok_iff.mp h
    have hfiled : Filed directory (Pages.inNameOrder documents) (withDirectory before directory)
        paths after := filed_of_exec_writeFiles hordered hwrite
    refine ⟨?_, fun location hthrough => ?_, writesOnly_of_filed hordered hfiled⟩
    · rw [hfiled.paths_eq]
      refine List.map_congr_left fun document hmem => ?_
      exact filePath_eq directory (hordered.plain _ (mem_names_of_nonEmpty hmem))
    · exact hfiled.keeps location (Tree.directory_of_makeDirectories hmade hthrough)
  · rintro failure rfl
    obtain ⟨done, left, hsplit, hdone⟩ := exists_writesOnly_of_error hordered h
    refine ⟨done.length, ?_, ?_⟩
    · rw [hsplit, List.length_append]
      exact Nat.le_add_right _ _
    · rwa [hsplit, List.take_left]

/-- Documents out of order, one of them without content. -/
def strayDocuments : Documents := [("c", "C"), ("b", "B"), ("a", "A"), ("d", "")]

/-- A host with a directory in the place of one file and an older file in the place of another. -/
def strayHost : State :=
  { files := ⟨[(["out"], .directory), (["out", "b.md"], .directory),
      (["out", "d.md"], .file (Text.Utf8.encode "old"))]⟩
    working := [], input := [], replies := [], sent := [], pauses := [], notes := [] }

/-- Three documents are written into a directory that is made with the one above it; in a directory
where the second file cannot be written, the first one is left. -/
theorem writeDocuments_touches_stray :
    WellNamed (strayDocuments.map Prod.fst) ∧
      (∃ paths after, (writeDocuments strayDocuments ⟨.working, ["new", "out"]⟩).exec strayHost =
          (.ok paths, after) ∧
        paths = ["a.md", "b.md", "c.md"].map (fun file => ⟨.working, ["new", "out", file]⟩) ∧
        after.files.at? ["new"] = some .directory ∧
        after.files.at? ["new", "out", "b.md"] = some (.file (Text.Utf8.encode "B"))) ∧
      ∃ failure after done, (writeDocuments strayDocuments ⟨.working, ["out"]⟩).exec strayHost =
          (.error failure, after) ∧
        failure = ⟨.isDirectory, "out/b.md"⟩ ∧
        WritesOnly ⟨.working, ["out"]⟩ done strayHost after := by
  have hnames : WellNamed (strayDocuments.map Prod.fst) := ⟨by decide, by decide⟩
  have hpaths : ((writeDocuments strayDocuments ⟨.working, ["new", "out"]⟩).exec strayHost).1 =
      .ok (["a.md", "b.md", "c.md"].map fun file => ⟨.working, ["new", "out", file]⟩) := by
    decide +kernel
  have hfailure : ((writeDocuments strayDocuments ⟨.working, ["out"]⟩).exec strayHost).1 =
      .error ⟨.isDirectory, "out/b.md"⟩ := by decide +kernel
  refine ⟨hnames, ?_, ?_⟩
  · rcases hrun : (writeDocuments strayDocuments ⟨.working, ["new", "out"]⟩).exec strayHost with
      ⟨result, after⟩
    rw [hrun] at hpaths
    obtain ⟨filled, hfilled, -, hwritten, -⟩ := writeDocuments_touches hnames hrun
    obtain ⟨-, hdirectories, hwrites⟩ := hwritten _ hpaths
    refine ⟨_, after, Prod.ext hpaths rfl, rfl, ?_, ?_⟩
    · exact hdirectories _ ⟨["new"], ⟨["out"], rfl⟩, rfl⟩
    · exact hwrites.files ("b", "B") ((hfilled _).mpr (by decide))
  · rcases hrun : (writeDocuments strayDocuments ⟨.working, ["out"]⟩).exec strayHost with
      ⟨result, after⟩
    rw [hrun] at hfailure
    obtain ⟨filled, -, -, -, hfailed⟩ := writeDocuments_touches hnames hrun
    obtain ⟨count, -, hwrites⟩ := hfailed _ hfailure
    exact ⟨_, after, filled.take count, Prod.ext hfailure rfl, rfl, hwrites⟩

end SchemaPages.Generation
