import SchemaPages.Proofs.Files.Shape
import SchemaPages.Proofs.FrontMatter.Substitution
import SchemaPages.Proofs.Generation.Printed

/-!
# Documents with front matter

Front matter is put in front of the documents that have content, and of no others
(`documentsWith_eq`). So whether a document has content does not depend on it, and as writing looks
only at the names of the documents and at which of them have content, it succeeds with front matter
whenever it does without, with the same files (`exec_writeFiles_framed`). A run with front matter is
therefore the run without it, with a block in front of each document
(`front_matter_only_prefixes`).
-/

namespace SchemaPages.FrontMatter

variable {entries : Entries} {name text other : String}

/-- A document with front matter: a document without content has none. -/
def framed (entries : Entries) (name text : String) : String :=
  if text = "" then "" else block entries name (Pages.documentTitle name) ++ text

theorem framed_eq_empty_iff : framed entries name text = "" ↔ text = "" := by
  rw [framed]
  split <;> simp_all

/-- What stands behind the front matter can be told from the document. -/
theorem framed_injective (h : framed entries name text = framed entries name other) :
    text = other := by
  by_cases htext : text = ""
  · subst htext
    exact (framed_eq_empty_iff.mp (h.symm.trans (framed_eq_empty_iff.mpr rfl))).symm
  · have hother : other ≠ "" := fun hnone =>
      htext (framed_eq_empty_iff.mp (h.trans (framed_eq_empty_iff.mpr hnone)))
    rwa [framed, framed, if_neg htext, if_neg hother, String.append_right_inj] at h

theorem block_nil (name title : String) : block [] name title = "" :=
  rfl

/-- A block that is not empty stands between two lines of dashes, with a blank line behind it. -/
theorem exists_block_eq (h : entries ≠ []) (name title : String) :
    ∃ mapping, block entries name title = "---\n" ++ mapping ++ "---\n\n" :=
  ⟨Yaml.blockMapping (valuesFor entries name title), block_eq h name title⟩

end SchemaPages.FrontMatter

namespace SchemaPages.Generation

open Files (Path)
open Host (Attempt State)
open Pages (Documents)
open Settings (Configuration)
open FrontMatter (framed)

variable {request : Request} {plan : Plan} {schema : Schema} {outcome : Outcome}
  {entries : FrontMatter.Entries} {definition : String} {before after ready : State}

/-! ### The documents -/

theorem lookup_titles {name : String} (h : name ∈ Pages.documentNames) :
    titles.lookup name = some (Pages.documentTitle name) := by
  have hnames : titles.map Prod.fst = Pages.documentNames := by
    rw [titles, List.map_map]
    exact List.map_id _
  exact Pairs.lookup_of_mem (hnames ▸ Pages.nodup_documentNames)
    (List.mem_map.mpr ⟨name, h, rfl⟩)

/-- Each document with content stands behind the front matter. -/
theorem documentsWith_eq (entries : FrontMatter.Entries) (schema : Schema) :
    documentsWith entries schema =
      (Pages.render schema).map fun document =>
        (document.1, framed entries document.1 document.2) := by
  rw [documentsWith]
  split
  · next hnone =>
    obtain rfl := List.isEmpty_iff.mp hnone
    refine (List.map_id _).symm.trans (List.map_congr_left fun document _ => ?_)
    rw [framed, FrontMatter.block_nil, String.empty_append]
    split
    · next hpage => exact congrArg (Prod.mk document.1) hpage
    · rfl
  · refine List.map_congr_left fun document hmem => ?_
    have hname : document.1 ∈ Pages.documentNames := by
      rw [← Pages.map_fst_render schema]
      exact List.mem_map_of_mem hmem
    simp only [FrontMatter.addTo, framed, lookup_titles hname, Option.getD_some]
    split
    · next hpage => rw [hpage]
    · rfl

/-! ### Writing -/

/-- Documents with other texts are written to the same files, if the same ones have content. -/
theorem exec_writeFiles_framed {text : String → String → String}
    (htext : ∀ name page, text name page = "" ↔ page = "") {directory : Path}
    {documents : Documents} {paths : List Path}
    (h : (writeFiles directory documents).exec before = (.ok paths, after)) (other : State)
    (hworking : other.working = before.working) (hshape : before.files.SameShape other.files) :
    ∃ final, (writeFiles directory (documents.map fun document =>
      (document.1, text document.1 document.2))).exec other = (.ok paths, final) := by
  induction documents generalizing before other paths with
  | nil =>
    cases h
    exact ⟨other, rfl⟩
  | cons document rest ih =>
    obtain ⟨name, page⟩ := document
    rw [List.map_cons]
    by_cases hpage : page = ""
    · have hnone : text name page = "" := (htext name page).mpr hpage
      rw [hnone, exec_writeFiles_skip]
      rw [hpage, exec_writeFiles_skip] at h
      exact ih h _ hworking hshape
    · have hsome : text name page ≠ "" := mt (htext name page).mp hpage
      obtain ⟨files, others, hwrite, hrest, rfl⟩ := (exec_writeFiles_cons_eq_ok_iff hpage).mp h
      rw [Files.Tree.write_eq, hshape.filePlace_eq, ← hworking] at hwrite
      -- The file has the same place, and what is written there is a file again.
      cases hplace : other.files.filePlace other.working (filePath directory name) with
      | error cause => rw [hplace] at hwrite; cases hwrite
      | ok place =>
        rw [hplace] at hwrite
        cases hwrite
        have hwrite' := Files.Tree.write_eq other.files other.working (filePath directory name)
          (Text.Utf8.encode (text name page))
        rw [hplace] at hwrite'
        have hput : (before.files.put place (.file (Text.Utf8.encode page))).SameShape
            (other.files.put place (.file (Text.Utf8.encode (text name page)))) :=
          hshape.put place rfl
        obtain ⟨final, hfinal⟩ := ih hrest (State.noted { other with files := _ } _) hworking hput
        exact ⟨final, (exec_writeFiles_cons_eq_ok_iff hsome).mpr ⟨_, others, hwrite', hfinal, rfl⟩⟩

theorem exec_writeDocuments_framed (text : String → String → String)
    (htext : ∀ name page, text name page = "" ↔ page = "") {directory : Path}
    {documents : Documents} {paths : List Path}
    (h : (writeDocuments documents directory).exec before = (.ok paths, after)) :
    ∃ final, (writeDocuments (documents.map fun document =>
      (document.1, text document.1 document.2)) directory).exec before = (.ok paths, final) := by
  obtain ⟨hmade, hwrite⟩ := exec_writeDocuments_eq_ok_iff.mp h
  obtain ⟨final, hfinal⟩ := exec_writeFiles_framed htext hwrite _ rfl (.refl _)
  have horder : Pages.inNameOrder (documents.map fun document =>
      (document.1, text document.1 document.2)) = (Pages.inNameOrder documents).map fun document =>
        (document.1, text document.1 document.2) :=
    (Pages.map_sortedBy _ documents).symm
  exact ⟨final, exec_writeDocuments_eq_ok_iff.mpr ⟨hmade, horder ▸ hfinal⟩⟩

/-! ### Runs -/

/-- The request with a definition of front matter. -/
def Request.withFrontMatter (request : Request) (definition : String) : Request :=
  { request with frontMatter := some definition }

/-- The plan with front matter. -/
def Plan.withFrontMatter (plan : Plan) (definition : String) (entries : FrontMatter.Entries) :
    Plan :=
  { plan with entries, output := { plan.output with frontMatter := some definition } }

/-- A definition that is understood changes nothing but the front matter of a plan. -/
theorem settle_withFrontMatter {configuration : Configuration}
    (hparse : FrontMatter.parse definition = .ok entries)
    (h : settle request configuration = .ok plan) :
    settle (request.withFrontMatter definition) configuration =
      .ok (plan.withFrontMatter definition entries) := by
  have hsource : (request.withFrontMatter definition).mergeSource configuration.source =
      request.mergeSource configuration.source := rfl
  have houtput : (request.withFrontMatter definition).mergeOutput configuration.output =
      { request.mergeOutput configuration.output with frontMatter := some definition } := rfl
  rw [settle_eq] at h ⊢
  rw [hsource, houtput, frontMatterEntries_some, hparse]
  split at h
  · cases h
  · split at h <;> cases h
    rfl

theorem exec_prepare_withFrontMatter (hparse : FrontMatter.parse definition = .ok entries)
    (h : (prepare request).exec before = (.ok (plan, schema), after)) :
    (prepare (request.withFrontMatter definition)).exec before =
      (.ok (plan.withFrontMatter definition entries, schema), after) := by
  simp only [prepare, readPlan, Attempt.exec_bind_eq_ok_iff, Attempt.exec_check_eq_ok_iff] at h ⊢
  obtain ⟨settled, ready, ⟨configuration, loaded, hload, hsettle, rfl⟩, found, final, hschema,
    hreturn⟩ := h
  cases hreturn
  exact ⟨_, _, ⟨configuration, _, hload, settle_withFrontMatter hparse hsettle, rfl⟩, schema, _,
    hschema, rfl⟩

/-- Publishing succeeds with front matter if it does without: with the same files, or with a printed
text if there was one. -/
theorem exec_publish_withFrontMatter (definition : String) (entries : FrontMatter.Entries)
    (hnone : plan.entries = [])
    (h : (publish plan schema).exec ready = (.ok outcome, after)) :
    ∃ written final,
      (publish (plan.withFrontMatter definition entries) schema).exec ready =
        (.ok written, final) ∧
      written.documents = outcome.documents.map (fun document =>
        (document.1, framed entries document.1 document.2)) ∧
      written.writtenPaths = outcome.writtenPaths ∧
      written.stdoutText = outcome.stdoutText.map fun _ => Pages.printed written.documents := by
  have hplain : documentsWith [] schema = Pages.render schema := rfl
  rw [exec_publish, hnone, hplain] at h
  rw [exec_publish]
  simp only [Plan.withFrontMatter]
  rw [documentsWith_eq]
  cases houtDir : plan.output.outDir with
  | none =>
    rw [houtDir, exec_deliver_none] at h
    cases h
    exact ⟨_, _, exec_deliver_none _ _, rfl, rfl, rfl⟩
  | some directory =>
    rw [houtDir, exec_deliver_some] at h
    split at h
    next paths final hwrite =>
      cases h
      obtain ⟨final', hwrite'⟩ :=
        exec_writeDocuments_framed (framed entries) (fun _ _ => FrontMatter.framed_eq_empty_iff)
          hwrite
      rw [exec_deliver_some, hwrite']
      exact ⟨_, final', rfl, rfl, rfl, rfl⟩
    next => cases h

/-- **Front matter is only ever a prefix.** Take a run that succeeds and has no front matter, and a
definition that is understood. With this definition the run succeeds too. Its documents have the
same names; those without content have none either, and each other one is the document of the first
run behind a block, which is empty if nothing is defined and stands between lines of dashes
otherwise. So the same files are written in the same order, or the documents are printed again; and
no other documents have the same ones with this front matter. -/
theorem front_matter_only_prefixes (hrun : (run request).exec before = (.ok outcome, after))
    (hplain : ∀ plan ready, (readPlan request).exec before = (.ok plan, ready) →
      plan.entries = [])
    (hparse : FrontMatter.parse definition = .ok entries) :
    ∃ written final, (run (request.withFrontMatter definition)).exec before = (.ok written, final) ∧
      outcome.documents.map Prod.fst = Pages.documentNames ∧
      written.documents = outcome.documents.map (fun document =>
        (document.1, if document.2 = "" then ""
          else FrontMatter.block entries document.1 (Pages.documentTitle document.1) ++
            document.2)) ∧
      (∀ name title, (entries = [] → FrontMatter.block entries name title = "") ∧
        (entries ≠ [] → ∃ mapping,
          FrontMatter.block entries name title = "---\n" ++ mapping ++ "---\n\n")) ∧
      written.writtenPaths = outcome.writtenPaths ∧
      written.stdoutText = outcome.stdoutText.map (fun _ => Pages.printed written.documents) ∧
      ∀ others : Documents,
        others.map (fun document => (document.1, framed entries document.1 document.2)) =
          written.documents → others = outcome.documents := by
  rcases hprepare : (prepare request).exec before with ⟨error | ⟨plan, schema⟩, ready⟩
  · rw [run, Attempt.exec_bind_of_error hprepare] at hrun
    cases hrun
  · obtain ⟨_, hplan⟩ := exec_readPlan_of_exec_prepare hprepare
    rw [exec_run hprepare] at hrun
    obtain ⟨written, final, hwritten, hdocuments, hpaths, htext⟩ :=
      exec_publish_withFrontMatter definition entries (hplain plan _ hplan) hrun
    refine ⟨written, final, ?_, ?_, hdocuments, fun name title => ⟨?_, fun hne => ?_⟩, hpaths,
      htext, fun others hothers => ?_⟩
    · rw [exec_run (exec_prepare_withFrontMatter hparse hprepare), hwritten]
    · rw [documents_of_exec_publish hrun]
      exact map_fst_documentsWith plan.entries schema
    · rintro rfl
      rfl
    · exact FrontMatter.exists_block_eq hne name title
    · refine List.map_injective_iff.mpr ?_ (hothers.trans hdocuments)
      rintro ⟨name, text⟩ ⟨name', text'⟩ heq
      obtain ⟨rfl, hsame⟩ := Prod.mk.inj heq
      exact Prod.ext rfl (FrontMatter.framed_injective hsame)

/-- A request for files without front matter. -/
def filesRequest : Request :=
  { outDir := some "out" }

/-- With a title in the front matter the same file is written for a schema with one type, and the
title stands in front of what it held before. -/
theorem front_matter_only_prefixes_user :
    ∃ outcome after written final page,
      (run filesRequest).exec userHost = (.ok outcome, after) ∧
        (run (filesRequest.withFrontMatter "title:\x7btitle\x7d")).exec userHost =
          (.ok written, final) ∧
        outcome.writtenPaths = [⟨.working, ["out", "objects.md"]⟩] ∧
        written.writtenPaths = [⟨.working, ["out", "objects.md"]⟩] ∧
        ("objects", page) ∈ outcome.documents ∧
        ("objects", "---\ntitle: Objects\n---\n\n" ++ page) ∈ written.documents := by
  have hdone : ((run filesRequest).exec userHost).1.toOption.map (fun outcome =>
      (outcome.writtenPaths, (outcome.documents.lookup "objects").any (· ≠ ""))) =
        some ([⟨.working, ["out", "objects.md"]⟩], true) := by decide +kernel
  have hparse : FrontMatter.parse "title:\x7btitle\x7d" = .ok [("title", "\x7btitle\x7d")] := by
    decide +kernel
  have hblock : FrontMatter.block [("title", "\x7btitle\x7d")] "objects"
      (Pages.documentTitle "objects") = "---\ntitle: Objects\n---\n\n" := by decide +kernel
  rcases hrun : (run filesRequest).exec userHost with ⟨_ | outcome, after⟩
  · simp [hrun, Except.toOption] at hdone
  simp only [hrun, Except.toOption, Option.map_some, Option.some.injEq, Prod.mk.injEq,
    Option.any_eq_true] at hdone
  obtain ⟨hpaths, page, hpage, hne⟩ := hdone
  obtain ⟨written, final, hwritten, -, hdocuments, -, hsame, -⟩ :=
    front_matter_only_prefixes hrun (fun plan ready h => by cases h; rfl) hparse
  have hmem : ("objects", page) ∈ outcome.documents := Pairs.mem_of_lookup hpage
  refine ⟨outcome, after, written, final, page, rfl, hwritten, hpaths, hsame.trans hpaths, hmem, ?_⟩
  rw [hdocuments, ← hblock]
  exact List.mem_map.mpr ⟨_, hmem, by rw [if_neg (by simpa using hne)]⟩

end SchemaPages.Generation
