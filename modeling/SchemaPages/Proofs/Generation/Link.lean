import SchemaPages.Generation.Run
import SchemaPages.Proofs.Generation.Writer
import SchemaPages.Proofs.Pages.Anchor

/-!
# Links in the written files

A run publishes the schema that it has prepared, so what its files hold is decided by the documents
of that schema alone. Front matter stands in front of a document and takes nothing away, and the
names of the documents lie side by side in a directory. What occurs in a document with content
therefore occurs in the file of the document, and a link to a type of the schema leads to an anchor
in a file that the run has written.
-/

namespace SchemaPages.Generation

open Files (Path)
open Host (Attempt State)
open Pages (Documents Kind)
open Text (Occurs)

/-! ### Front matter -/

variable {entries : FrontMatter.Entries} {schema : Schema} {name page : String}

theorem map_fst_documentsWith (entries : FrontMatter.Entries) (schema : Schema) :
    (documentsWith entries schema).map Prod.fst = Pages.documentNames := by
  rw [documentsWith]
  split
  · exact Pages.map_fst_render schema
  · rw [FrontMatter.apply, List.map_map]
    exact Pages.map_fst_render schema

/-- A document with content is kept behind its front matter. -/
theorem exists_mem_documentsWith (entries : FrontMatter.Entries)
    (h : (name, page) ∈ Pages.render schema) (hpage : page ≠ "") :
    ∃ front, (name, front ++ page) ∈ documentsWith entries schema := by
  rw [documentsWith]
  split
  · exact ⟨"", by rwa [String.empty_append]⟩
  · refine ⟨FrontMatter.block entries name ((titles.lookup name).getD name), ?_⟩
    refine List.mem_map.mpr ⟨(name, page), h, ?_⟩
    simp only [FrontMatter.addTo, if_neg hpage]

/-! ### A run into a directory -/

variable {request : Request} {plan : Plan} {directory : Path} {outcome : Outcome}
  {before ready after : State}

theorem wellNamed_documentNames : WellNamed Pages.documentNames :=
  ⟨Pages.nodup_documentNames, by decide⟩

theorem wellNamed_documentsWith (entries : FrontMatter.Entries) (schema : Schema) :
    WellNamed ((documentsWith entries schema).map Prod.fst) := by
  rw [map_fst_documentsWith]
  exact wellNamed_documentNames

/-- A run that is prepared publishes the schema that has been loaded. -/
theorem exec_run (h : (prepare request).exec before = (.ok (plan, schema), ready)) :
    (run request).exec before = (publish plan schema).exec ready := by
  rw [run, Attempt.exec_bind, h]

/-- Publishing into a directory files the documents in the order of their names. -/
theorem filed_of_exec_publish (hdirectory : plan.output.outDir = some directory)
    (h : (publish plan schema).exec before = (.ok outcome, after)) :
    ∃ made, Filed directory (Pages.inNameOrder (documentsWith plan.entries schema)) made
      outcome.writtenPaths after := by
  rw [publish, Attempt.exec_bind, Attempt.exec_note, hdirectory] at h
  simp only [deliver, Attempt.exec_bind_eq_ok_iff, Attempt.exec_adapt_eq_ok_iff,
    exec_writeDocuments_eq_ok_iff] at h
  obtain ⟨paths, _, ⟨-, hwrite⟩, hreturn⟩ := h
  cases hreturn
  exact ⟨_, filed_of_exec_writeFiles (wellNamed_documentsWith _ _).inNameOrder hwrite⟩

/-- What occurs in a document of a schema occurs in the file that a run writes for it. -/
theorem occurs_in_file {part : String} (hmem : (name, page) ∈ Pages.render schema)
    (hocc : Occurs part page) (hpart : part ≠ "")
    (hprepare : (prepare request).exec before = (.ok (plan, schema), ready))
    (hrun : (run request).exec before = (.ok outcome, after))
    (hdirectory : plan.output.outDir = some directory) :
    filePath directory name ∈ outcome.writtenPaths ∧
      ∃ text, after.files.read after.working (filePath directory name) =
          .ok (Text.Utf8.encode text) ∧
        Occurs part text := by
  rw [exec_run hprepare] at hrun
  obtain ⟨made, hfiled⟩ := filed_of_exec_publish hdirectory hrun
  have hpage : page ≠ "" := hocc.ne_empty hpart
  obtain ⟨front, hwith⟩ := exists_mem_documentsWith plan.entries hmem hpage
  have hkept : Occurs part (front ++ page) := hocc.append_left front
  have hfull : (name, front ++ page) ∈
      Pages.nonEmpty (Pages.inNameOrder (documentsWith plan.entries schema)) :=
    List.mem_filter.mpr ⟨Pages.mem_sortedBy.mpr hwith, decide_eq_true (hkept.ne_empty hpart)⟩
  have hread := hfiled.reads _ hfull
  have hpath : filePath directory name ∈ outcome.writtenPaths := by
    rw [hfiled.paths_eq]
    exact List.mem_map.mpr ⟨_, hfull, rfl⟩
  exact ⟨hpath, front ++ page, hread, hkept⟩

/-! ### Links -/

/-- **No dangling links.** If a schema has a type with the name and the documented kind that a
reference ends with, the link of the reference names the document of the kind and the anchor of the
name; the document has content and holds the anchor; and after every successful run on the schema
with an output directory, so does the file of the document in that directory, whatever front matter
the run puts in front of it. -/
theorem link_leads_to_anchor {ref : TypeRef} {kind : Kind} {entry : TypeEntry}
    (hentry : entry ∈ schema.typeList) (hname : entry.name = some name)
    (hkind : entry.kind = some kind.text) (hrefName : ref.actualName = name)
    (hrefKind : ref.actualKind = kind.text) :
    Pages.destination ref = kind.document ++ ".md#" ++ Text.lower name ∧
      (∃ page, (Pages.render schema).lookup kind.document = some page ∧ page ≠ "" ∧
        Occurs ("<a name=\"" ++ Text.lower name ++ "\"></a>") page) ∧
      ∀ request before plan ready outcome after directory,
        (prepare request).exec before = (.ok (plan, schema), ready) →
        plan.output.outDir = some directory →
        (run request).exec before = (.ok outcome, after) →
        ∃ file text,
          file = { directory with segments := directory.segments ++ [kind.document ++ ".md"] } ∧
          file ∈ outcome.writtenPaths ∧
          after.files.read after.working file = .ok (Text.Utf8.encode text) ∧
          Occurs ("<a name=\"" ++ Text.lower name ++ "\"></a>") text := by
  subst hrefName
  have hpage := Pages.lookup_render_kind schema kind
  have hanchor : Occurs (Markdown.anchorTag ref.actualName)
      (Pages.kindPage schema kind.title (some kind.text)) := by
    rw [← hkind]
    exact (Pages.occurs_anchorTag_typeSection hname).trans
      (Pages.occurs_typeSection_kindPage kind.title hentry)
  have htag : Markdown.anchorTag ref.actualName ≠ "" := Markdown.anchorTag_ne_empty _
  refine ⟨Pages.destination_eq hrefKind, ⟨_, hpage, hanchor.ne_empty htag, hanchor⟩, ?_⟩
  intro request before plan ready outcome after directory hprepare hdirectory hrun
  have hplain : '/' ∉ kind.document.toList := by cases kind <;> decide
  obtain ⟨hwritten, text, hread, hocc⟩ :=
    occurs_in_file (Pairs.mem_of_lookup hpage) hanchor htag hprepare hrun hdirectory
  exact ⟨_, text, filePath_eq directory hplain, hwritten, hread, hocc⟩

/-- A schema with one type. -/
def userSchema : Schema :=
  { queryType := none, mutationType := none, subscriptionType := none, directives := none
    types := some
      [{ name := some "User", kind := some "OBJECT", description := none, fields := none
         inputs := none, interfaces := none, enumValues := none, possibleTypes := none }] }

/-- A host without files, whose standard input holds a schema with one type. -/
def userHost : State :=
  { files := ⟨[]⟩, working := [], replies := [], sent := [], pauses := [], notes := []
    input := Text.Utf8.encode
      ("\x7b\"data\":\x7b\"__schema\":\x7b\"types\":[" ++
        "\x7b\"kind\":\"OBJECT\",\"name\":\"User\"\x7d]\x7d\x7d\x7d") }

/-- A request for files with front matter. -/
def userRequest : Request :=
  { outDir := some "out", frontMatter := some "layout:page" }

/-- A non-null reference to the one type leads to the anchor in the file of the objects. -/
theorem link_leads_to_anchor_user :
    Pages.destination (.wrapped ⟨none, some "NON_NULL"⟩ (.leaf ⟨some "User", some "OBJECT"⟩)) =
        "objects.md#user" ∧
      ∃ outcome after text,
        (run userRequest).exec userHost = (.ok outcome, after) ∧
          ⟨.working, ["out", "objects.md"]⟩ ∈ outcome.writtenPaths ∧
          after.files.read after.working ⟨.working, ["out", "objects.md"]⟩ =
            .ok (Text.Utf8.encode text) ∧
          Occurs "<a name=\"user\"></a>" text := by
  have hlower : Text.lower "User" = "user" := by decide +kernel
  have hready : ((prepare userRequest).exec userHost).1.toOption.map
      (fun found => (found.1.output.outDir, found.2)) =
        some (some ⟨.working, ["out"]⟩, userSchema) := by decide +kernel
  have hdone : ((run userRequest).exec userHost).1.toOption.isSome := by decide +kernel
  -- Evaluation shows that neither phase fails; what they return is named after that.
  rcases hprepare : (prepare userRequest).exec userHost with ⟨_ | ⟨plan, schema⟩, ready⟩
  · simp [hprepare, Except.toOption] at hready
  rcases hrun : (run userRequest).exec userHost with ⟨_ | outcome, after⟩
  · simp [hrun, Except.toOption] at hdone
  simp only [hprepare, Except.toOption, Option.map_some, Option.some.injEq, Prod.mk.injEq] at hready
  obtain ⟨hdirectory, rfl⟩ := hready
  obtain ⟨hlink, -, hfile⟩ := @link_leads_to_anchor userSchema "User"
    (.wrapped ⟨none, some "NON_NULL"⟩ (.leaf ⟨some "User", some "OBJECT"⟩)) .object _
    List.mem_cons_self rfl rfl (by decide) (by decide)
  obtain ⟨_, text, rfl, hwritten, hread, hocc⟩ :=
    hfile _ _ _ _ _ _ _ hprepare hdirectory hrun
  rw [hlower] at hlink hocc
  exact ⟨hlink, outcome, after, text, rfl, hwritten, hread, hocc⟩

end SchemaPages.Generation
