import SchemaPages.Proofs.Generation.FrontMatter
import SchemaPages.Proofs.Pages.Sections

/-!
# Which documents there are

A document has content if the schema has something to show in it: for a kind, a type of this kind;
for a root operation, a type with the name of its root type. Nothing else counts, neither what the
types say of themselves nor the settings of a run. Front matter is only put in front of documents
with content, and the writer leaves out the others, so the files of a run are those of the documents
that the schema has something for (`documents_determined_by_schema`).
-/

namespace SchemaPages.Generation

open Files (Path)
open Host (State)
open Pages (Kind Operation)

variable {schema : Schema} {entries : FrontMatter.Entries} {plan : Plan} {directory : Path}
  {outcome : Outcome} {ready after : State} {name : String}

/-- Whether the document with this name has content. -/
def HasContent (schema : Schema) (name : String) : Prop :=
  ∃ page, (Pages.render schema).lookup name = some page ∧ page ≠ ""

/-- With any front matter, the same documents have content. -/
theorem hasContent_iff_exists_mem (entries : FrontMatter.Entries) :
    HasContent schema name ↔ ∃ text, (name, text) ∈ documentsWith entries schema ∧ text ≠ "" := by
  rw [documentsWith_eq]
  constructor
  · rintro ⟨page, hpage, hne⟩
    have hmem : (name, page) ∈ Pages.render schema := Pairs.mem_of_lookup hpage
    exact ⟨_, List.mem_map.mpr ⟨_, hmem, rfl⟩, mt FrontMatter.framed_eq_empty_iff.mp hne⟩
  · rintro ⟨text, htext, hne⟩
    obtain ⟨⟨document, page⟩, hmem, heq⟩ := List.mem_map.mp htext
    obtain ⟨rfl, rfl⟩ := Prod.mk.inj heq
    have hpage : (Pages.render schema).lookup document = some page :=
      Pairs.lookup_of_mem (Pages.nodup_names_render schema) hmem
    exact ⟨page, hpage, mt FrontMatter.framed_eq_empty_iff.mpr hne⟩

/-- Publishing in a directory writes the documents with content, in the order of their names. -/
theorem exists_names_of_exec_publish (hdirectory : plan.output.outDir = some directory)
    (h : (publish plan schema).exec ready = (.ok outcome, after)) :
    ∃ names : List String, names.Pairwise (· < ·) ∧
      (∀ name, name ∈ names ↔ HasContent schema name) ∧
      outcome.writtenPaths = names.map fun name =>
        { directory with segments := directory.segments ++ [name ++ ".md"] } := by
  obtain ⟨hdocuments, hpaths, -⟩ := written_of_exec_publish hdirectory h
  refine ⟨(Pages.nonEmpty (Pages.inNameOrder outcome.documents)).map Prod.fst, ?_, ?_, ?_⟩
  · refine Pages.pairwise_names_nonEmpty ?_
    rw [hdocuments]
    exact (wellNamed_documentsWith plan.entries schema).distinct
  · intro name
    rw [hasContent_iff_exists_mem plan.entries, ← hdocuments, List.mem_map]
    constructor
    · rintro ⟨⟨_, text⟩, hmem, rfl⟩
      exact ⟨text, mem_nonEmpty_inNameOrder.mp hmem⟩
    · rintro ⟨text, hmem⟩
      exact ⟨(name, text), mem_nonEmpty_inNameOrder.mpr hmem, rfl⟩
  · rw [hpaths, List.map_map]
    rfl

/-- **The schema alone decides which documents there are.** There is always a text for each of the
nine documents, in the same order. The document of a kind has content exactly if some type is of
this kind, and the document of an operation exactly if the root type is there with a name and some
type carries this name. Every run with an output directory that succeeds has written the files of
the documents with content, in the order of their names, and no others. -/
theorem documents_determined_by_schema (schema : Schema) :
    (Pages.render schema).map Prod.fst =
        ["queries", "mutations", "subscriptions",
          "inputs", "objects", "enums", "interfaces", "unions", "scalars"] ∧
      (∀ kind : Kind, HasContent schema kind.document ↔
        ∃ entry ∈ schema.typeList, entry.kind = some kind.text) ∧
      (∀ operation : Operation, HasContent schema operation.document ↔
        ∃ root name, operation.rootType schema = some root ∧ root.name = some name ∧
          ∃ entry ∈ schema.typeList, entry.name = some name) ∧
      ∀ request before plan ready outcome after directory,
        (prepare request).exec before = (.ok (plan, schema), ready) →
        plan.output.outDir = some directory →
        (run request).exec before = (.ok outcome, after) →
        ∃ names : List String, names.Pairwise (· < ·) ∧
          (∀ name, name ∈ names ↔ HasContent schema name) ∧
          outcome.writtenPaths = names.map fun name =>
            { directory with segments := directory.segments ++ [name ++ ".md"] } := by
  refine ⟨Pages.map_fst_render schema, fun kind => ?_, fun operation => ?_, ?_⟩
  · have hpage : HasContent schema kind.document ↔
        Pages.kindPage schema kind.title (some kind.text) ≠ "" := by
      rw [HasContent, Pages.lookup_render_kind]
      simp
    rw [hpage, Pages.kindPage_ne_empty_iff]
  · have hpage : HasContent schema operation.document ↔
        Pages.operationPage schema (operation.rootName schema) ≠ "" := by
      rw [HasContent, Pages.lookup_render_operation]
      simp
    rw [hpage, Pages.operationPage_ne_empty_iff]
    simp only [Pages.rootName_eq_some_iff]
    constructor
    · rintro ⟨name, ⟨root, hroot, hname⟩, hentry⟩
      exact ⟨root, name, hroot, hname, hentry⟩
    · rintro ⟨root, name, hroot, hname, hentry⟩
      exact ⟨name, ⟨root, hroot, hname⟩, hentry⟩
  · intro request before plan ready outcome after directory hprepare hdirectory hrun
    rw [exec_run hprepare] at hrun
    exact exists_names_of_exec_publish hdirectory hrun

/-- A run on a schema with one type, an object, writes the file of the objects and no other. -/
theorem documents_determined_by_schema_user :
    ∃ plan ready outcome after,
      (prepare userRequest).exec userHost = (.ok (plan, userSchema), ready) ∧
        plan.output.outDir = some ⟨.working, ["out"]⟩ ∧
        (run userRequest).exec userHost = (.ok outcome, after) ∧
        ⟨.working, ["out", "objects.md"]⟩ ∈ outcome.writtenPaths ∧
        ⟨.working, ["out", "scalars.md"]⟩ ∉ outcome.writtenPaths := by
  have hready : ((prepare userRequest).exec userHost).1.toOption.map
      (fun found => (found.1.output.outDir, found.2)) =
        some (some ⟨.working, ["out"]⟩, userSchema) := by decide +kernel
  have hdone : ((run userRequest).exec userHost).1.toOption.isSome := by decide +kernel
  rcases hprepare : (prepare userRequest).exec userHost with ⟨_ | ⟨plan, schema⟩, ready⟩
  · simp [hprepare, Except.toOption] at hready
  rcases hrun : (run userRequest).exec userHost with ⟨_ | outcome, after⟩
  · simp [hrun, Except.toOption] at hdone
  simp only [hprepare, Except.toOption, Option.map_some, Option.some.injEq, Prod.mk.injEq] at hready
  obtain ⟨hdirectory, rfl⟩ := hready
  obtain ⟨-, hkinds, -, hfiles⟩ := documents_determined_by_schema userSchema
  obtain ⟨names, -, hnames, hpaths⟩ := hfiles _ _ _ _ _ _ _ hprepare hdirectory hrun
  have hobjects : "objects" ∈ names := (hnames _).mpr ((hkinds .object).mpr (by decide))
  have hscalars : "scalars" ∉ names := fun hmem =>
    absurd ((hkinds .scalar).mp ((hnames _).mp hmem)) (by decide)
  refine ⟨plan, ready, outcome, after, rfl, hdirectory, rfl, ?_, ?_⟩
  · rw [hpaths]
    exact List.mem_map.mpr ⟨"objects", hobjects, rfl⟩
  · rw [hpaths]
    intro hmem
    obtain ⟨name, hname, heq⟩ := List.mem_map.mp hmem
    have hfile : name ++ ".md" = "scalars" ++ ".md" := by simpa using heq
    exact hscalars (String.append_left_inj ".md" |>.mp hfile ▸ hname)

end SchemaPages.Generation
