import SchemaPages.Pages.Document
import SchemaPages.Pairs

/-!
# Links and the anchors they lead to

A link names the document of a kind and the anchor of a type. The page of the kind holds a section
for each type of the kind, and the section of a type with a name starts with the anchor of the name.
Both sides compute the anchor by the same function of the name, so a link leads to an anchor
whenever the schema has a type with the name and the kind that the reference ends with. Sorting the
types and joining their sections loses nothing: what occurs in a section occurs in the page.
-/

namespace SchemaPages

namespace Text

/-- Whether a text is a part of another one. -/
def Occurs (part text : String) : Prop :=
  part.toList <:+: text.toList

variable {part text : String}

theorem Occurs.refl (text : String) : Occurs text text :=
  List.infix_refl text.toList

theorem Occurs.trans {whole : String} (h : Occurs part text) (h' : Occurs text whole) :
    Occurs part whole :=
  List.IsInfix.trans h h'

theorem occurs_append (before part after : String) : Occurs part (before ++ part ++ after) :=
  ⟨before.toList, after.toList, by simp⟩

theorem Occurs.append_right (h : Occurs part text) (after : String) : Occurs part (text ++ after) :=
  h.trans ⟨[], after.toList, by simp⟩

theorem Occurs.append_left (h : Occurs part text) (before : String) :
    Occurs part (before ++ text) :=
  h.trans ⟨before.toList, [], by simp⟩

/-- Each of several texts is a part of all of them together. -/
theorem occurs_join {texts : List String} (h : text ∈ texts) : Occurs text (String.join texts) := by
  obtain ⟨before, after, rfl⟩ := List.append_of_mem h
  rw [String.join_append, String.join_cons, ← String.append_assoc]
  exact occurs_append _ text _

/-- Only the empty text holds nothing. -/
theorem Occurs.ne_empty (h : Occurs part text) (hpart : part ≠ "") : text ≠ "" := by
  rintro rfl
  exact hpart (String.toList_eq_nil_iff.mp (List.infix_nil.mp h))

end Text

theorem Markdown.anchorTag_ne_empty (name : String) : Markdown.anchorTag name ≠ "" := by
  simp [Markdown.anchorTag]

namespace Pages

open Text (Occurs)

/-- A reference to a documented kind leads to the anchor of its name in the document of the kind. -/
theorem destination_eq {ref : TypeRef} {kind : Kind} (h : ref.actualKind = kind.text) :
    destination ref = kind.document ++ ".md#" ++ Text.lower ref.actualName := by
  have hmark : ".md" ++ "#" = ".md#" := by decide
  rw [destination, h, documentForKind_text, documentFile, documentSuffix, Markdown.anchorName,
    ← hmark, ← String.append_assoc]

/-- The section of a type with a name holds the anchor of the name. -/
theorem occurs_anchorTag_typeSection {entry : TypeEntry} {name : String}
    (h : entry.name = some name) : Occurs (Markdown.anchorTag name) (typeSection entry) := by
  have hanchored : Occurs (Markdown.anchorTag name) (Markdown.anchored name) :=
    (Occurs.refl _).append_right name
  have hheading : Occurs (Markdown.anchorTag name) (Markdown.heading 2 (Markdown.anchored name)) :=
    hanchored.trans (Text.occurs_append _ _ _)
  rw [typeSection, h]
  -- The heading comes first, and five other parts follow it.
  iterate 5 refine Occurs.append_right ?_ _
  exact hheading

/-- The page of a kind holds the section of each type of the kind. -/
theorem occurs_typeSection_kindPage {schema : Schema} {entry : TypeEntry} (title : String)
    (h : entry ∈ schema.typeList) :
    Occurs (typeSection entry) (kindPage schema title entry.kind) := by
  have hkind : entry ∈ schema.typesOfKind entry.kind :=
    List.mem_filter.mpr ⟨h, beq_self_eq_true entry.kind⟩
  rw [kindPage]
  split
  case h_1 hnone => exact absurd (hnone ▸ hkind) List.not_mem_nil
  case h_2 =>
    have hsorted : entry ∈ sortedByName TypeEntry.name (schema.typesOfKind entry.kind) :=
      mem_sortedBy.mpr hkind
    exact (Text.occurs_join (List.mem_map_of_mem hsorted)).append_left _

theorem nodup_documentNames : documentNames.Nodup := by
  decide

theorem nodup_names_render (schema : Schema) : ((render schema).map Prod.fst).Nodup := by
  rw [map_fst_render]
  exact nodup_documentNames

/-- The document of a kind is the page of the kind. -/
theorem lookup_render_kind (schema : Schema) (kind : Kind) :
    (render schema).lookup kind.document = some (kindPage schema kind.title (some kind.text)) := by
  refine Pairs.lookup_of_mem (nodup_names_render schema) ?_
  exact List.mem_append_right _ (List.mem_map.mpr ⟨kind, kind.mem_all, rfl⟩)

/-- The document of an operation is the page of its root type. -/
theorem lookup_render_operation (schema : Schema) (operation : Operation) :
    (render schema).lookup operation.document =
      some (operationPage schema (operation.rootName schema)) := by
  refine Pairs.lookup_of_mem (nodup_names_render schema) ?_
  exact List.mem_append_left _ (List.mem_map.mpr ⟨operation, operation.mem_all, rfl⟩)

end Pages

end SchemaPages
