import Mathlib.Data.List.Nodup
import SchemaPages.Proofs.Pages.Sections

/-!
# The address of a section

A link names a document and an anchor, and the anchor of a section is the name of its type in lower
case. Types of one kind whose names differ in case only therefore share an anchor
(`anchor_shared_by_case`), and a link to one of them may lead to the other. Where the names of a
kind differ in lower case too, a link leads to the section of its type and to no other one
(`destination_identifies_section`).

That no other section starts with the anchor is said twice: of the names, and of the text of the
sections. In the text a name with a quotation mark could end the anchor early, so what is said of
the text is said of names without one.
-/

namespace SchemaPages.Pages

/-- The anchor of the section of a type; a type without a name has none. -/
def anchor? (entry : TypeEntry) : Option String :=
  entry.name.map Text.lower

/-- Whether a section starts with a heading that has this anchor. -/
def OpensWith (anchor text : String) : Prop :=
  ("## <a name=\"" ++ anchor ++ "\"></a>").toList <+: text.toList

variable {schema : Schema} {entry other : TypeEntry} {name anchor : String}

/-! ### The start of a section -/

/-- What follows the heading of a section is the section of the same type without a name. -/
theorem typeSection_of_name (h : entry.name = some name) :
    typeSection entry = "## <a name=\"" ++ Text.lower name ++ "\"></a>" ++ name ++ "\n\n" ++
      typeSection { entry with name := none } := by
  have hstart : String.ofList (List.replicate 2 '#') ++ " " ++ "<a name=\"" = "## <a name=\"" := by
    decide
  simp only [typeSection, shown, h, Option.map_some, Option.map_none, Option.getD_some,
    Option.getD_none, String.empty_append, Markdown.heading, Markdown.anchored,
    Markdown.anchorTag, Markdown.anchorName, ← hstart, String.append_assoc]

/-- A section without a name starts with a quote or a part of the third level, if it has text. -/
theorem not_opensWith_of_unnamed (h : entry.name = none) :
    ¬ OpensWith anchor (typeSection entry) := by
  rw [OpensWith, typeSection, h]
  cases entry.description <;> cases entry.fields <;> cases entry.inputs <;>
    cases entry.enumValues <;> cases entry.possibleTypes <;>
    simp [shown, Markdown.heading, Markdown.blockQuote, List.cons_prefix_cons]

theorem opensWith_anchor (h : anchor? entry = some anchor) :
    OpensWith anchor (typeSection entry) := by
  obtain ⟨name, hname, rfl⟩ := Option.map_eq_some_iff.mp h
  refine ⟨(name ++ "\n\n" ++ typeSection { entry with name := none }).toList, ?_⟩
  rw [← String.toList_append, typeSection_of_name hname]
  simp only [String.append_assoc]

/-- A section opens with the anchor of its type and, as long as no quotation mark ends one early,
with no other anchor. -/
theorem opensWith_typeSection_iff (hplain : '"' ∉ anchor.toList)
    (hsection : ∀ found ∈ anchor? entry, '"' ∉ found.toList) :
    OpensWith anchor (typeSection entry) ↔ anchor? entry = some anchor := by
  cases hname : entry.name with
  | none => simp [anchor?, hname, not_opensWith_of_unnamed hname]
  | some name =>
    have hfound : anchor? entry = some (Text.lower name) := by rw [anchor?, hname, Option.map_some]
    have hclose : "\"></a>".toList = '"' :: "></a>".toList := rfl
    rw [hfound, Option.some.injEq]
    refine ⟨?_, fun hsame => opensWith_anchor (hsame ▸ hfound)⟩
    rw [OpensWith, typeSection_of_name hname]
    simp only [String.toList_append, List.append_assoc, hclose]
    rintro ⟨tail, htail⟩
    rw [List.append_assoc, List.append_assoc, List.append_cancel_left_eq, List.cons_append,
      List.cons_append] at htail
    -- Both texts have their first quotation mark where the anchor ends.
    have hcut := congrArg (Text.cutFirst '"') htail
    rw [Text.cutFirst_append_cons hplain, Text.cutFirst_append_cons (hsection _ hfound)] at hcut
    exact String.toList_inj.mp (congrArg Prod.fst (Option.some.inj hcut)).symm

/-! ### One section for a link -/

/-- A page with the section of a type has the sections of the other types around it. -/
theorem kindPage_eq_around {title : String} {kind : Option String} {before after : List TypeEntry}
    (hsplit : typesInOrder schema kind = before ++ entry :: after) :
    kindPage schema title kind = "# " ++ title ++ "\n\n" ++ String.join (before.map typeSection) ++
      typeSection entry ++ String.join (after.map typeSection) := by
  have hhash : String.ofList (List.replicate 1 '#') ++ " " = "# " := by decide
  rw [kindPage_eq, hsplit, if_neg (List.append_ne_nil_of_right_ne_nil _ (List.cons_ne_nil _ _)),
    Markdown.heading, hhash, List.map_append, List.map_cons, String.join_append, String.join_cons]
  simp only [String.append_assoc]

/-- **A link identifies one section.** Take a schema and a documented kind whose named types have
names that differ in lower case. The link of a reference to one of them names the document of the
kind and the anchor that the section of the type starts with. None of the other sections of the
document has this anchor; and where the anchors hold no quotation mark, no other section starts with
it. -/
theorem destination_identifies_section {ref : TypeRef} {kind : Kind}
    (hdistinct : (((schema.typesOfKind (some kind.text)).filterMap TypeEntry.name).map
      Text.lower).Nodup)
    (hentry : entry ∈ schema.typesOfKind (some kind.text)) (hname : entry.name = some name)
    (hrefName : ref.actualName = name) (hrefKind : ref.actualKind = kind.text) :
    destination ref = kind.document ++ ".md#" ++ Text.lower name ∧
      OpensWith (Text.lower name) (typeSection entry) ∧
      ∃ before after,
        (render schema).lookup kind.document = some ("# " ++ kind.title ++ "\n\n" ++
          String.join (before.map typeSection) ++ typeSection entry ++
          String.join (after.map typeSection)) ∧
        (before ++ entry :: after).Perm (schema.typesOfKind (some kind.text)) ∧
        ∀ other ∈ before ++ after, anchor? other ≠ some (Text.lower name) ∧
          ('"' ∉ (Text.lower name).toList →
            (∀ found ∈ anchor? other, '"' ∉ found.toList) →
            ¬ OpensWith (Text.lower name) (typeSection other)) := by
  subst hrefName
  have hanchor : anchor? entry = some (Text.lower ref.actualName) := by
    rw [anchor?, hname, Option.map_some]
  have hperm := typesInOrder_perm schema (some kind.text)
  obtain ⟨before, after, hsplit⟩ := List.append_of_mem (hperm.mem_iff.mpr hentry)
  rw [hsplit] at hperm
  have hothers : ∀ other ∈ before ++ after, anchor? other ≠ some (Text.lower ref.actualName) := by
    -- The anchors of the type and of the others are distinct members of one list.
    have hanchors : ((entry :: (before ++ after)).filterMap anchor?).Nodup := by
      rw [((List.perm_middle.symm.trans hperm).filterMap anchor?).nodup_iff]
      rwa [List.map_filterMap] at hdistinct
    rw [List.filterMap_cons_some hanchor, List.nodup_cons, List.mem_filterMap] at hanchors
    exact fun other hother hsame => hanchors.1 ⟨other, hother, hsame⟩
  refine ⟨destination_eq hrefKind, opensWith_anchor hanchor, before, after, ?_, hperm,
    fun other hother => ⟨hothers other hother, fun hplain hsection => ?_⟩⟩
  · rw [lookup_render_kind, kindPage_eq_around hsplit]
  · rw [opensWith_typeSection_iff hplain hsection]
    exact hothers other hother

/-- A type with a kind, a description and perhaps a name. -/
def describedType (name : Option String) (kind : String) : TypeEntry :=
  { name, kind := some kind, description := some "text", fields := none, inputs := none
    interfaces := none, enumValues := none, possibleTypes := none }

/-- A schema of types without root types. -/
def rootlessSchema (types : List TypeEntry) : Schema :=
  { queryType := none, mutationType := none, subscriptionType := none, directives := none
    types := some types }

/-- Objects with and without a name, and a scalar with the name of an object in lower case. -/
def accountSchema : Schema :=
  rootlessSchema [describedType (some "User") "OBJECT", describedType (some "user") "SCALAR",
    describedType none "OBJECT", describedType (some "Account") "OBJECT"]

/-- A non-null reference to an object leads to its section alone. -/
theorem destination_identifies_section_user :
    destination (.wrapped ⟨none, some "NON_NULL"⟩ (.leaf ⟨some "User", some "OBJECT"⟩)) =
        "objects.md#user" ∧
      ∃ before after,
        (render accountSchema).lookup "objects" = some ("# Objects\n\n" ++
          String.join (before.map typeSection) ++
          "## <a name=\"user\"></a>User\n\n> text\n\n" ++
          String.join (after.map typeSection)) ∧
        (before ++ describedType (some "User") "OBJECT" :: after).Perm
          [describedType (some "User") "OBJECT", describedType none "OBJECT",
            describedType (some "Account") "OBJECT"] ∧
        ∀ other ∈ before ++ after, ¬ OpensWith "user" (typeSection other) := by
  have hlower : Text.lower "User" = "user" := by decide
  have hsection : typeSection (describedType (some "User") "OBJECT") =
      "## <a name=\"user\"></a>User\n\n> text\n\n" := by decide
  have hplain : ∀ listed ∈ accountSchema.typesOfKind (some "OBJECT"), ∀ found ∈ anchor? listed,
      '"' ∉ found.toList := by decide
  obtain ⟨hlink, -, before, after, hpage, hperm, hothers⟩ := @destination_identifies_section
    accountSchema (describedType (some "User") "OBJECT") "User"
    (.wrapped ⟨none, some "NON_NULL"⟩ (.leaf ⟨some "User", some "OBJECT"⟩)) .object
    (by decide) List.mem_cons_self rfl (by decide) (by decide)
  rw [hlower] at hlink hothers
  rw [hsection] at hpage
  refine ⟨hlink, before, after, hpage, hperm, fun other hother => ?_⟩
  refine (hothers other hother).2 (by decide) (hplain other (hperm.mem_iff.mp ?_))
  exact List.perm_middle.mem_iff.mpr (List.mem_cons_of_mem _ hother)

/-- **A shared anchor.** Two objects with different names have the same anchor: links to them lead
to one place, and it is in two sections of the document. -/
theorem anchor_shared_by_case :
    ((rootlessSchema [describedType (some "User") "OBJECT",
        describedType (some "user") "OBJECT"]).typeList.filterMap TypeEntry.name).Nodup ∧
      destination (.leaf ⟨some "User", some "OBJECT"⟩) = "objects.md#user" ∧
      destination (.leaf ⟨some "user", some "OBJECT"⟩) = "objects.md#user" ∧
      (render (rootlessSchema [describedType (some "User") "OBJECT",
          describedType (some "user") "OBJECT"])).lookup "objects" =
        some ("# Objects\n\n## <a name=\"user\"></a>User\n\n> text\n\n" ++
          "## <a name=\"user\"></a>user\n\n> text\n\n") := by
  decide +kernel

end SchemaPages.Pages
