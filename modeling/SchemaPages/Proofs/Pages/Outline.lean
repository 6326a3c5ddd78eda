import SchemaPages.Proofs.Pages.Sections
import SchemaPages.Proofs.Pages.Tables

/-!
# The headings of the documents

The outline of a document lists its headers in the order in which they stand, and between them the
descriptions, which are the only free text that is not put on one line. So the lines of a document
that are headings are its headers, with the headings among the further lines of its descriptions in
between, if the names of the schema stand on one line. They are the headers alone exactly if no
description has such a line (`headings_eq_headers_iff`).
-/

namespace SchemaPages

open Text (OneLine)

/-! ### Names on one line -/

/-- Whether the names in a reference stand on one line. -/
def TypeRef.NamesOnOneLine (ref : TypeRef) : Prop :=
  ∀ level ∈ ref.levels, ∀ name ∈ level.name, OneLine name

/-- Whether the names stand on one line that are shown of a field. -/
structure Field.NamesOnOneLine (field : Field) : Prop where
  name : ∀ name ∈ field.name, OneLine name
  type : ∀ ref ∈ field.type, ref.NamesOnOneLine
  args : ∀ args ∈ field.args, ∀ arg ∈ args, ∀ ref ∈ arg.type, ref.NamesOnOneLine

/-- Whether the names stand on one line that are shown of a type. Those of its inputs and its values
do not count, as they are in cells. -/
structure TypeEntry.NamesOnOneLine (entry : TypeEntry) : Prop where
  name : ∀ name ∈ entry.name, OneLine name
  fields : ∀ fields ∈ entry.fields, ∀ field ∈ fields, field.NamesOnOneLine
  inputs : ∀ inputs ∈ entry.inputs, ∀ input ∈ inputs, ∀ ref ∈ input.type, ref.NamesOnOneLine
  possibleTypes : ∀ types ∈ entry.possibleTypes, ∀ ref ∈ types, ref.NamesOnOneLine

/-- Whether the names in a schema stand on one line. -/
def Schema.NamesOnOneLine (schema : Schema) : Prop :=
  ∀ entry ∈ schema.typeList, entry.NamesOnOneLine

namespace TypeRef

variable {ref inner : TypeRef} {level : Level}

theorem oneLine_properName? (h : ∀ name ∈ level.name, OneLine name) :
    ∀ name ∈ level.properName?, OneLine name :=
  fun name hname => h name (Option.mem_filter_iff.mp hname).1

theorem oneLine_wrap {text : String} (h : OneLine text) (level : Level) :
    OneLine (level.wrap text) := by
  rw [Level.wrap]
  have hlisted : OneLine (if level.isList then "[" ++ text ++ "]" else text) := by
    split
    · exact h.between (by decide) (by decide)
    · exact h
  split
  · exact hlisted.append (by decide)
  · exact hlisted

/-- A wrapped reference has the names of its level and of what it wraps. -/
theorem namesOnOneLine_wrapped :
    (wrapped level inner).NamesOnOneLine ↔
      (∀ name ∈ level.name, OneLine name) ∧ inner.NamesOnOneLine :=
  List.forall_mem_cons

theorem oneLine_nameWithin (h : ref.NamesOnOneLine) (n : Nat) : OneLine (ref.nameWithin n) := by
  induction ref generalizing n with
  | leaf level =>
    cases n with
    | zero => exact Text.oneLine_empty
    | succ n => exact Text.oneLine_getD (oneLine_properName? (h level List.mem_cons_self))
  | wrapped level inner ih =>
    obtain ⟨hlevel, hinner⟩ := namesOnOneLine_wrapped.mp h
    cases n with
    | zero => exact Text.oneLine_empty
    | succ n =>
      rw [nameWithin]
      rcases hname : level.properName? with _ | name
      · exact ih hinner n
      · exact oneLine_properName? hlevel name hname

theorem oneLine_decoratedWithin (h : ref.NamesOnOneLine) (n : Nat) :
    ∀ text ∈ ref.decoratedWithin n, OneLine text := by
  induction ref generalizing n with
  | leaf level =>
    intro text htext
    cases n with
    | zero => cases htext
    | succ n =>
      cases htext
      exact oneLine_wrap
        (Text.oneLine_getD (oneLine_properName? (h level List.mem_cons_self))) level
  | wrapped level inner ih =>
    intro text htext
    obtain ⟨hlevel, hinner⟩ := namesOnOneLine_wrapped.mp h
    cases n with
    | zero => cases htext
    | succ n =>
      rw [decoratedWithin] at htext
      rcases hname : level.properName? with _ | name <;> simp only [hname] at htext
      · obtain ⟨text, hdecorated, rfl⟩ := Option.map_eq_some_iff.mp htext
        exact oneLine_wrap (ih hinner n text hdecorated) level
      · cases htext
        exact oneLine_wrap (oneLine_properName? hlevel name hname) level

end TypeRef

namespace Pages

open Markdown (Outlined)

variable {schema : Schema} {entry : TypeEntry} {field : Field}

theorem oneLine_destination {ref : TypeRef} (h : ref.NamesOnOneLine) :
    OneLine (destination ref) := by
  have hdocument : OneLine (documentForKind ref.actualKind) := by
    rw [documentForKind]
    split
    · next kind _ => cases kind <;> decide
    · decide
  have hanchor : OneLine (Markdown.anchorName ref.actualName) :=
    Text.oneLine_lower (TypeRef.oneLine_nameWithin h _)
  exact ((hdocument.append (by decide)).append (by decide)).append hanchor

theorem oneLine_linkedType {ref : Option TypeRef} (h : ∀ type ∈ ref, type.NamesOnOneLine) :
    OneLine (linkedType ref) := by
  cases ref with
  | none => decide
  | some ref =>
    have href := h ref rfl
    have hnotation : OneLine ref.decoratedName :=
      Text.oneLine_getD (TypeRef.oneLine_decoratedWithin href _)
    exact Markdown.oneLine_link (Markdown.oneLine_inlineCode hnotation) (oneLine_destination href)

/-! ### Members -/

/-- A table of members has no headings. -/
theorem outlined_table (members : Members)
    (h : ∀ type ∈ members.types, ∀ ref ∈ type, ref.NamesOnOneLine) :
    Outlined members.table [] := by
  rw [members.table_eq]
  exact Markdown.outlined_table (fun header hheader => (members.fits_headers header hheader).1)
    (members.oneLine_rows.mpr fun type htype => oneLine_linkedType (h type htype))

theorem outlined_implementations {types : List TypeRef}
    (h : ∀ type ∈ types, type.NamesOnOneLine) : Outlined (implementations types) [] := by
  refine Markdown.outlined_bullets fun item hitem => ?_
  obtain ⟨type, htype, rfl⟩ := List.mem_map.mp ((sortedBy_perm _ _).mem_iff.mp hitem)
  refine Markdown.oneLine_inlineCode (Text.oneLine_getD fun name hname => ?_)
  refine h type htype type.outermost ?_ name hname
  cases type <;> exact List.mem_cons_self

/-! ### Outlines -/

/-- A part of a document that counts for its headings: a header, or the text of a description. -/
inductive Part where
  | header (level : Nat) (text : String)
  | description (text : String)

namespace Part

/-- The line of a header. -/
def line? : Part → Option String
  | .header level text => some (Markdown.headingLine level text)
  | .description _ => none

/-- The headings that come from a part. -/
def headings : Part → List String
  | .header level text => [Markdown.headingLine level text]
  | .description text => Markdown.strayHeadings text

end Part

/-- The part for an attribute, if the attribute is present. -/
def present {α : Type} (value : Option α) (part : α → Part) : List Part :=
  (value.map part).toList

/-- The outline of the arguments of a field. -/
def argumentParts (args : Option (List Input)) : List Part :=
  match args with
  | none | some [] => []
  | some _ => [.header 3 "Arguments"]

/-- The outline of the section of a field of a root operation. -/
def fieldParts (field : Field) : List Part :=
  present field.name (.header 2) ++ present field.description .description ++
    argumentParts field.args

/-- The outline of the section of a type. -/
def typeParts (entry : TypeEntry) : List Part :=
  present entry.name (fun name => .header 2 (Markdown.anchored name)) ++
  present entry.description .description ++
  present entry.fields (fun _ => .header 3 "Fields") ++
  present entry.inputs (fun _ => .header 3 "Inputs") ++
  present entry.enumValues (fun _ => .header 3 "Values") ++
  present entry.possibleTypes (fun _ => .header 3 "Implemented by")

/-- The outline of the page of a root type. -/
def operationParts (schema : Schema) (name : Option String) : List Part :=
  match name.bind schema.type? with
  | none => []
  | some entry =>
    present entry.name (.header 1) ++ present entry.description .description ++
      (entry.fields.getD []).flatMap fieldParts

/-- The outline of the page of a kind. -/
def kindParts (schema : Schema) (title : String) (kind : Option String) : List Part :=
  match typesInOrder schema kind with
  | [] => []
  | types => .header 1 title :: types.flatMap typeParts

/-- The outlines of all documents. -/
def outline (schema : Schema) : List (String × List Part) :=
  Operation.all.map (fun operation =>
    (operation.document, operationParts schema (operation.rootName schema))) ++
  Kind.all.map (fun kind => (kind.document, kindParts schema kind.title (some kind.text)))

/-! ### The headings of each section -/

/-- Whether a text has the headings that come from its parts. -/
def HasParts (text : String) (parts : List Part) : Prop :=
  Outlined text (parts.flatMap Part.headings)

theorem HasParts.append {text other : String} {parts others : List Part} (h : HasParts text parts)
    (h' : HasParts other others) : HasParts (text ++ other) (parts ++ others) := by
  rw [HasParts, List.flatMap_append]
  exact Outlined.append h h'

theorem hasParts_join {α : Type} {items : List α} {textOf : α → String} {partsOf : α → List Part}
    (h : ∀ item ∈ items, HasParts (textOf item) (partsOf item)) :
    HasParts (String.join (items.map textOf)) (items.flatMap partsOf) := by
  rw [HasParts, List.flatMap_assoc]
  exact Markdown.outlined_join h

theorem hasParts_heading {level : Nat} {text : String} (hlevel : 0 < level) (h : OneLine text) :
    HasParts (Markdown.heading level text) [.header level text] :=
  Markdown.outlined_heading hlevel h

/-- A text without headings of its own has no parts. -/
theorem hasParts_nil {text : String} (h : Outlined text []) : HasParts text [] :=
  h

theorem hasParts_shown {α : Type} {value : Option α} {text : α → String} {part : α → Part}
    (h : ∀ x ∈ value, HasParts (text x) [part x]) :
    HasParts (shown value text) (present value part) := by
  cases value with
  | none => exact Markdown.outlined_empty
  | some x => exact h x rfl

theorem hasParts_description (description : Option String) :
    HasParts (shown description Markdown.blockQuote) (present description .description) :=
  hasParts_shown fun text _ => by
    simpa [HasParts, Part.headings] using Markdown.outlined_blockQuote text

/-- A member section has its header and no other headings. -/
theorem hasParts_members {title table : String} (htitle : OneLine title) (h : Outlined table []) :
    HasParts (Markdown.heading 3 title ++ table) [.header 3 title] :=
  (hasParts_heading (by decide) htitle).append (hasParts_nil h)

theorem hasParts_arguments (h : field.NamesOnOneLine) :
    HasParts
      (match field.args with
        | none | some [] => ""
        | some args => Markdown.heading 3 "Arguments" ++ inputTable args)
      (argumentParts field.args) := by
  rcases hargs : field.args with _ | _ | ⟨arg, args⟩
  · exact Markdown.outlined_empty
  · exact Markdown.outlined_empty
  · exact hasParts_members (by decide)
      (outlined_table (.inputs (arg :: args)) (List.forall_mem_map.mpr (h.args _ hargs)))

theorem hasParts_operationField (h : field.NamesOnOneLine) :
    HasParts (operationField field) (fieldParts field) := by
  have hname : HasParts (shown field.name (Markdown.heading 2)) (present field.name (.header 2)) :=
    hasParts_shown fun name hname => hasParts_heading (by decide) (h.name name hname)
  have hnotice : HasParts (if field.isDeprecated then Markdown.notice "Deprecated" else "") [] := by
    split
    · exact hasParts_nil (Markdown.outlined_notice (by decide))
    · exact Markdown.outlined_empty
  have htype : HasParts
      (shown field.type fun type => Markdown.label "Type" (linkedType (some type))) [] := by
    rcases htype : field.type with _ | type
    · exact Markdown.outlined_empty
    · refine hasParts_nil (Markdown.outlined_label (by decide) (oneLine_linkedType ?_))
      exact htype ▸ h.type
  -- The notice and the type have no headings, so their places in the outline are empty.
  have hparts : fieldParts field = present field.name (.header 2) ++ [] ++
      present field.description .description ++ [] ++ argumentParts field.args := by
    rw [List.append_nil, List.append_nil, fieldParts]
  rw [hparts]
  exact (((hname.append hnotice).append (hasParts_description _)).append htype).append
    (hasParts_arguments h)

theorem hasParts_typeSection (h : entry.NamesOnOneLine) :
    HasParts (typeSection entry) (typeParts entry) := by
  have hname : HasParts (shown entry.name fun name => Markdown.heading 2 (Markdown.anchored name))
      (present entry.name fun name => .header 2 (Markdown.anchored name)) :=
    hasParts_shown fun name hname =>
      hasParts_heading (by decide) (Markdown.oneLine_anchored (h.name name hname))
  have hfields : HasParts
      (shown entry.fields fun fields => Markdown.heading 3 "Fields" ++ fieldTable fields)
      (present entry.fields fun _ => .header 3 "Fields") :=
    hasParts_shown fun fields hfields => hasParts_members (by decide)
      (outlined_table (.fields fields) (List.forall_mem_map.mpr fun field hfield =>
        (h.fields fields hfields field hfield).type))
  have hinputs : HasParts
      (shown entry.inputs fun inputs => Markdown.heading 3 "Inputs" ++ inputTable inputs)
      (present entry.inputs fun _ => .header 3 "Inputs") :=
    hasParts_shown fun inputs hinputs => hasParts_members (by decide)
      (outlined_table (.inputs inputs) (List.forall_mem_map.mpr (h.inputs inputs hinputs)))
  have hvalues : HasParts
      (shown entry.enumValues fun values => Markdown.heading 3 "Values" ++ enumValueTable values)
      (present entry.enumValues fun _ => .header 3 "Values") :=
    hasParts_shown fun values _ => hasParts_members (by decide)
      (outlined_table (.enumValues values) fun _ htype => absurd htype List.not_mem_nil)
  have htypes : HasParts
      (shown entry.possibleTypes fun types =>
        Markdown.heading 3 "Implemented by" ++ implementations types)
      (present entry.possibleTypes fun _ => .header 3 "Implemented by") :=
    hasParts_shown fun types htypes =>
      hasParts_members (by decide) (outlined_implementations (h.possibleTypes types htypes))
  exact ((((hname.append (hasParts_description _)).append hfields).append hinputs).append
    hvalues).append htypes

/-! ### The headings of the documents -/

theorem hasParts_operationPage (h : schema.NamesOnOneLine) (name : Option String) :
    HasParts (operationPage schema name) (operationParts schema name) := by
  rw [operationPage, operationParts]
  rcases hfound : name.bind schema.type? with _ | entry
  · exact Markdown.outlined_empty
  · obtain ⟨name, -, hentry⟩ := Option.bind_eq_some_iff.mp hfound
    have hnames := h entry (List.mem_of_find?_eq_some hentry)
    have htitle : HasParts (shown entry.name (Markdown.heading 1))
        (present entry.name (.header 1)) :=
      hasParts_shown fun name hname => hasParts_heading (by decide) (hnames.name name hname)
    have hfields : HasParts (String.join ((entry.fields.getD []).map operationField))
        ((entry.fields.getD []).flatMap fieldParts) := by
      refine hasParts_join fun field hfield => hasParts_operationField ?_
      rcases hfields : entry.fields with _ | fields <;> rw [hfields] at hfield
      · exact absurd hfield List.not_mem_nil
      · exact hnames.fields fields hfields field hfield
    exact (htitle.append (hasParts_description _)).append hfields

theorem hasParts_kindPage (h : schema.NamesOnOneLine) {title : String} (htitle : OneLine title)
    (kind : Option String) :
    HasParts (kindPage schema title kind) (kindParts schema title kind) := by
  have hsections : HasParts (String.join ((typesInOrder schema kind).map typeSection))
      ((typesInOrder schema kind).flatMap typeParts) := by
    refine hasParts_join fun entry hentry => hasParts_typeSection (h entry ?_)
    exact (mem_typesOfKind.mp ((typesInOrder_perm schema kind).mem_iff.mp hentry)).1
  rw [kindPage_eq, kindParts]
  split
  · next hnone =>
    rw [hnone]
    exact Markdown.outlined_empty
  · next hsome =>
    split
    · next hnone => exact absurd hnone hsome
    · exact (hasParts_heading (by decide) htitle).append hsections

/-- The headings of some parts are no fewer than the headers among them. -/
theorem length_headers_le (parts : List Part) :
    (parts.filterMap Part.line?).length ≤ (parts.flatMap Part.headings).length := by
  induction parts with
  | nil => exact Nat.le_refl 0
  | cons part rest ih =>
    cases part with
    | header level text => exact Nat.succ_le_succ ih
    | description text =>
      change (rest.filterMap Part.line?).length ≤
        (Markdown.strayHeadings text ++ rest.flatMap Part.headings).length
      rw [List.length_append]
      exact Nat.le_add_left_of_le ih

/-- The headings of some parts are the headers among them exactly if no description has any. -/
theorem headings_eq_headers_iff (parts : List Part) :
    parts.flatMap Part.headings = parts.filterMap Part.line? ↔
      ∀ text, .description text ∈ parts → Markdown.strayHeadings text = [] := by
  induction parts with
  | nil => exact iff_of_true rfl fun text h => absurd h List.not_mem_nil
  | cons part rest ih =>
    cases part with
    | header level text =>
      have hmem : ∀ other, Part.description other ∈ .header level text :: rest ↔
          .description other ∈ rest := by simp
      simp only [hmem, ← ih]
      exact List.cons_inj_right _
    | description text =>
      have hmem : ∀ other, Part.description other ∈ .description text :: rest ↔
          other = text ∨ .description other ∈ rest := by simp
      change Markdown.strayHeadings text ++ rest.flatMap Part.headings =
        rest.filterMap Part.line? ↔ _
      simp only [hmem, or_imp, forall_and, forall_eq, ← ih]
      constructor
      · -- Headings of the description would be in addition to those of the rest.
        intro heq
        have hlength := length_headers_le rest
        rw [← heq, List.length_append] at hlength
        have hnone : Markdown.strayHeadings text = [] :=
          List.length_eq_zero_iff.mp (by omega)
        rw [hnone, List.nil_append] at heq
        exact ⟨hnone, heq⟩
      · rintro ⟨hnone, heq⟩
        rw [hnone, List.nil_append, heq]

/-- The headings of each document are those of its parts. -/
theorem headings_render (h : schema.NamesOnOneLine) :
    (render schema).map (fun document => (document.1, Markdown.headings document.2)) =
      (outline schema).map fun page => (page.1, page.2.flatMap Part.headings) := by
  have hkind : ∀ kind : Kind, OneLine kind.title := by
    intro kind
    cases kind <;> decide
  have hoperations : ∀ operation : Operation,
      Markdown.headings (operationPage schema (operation.rootName schema)) =
        (operationParts schema (operation.rootName schema)).flatMap Part.headings :=
    fun operation => (hasParts_operationPage h _).headings_eq
  have hkinds : ∀ kind : Kind, Markdown.headings (kindPage schema kind.title (some kind.text)) =
      (kindParts schema kind.title (some kind.text)).flatMap Part.headings :=
    fun kind => (hasParts_kindPage h (hkind kind) _).headings_eq
  simp only [render, outline, List.map_append, List.map_map, Function.comp_def, hoperations, hkinds]

/-- **Free text opens headings only from the further lines of a description.** Take a schema whose
names stand on one line, with any descriptions, default values and reasons. The lines of its
documents that are headings are the headers for the title or the root type, the types, the fields
and the member sections, in this order, and between them the lines of a description behind its first
one that are headings themselves. So they are the headers alone exactly if no description that is
shown has such a line. -/
theorem headings_eq_headers_iff_no_stray (h : schema.NamesOnOneLine) :
    (render schema).map (fun document => (document.1, Markdown.headings document.2)) =
        (outline schema).map (fun page => (page.1, page.2.flatMap Part.headings)) ∧
      ((render schema).map (fun document => (document.1, Markdown.headings document.2)) =
          (outline schema).map (fun page => (page.1, page.2.filterMap Part.line?)) ↔
        ∀ page ∈ outline schema, ∀ text, .description text ∈ page.2 →
          Markdown.strayHeadings text = []) := by
  refine ⟨headings_render h, ?_⟩
  rw [headings_render h, List.map_inj_left]
  simp only [Prod.mk.injEq, true_and, headings_eq_headers_iff]

/-- A schema with one type that has a description. -/
def describedSchema (description : String) : Schema :=
  { queryType := none, mutationType := none, subscriptionType := none, directives := none
    types := some
      [{ name := some "User", kind := some "OBJECT", description := some description, fields := none
         inputs := none, interfaces := none, enumValues := none, possibleTypes := none }] }

theorem namesOnOneLine_describedSchema (description : String) :
    (describedSchema description).NamesOnOneLine := by
  intro entry hentry
  obtain rfl := List.mem_singleton.mp hentry
  refine ⟨fun name hname => ?_, by rintro _ ⟨⟩, by rintro _ ⟨⟩, by rintro _ ⟨⟩⟩
  cases hname
  decide

/-- A description of two lines opens no heading if its second line is none. -/
theorem headings_eq_headers_iff_no_stray_plain :
    (describedSchema "A user\nof the service.").NamesOnOneLine ∧
      (render (describedSchema "A user\nof the service.")).map
          (fun document => (document.1, Markdown.headings document.2)) =
        (outline (describedSchema "A user\nof the service.")).map
          fun page => (page.1, page.2.filterMap Part.line?) := by
  have hnames := namesOnOneLine_describedSchema "A user\nof the service."
  have hnone : ∀ page ∈ outline (describedSchema "A user\nof the service."), ∀ part ∈ page.2,
      part.line? = none → part.headings = [] := by decide +kernel
  exact ⟨hnames, (headings_eq_headers_iff_no_stray hnames).2.mpr
    fun page hpage text htext => hnone page hpage _ htext rfl⟩

/-- The second line of a description is not quoted, and opens a heading if it looks like one. -/
theorem description_opens_heading :
    Markdown.blockQuote "a\n# b" = "> a\n# b\n\n" ∧
      (render (describedSchema "a\n# b")).lookup "objects" =
        some "# Objects\n\n## <a name=\"user\"></a>User\n\n> a\n# b\n\n" ∧
      Markdown.headings "# Objects\n\n## <a name=\"user\"></a>User\n\n> a\n# b\n\n" =
        ["# Objects", "## <a name=\"user\"></a>User", "# b"] ∧
      ((outline (describedSchema "a\n# b")).lookup "objects").map
          (·.filterMap Part.line?) =
        some ["# Objects", "## <a name=\"user\"></a>User"] :=
  ⟨by decide, by decide +kernel, by decide +kernel, by decide +kernel⟩

end Pages

end SchemaPages
