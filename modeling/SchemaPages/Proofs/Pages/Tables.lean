import SchemaPages.Pages.Section
import SchemaPages.Proofs.Markdown.Headings

/-!
# The tables of the sections

A section shows a table for each list of members that the type or the field has. A table has its
shape exactly if all of its cells fit. Free text is brought into the form of a cell, which takes
away its line feeds but not its bars, and the notation of a type is put into its cell as it is. So a
table is broken by an open bar in any of its cells, and by a line feed in the name of a type
(`tables_inShape_iff`).
-/

namespace SchemaPages.Pages

open Markdown (Fits InShape openBars)
open Text (OneLine)

/-! ### The cells of a member -/

/-- The cells of a field stand on one line if that of its type does. -/
theorem oneLine_fieldCells {field : Field} :
    (∀ cell ∈ fieldCells field, OneLine cell) ↔ OneLine (linkedType field.type) := by
  have hname : OneLine (Markdown.inlineCode (Markdown.cell field.name)) :=
    Markdown.oneLine_inlineCode (Markdown.oneLine_cell _)
  have hdescription : OneLine (Markdown.cell field.description) := Markdown.oneLine_cell _
  simp [fieldCells, hname, hdescription]

theorem oneLine_inputCells {input : Input} :
    (∀ cell ∈ inputCells input, OneLine cell) ↔ OneLine (linkedType input.type) := by
  have hcode : ∀ text, OneLine (Markdown.inlineCode (Markdown.cell text)) := fun _ =>
    Markdown.oneLine_inlineCode (Markdown.oneLine_cell _)
  have hdescription : OneLine (Markdown.cell input.description) := Markdown.oneLine_cell _
  simp [inputCells, hcode, hdescription]

/-- The cells of an enumeration value always stand on one line. -/
theorem oneLine_enumValueCells (value : EnumValue) :
    ∀ cell ∈ enumValueCells value, OneLine cell := by
  have hname : OneLine (Markdown.inlineCode (Markdown.cell value.name)) :=
    Markdown.oneLine_inlineCode (Markdown.oneLine_cell _)
  have hdescription : OneLine (Markdown.cell value.description) := Markdown.oneLine_cell _
  have hdeprecated : OneLine
      (if value.isDeprecated then Markdown.cell value.deprecationReason else notDeprecated) := by
    split
    · exact Markdown.oneLine_cell _
    · decide
  simp [enumValueCells, hname, hdescription, hdeprecated]

/-! ### Members -/

/-- A list of members, for which a section shows a table. -/
inductive Members where
  | fields (fields : List Field)
  | inputs (inputs : List Input)
  | enumValues (values : List EnumValue)

namespace Members

/-- How many members there are. -/
def size : Members → Nat
  | .fields list => list.length
  | .inputs list => list.length
  | .enumValues list => list.length

/-- The headers of the table. -/
def headers : Members → List String
  | .fields _ => fieldHeaders
  | .inputs _ => inputHeaders
  | .enumValues _ => enumValueHeaders

/-- The cells of the members, in the order of their names. -/
def rows : Members → List (List String)
  | .fields list => (sortedByName Field.name list).map fieldCells
  | .inputs list => (sortedByName Input.name list).map inputCells
  | .enumValues list => (sortedByName EnumValue.name list).map enumValueCells

/-- The types of the members; values have none. -/
def types : Members → List (Option TypeRef)
  | .fields list => list.map Field.type
  | .inputs list => list.map Input.type
  | .enumValues _ => []

/-- The table of the members. -/
def table : Members → String
  | .fields list => fieldTable list
  | .inputs list => inputTable list
  | .enumValues list => enumValueTable list

variable (members : Members)

theorem table_eq : members.table = Markdown.table members.headers members.rows := by
  cases members <;> rfl

/-- There is a row for each member. -/
theorem length_rows : members.rows.length = members.size := by
  cases members <;> exact (List.length_map _).trans (sortedBy_perm _ _).length_eq

theorem headers_ne_nil : members.headers ≠ [] := by
  cases members <;> exact List.cons_ne_nil _ _

theorem fits_headers : ∀ header ∈ members.headers, Fits header := by
  have hfields : ∀ header ∈ fieldHeaders, Fits header := by decide
  have hinputs : ∀ header ∈ inputHeaders, Fits header := by decide
  have hvalues : ∀ header ∈ enumValueHeaders, Fits header := by decide
  cases members
  · exact hfields
  · exact hinputs
  · exact hvalues

/-- Every row has a cell under each header. -/
theorem length_of_mem_rows : ∀ row ∈ members.rows, row.length = members.headers.length := by
  cases members <;> exact List.forall_mem_map.mpr fun _ _ => rfl

/-- The rows stand on one line if the notations of the types do. -/
theorem oneLine_rows :
    (∀ row ∈ members.rows, ∀ cell ∈ row, OneLine cell) ↔
      ∀ type ∈ members.types, OneLine (linkedType type) := by
  cases members with
  | fields list =>
    simp only [rows, types, List.forall_mem_map, oneLine_fieldCells, sortedByName, mem_sortedBy]
  | inputs list =>
    simp only [rows, types, List.forall_mem_map, oneLine_inputCells, sortedByName, mem_sortedBy]
  | enumValues list =>
    exact iff_of_true (List.forall_mem_map.mpr fun value _ => oneLine_enumValueCells value)
      fun type htype => absurd htype List.not_mem_nil

/-- A table of members has its shape exactly if no notation of a type has a line feed and no cell an
open bar. -/
theorem inShape_iff :
    InShape members.headers.length members.size members.table ↔
      (∀ type ∈ members.types, OneLine (linkedType type)) ∧
        ∀ row ∈ members.rows, ∀ cell ∈ row, openBars cell = 0 := by
  rw [table_eq, ← length_rows, Markdown.inShape_table_iff members.headers_ne_nil
    members.fits_headers members.length_of_mem_rows, ← oneLine_rows]
  exact ⟨fun hfits => ⟨fun row hrow cell hcell => (hfits row hrow cell hcell).1,
      fun row hrow cell hcell => (hfits row hrow cell hcell).2⟩,
    fun ⟨hline, hbars⟩ row hrow cell hcell =>
      ⟨hline row hrow cell hcell, hbars row hrow cell hcell⟩⟩

end Members

/-! ### Sections -/

/-- The lists of members that the section of a type shows, with their titles. -/
def typeMembers (entry : TypeEntry) : List (String × Members) :=
  (entry.fields.map fun fields => ("Fields", .fields fields)).toList ++
  (entry.inputs.map fun inputs => ("Inputs", .inputs inputs)).toList ++
  (entry.enumValues.map fun values => ("Values", .enumValues values)).toList

/-- The list of members that the section of a field of a root operation shows: its arguments, if it
has some. -/
def fieldMembers (field : Field) : List (String × Members) :=
  match field.args with
  | none | some [] => []
  | some args => [("Arguments", .inputs args)]

/-- A table under its title. -/
def titledTable (title : String) (members : Members) : String :=
  Markdown.heading 3 title ++ members.table

/-- The section of a type holds its tables, between its description and what it stands for. -/
theorem typeSection_eq_tables (entry : TypeEntry) :
    typeSection entry =
      shown entry.name (fun name => Markdown.heading 2 (Markdown.anchored name)) ++
      shown entry.description Markdown.blockQuote ++
      String.join ((typeMembers entry).map fun (title, members) => titledTable title members) ++
      shown entry.possibleTypes (fun types =>
        Markdown.heading 3 "Implemented by" ++ implementations types) := by
  have hjoin : ∀ {α : Type} (list : Option α) (title : String) (membersOf : α → Members),
      String.join ((list.map fun found => (title, membersOf found)).toList.map
        fun (title, members) => titledTable title members) =
        shown list fun found => titledTable title (membersOf found) := by
    intro α list title membersOf
    cases list <;> simp [shown]
  rw [typeSection, typeMembers, List.map_append, List.map_append, String.join_append,
    String.join_append, hjoin, hjoin, hjoin]
  simp only [String.append_assoc]
  rfl

/-- The section of a field of a root operation ends with its table, if it has one. -/
theorem operationField_eq_tables (field : Field) :
    operationField field =
      shown field.name (Markdown.heading 2) ++
      (if field.isDeprecated then Markdown.notice "Deprecated" else "") ++
      shown field.description Markdown.blockQuote ++
      shown field.type (fun type => Markdown.label "Type" (linkedType (some type))) ++
      String.join ((fieldMembers field).map fun (title, members) => titledTable title members) := by
  rw [operationField, fieldMembers]
  rcases field.args with _ | _ | ⟨arg, args⟩
  · rfl
  · rfl
  · simp [titledTable, Members.table]

/-- **Tables keep their shape as far as their cells let them.** The section of a type and that of a
field of a root operation show a table for each of their lists of members, and nothing else of it.
Such a table has its shape, which is a row for each member below the headers and the rule, an empty
line at the end, and in every row as many cells as there are headers, exactly if no notation of a
type, with its link, has a line feed in it, and no cell has a bar that is not escaped. Line feeds in
the other texts of the members do no harm. -/
theorem tables_inShape_iff (entry : TypeEntry) (field : Field) :
    typeSection entry =
        shown entry.name (fun name => Markdown.heading 2 (Markdown.anchored name)) ++
        shown entry.description Markdown.blockQuote ++
        String.join ((typeMembers entry).map fun (title, members) => titledTable title members) ++
        shown entry.possibleTypes (fun types =>
          Markdown.heading 3 "Implemented by" ++ implementations types) ∧
      operationField field =
        shown field.name (Markdown.heading 2) ++
        (if field.isDeprecated then Markdown.notice "Deprecated" else "") ++
        shown field.description Markdown.blockQuote ++
        shown field.type (fun type => Markdown.label "Type" (linkedType (some type))) ++
        String.join ((fieldMembers field).map fun (title, members) => titledTable title members) ∧
      ∀ title members, (title, members) ∈ typeMembers entry ++ fieldMembers field →
        (InShape members.headers.length members.size members.table ↔
          (∀ type ∈ members.types, OneLine (linkedType type)) ∧
            ∀ row ∈ members.rows, ∀ cell ∈ row, openBars cell = 0) :=
  ⟨typeSection_eq_tables entry, operationField_eq_tables field,
    fun _ members _ => members.inShape_iff⟩

/-- A type with one field, which has a name and a type. -/
def typeWithField (name : String) (type : Option TypeRef) : TypeEntry :=
  { name := some "User", kind := some "OBJECT", description := none, inputs := none
    interfaces := none, enumValues := none, possibleTypes := none
    fields := some
      [{ name := some name, description := none, args := none, type, isDeprecated := false
         deprecationReason := none }] }

/-- A bar in the name of a field adds a cell to its row, and a line feed in the name of a type ends
the row: neither table has one row of three cells for its field. -/
theorem bar_adds_cell :
    typeSection (typeWithField "a|b" none) =
        "## <a name=\"user\"></a>User\n\n### Fields\n\n| Name | Type | Description |\n" ++
          "| --- | --- | --- |\n| `a|b` |  |  |\n\n" ∧
      (∀ title members, (title, members) ∈ typeMembers (typeWithField "a|b" none) →
        ¬ InShape members.headers.length members.size members.table) ∧
      ∀ title members,
        (title, members) ∈ typeMembers (typeWithField "a" (some (.leaf ⟨some "A\nB", none⟩))) →
          ¬ InShape members.headers.length members.size members.table := by
  refine ⟨by decide +kernel, ?_, ?_⟩
  · intro title members hmem
    obtain ⟨rfl, rfl⟩ := Prod.mk.inj (List.mem_singleton.mp hmem)
    rw [Members.inShape_iff]
    rintro ⟨-, hbars⟩
    exact absurd hbars (by decide +kernel)
  · intro title members hmem
    obtain ⟨rfl, rfl⟩ := Prod.mk.inj (List.mem_singleton.mp hmem)
    rw [Members.inShape_iff]
    rintro ⟨hline, -⟩
    exact absurd hline (by decide +kernel)

end SchemaPages.Pages
