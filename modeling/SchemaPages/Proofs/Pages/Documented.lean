import SchemaPages.Proofs.Pages.NameOrder
import SchemaPages.Proofs.Pages.Sections

/-!
# What is documented of a schema

A server tells more about its types than the pages show. `Schema.documented` is the part of a schema
that can show: the names of the root types, and the types that have a document or carry such a name,
without the interfaces of types, the reasons why fields are deprecated, and the reasons of values
that are not deprecated. The pages of a schema are those of this part (`render_documented`), so
nothing else reaches them: schemas with the same documented part have the same pages
(`render_eq_of_documented_eq`).

Each step says that a function of the pages gives the same for the documented part. That goes
through sorting because entries that are sorted and shown count only by their names and by what is
shown of them (`map_sortedByName_map`), and through the search for a root type because the types
that are left out do not carry its name (`type?_documented`).
-/

namespace SchemaPages

/-! ### The documented part -/

/-- A field without the reason why it is deprecated. -/
def Field.documented (field : Field) : Field :=
  { field with deprecationReason := none }

/-- An enumeration value, with a reason only if it is deprecated. -/
def EnumValue.documented (value : EnumValue) : EnumValue :=
  if value.isDeprecated then value else { value with deprecationReason := none }

/-- A type without its interfaces, and its members without what is not documented of them. -/
def TypeEntry.documented (entry : TypeEntry) : TypeEntry :=
  { entry with
    fields := entry.fields.map (·.map Field.documented)
    interfaces := none
    enumValues := entry.enumValues.map (·.map EnumValue.documented) }

/-- A type that has a name and nothing else. -/
def TypeEntry.bare (name : String) : TypeEntry :=
  { name := some name, kind := none, description := none, fields := none, inputs := none
    interfaces := none, enumValues := none, possibleTypes := none }

namespace Schema

/-- Whether a type is of a documented kind or carries the name of a root type. -/
def documents (schema : Schema) (entry : TypeEntry) : Bool :=
  Pages.Kind.all.any (fun kind => entry.kind == some kind.text) ||
    Pages.Operation.all.any fun operation =>
      entry.name.isSome && entry.name == operation.rootName schema

/-- The names of the root types, and the types that are documented. -/
def documented (schema : Schema) : Schema :=
  { queryType := schema.queryName?.map TypeEntry.bare
    mutationType := schema.mutationName?.map TypeEntry.bare
    subscriptionType := schema.subscriptionName?.map TypeEntry.bare
    types := some ((schema.typeList.filter schema.documents).map TypeEntry.documented)
    directives := none }

variable {schema : Schema} {entry : TypeEntry}

theorem documents_of_kind {kind : Pages.Kind} (h : entry.kind = some kind.text) :
    schema.documents entry = true := by
  rw [documents, Bool.or_eq_true]
  exact .inl (List.any_eq_true.mpr ⟨kind, kind.mem_all, by simp [h]⟩)

theorem documents_of_rootName {operation : Pages.Operation} {name : String}
    (hroot : operation.rootName schema = some name) (h : entry.name = some name) :
    schema.documents entry = true := by
  rw [documents, Bool.or_eq_true]
  exact .inr (List.any_eq_true.mpr ⟨operation, operation.mem_all, by simp [h, hroot]⟩)

/-- The types of a documented kind are all documented. -/
theorem typesOfKind_documented (schema : Schema) (kind : Pages.Kind) :
    schema.documented.typesOfKind (some kind.text) =
      (schema.typesOfKind (some kind.text)).map TypeEntry.documented := by
  have hkept : (schema.typeList.filter schema.documents).filter
      (fun entry => entry.kind == some kind.text) = schema.typesOfKind (some kind.text) := by
    rw [List.filter_filter, typesOfKind]
    refine List.filter_congr fun entry _ => ?_
    by_cases hkind : entry.kind = some kind.text
    · rw [documents_of_kind hkind, Bool.and_true]
    · simp [hkind]
  rw [typesOfKind, typeList, documented, Option.getD_some, List.filter_map]
  exact congrArg _ hkept

/-- The first type with the name of a root type is documented. -/
theorem type?_documented {operation : Pages.Operation} {name : String}
    (hroot : operation.rootName schema = some name) :
    schema.documented.type? name = (schema.type? name).map TypeEntry.documented := by
  have hkept : (schema.typeList.filter schema.documents).find?
      (fun entry => entry.name == some name) = schema.type? name := by
    rw [List.find?_filter, type?]
    congr 1
    funext entry
    by_cases hname : entry.name = some name
    · simp [documents_of_rootName hroot hname, hname]
    · simp [hname]
  rw [type?, typeList, documented, Option.getD_some, List.find?_map]
  exact congrArg _ hkept

end Schema

namespace Pages

variable {schema other : Schema}

theorem rootName_documented (schema : Schema) (operation : Operation) :
    operation.rootName schema.documented = operation.rootName schema := by
  have hbare : ∀ name : Option String,
      (name.map TypeEntry.bare).bind (fun root => root.name) = name := by
    intro name
    cases name <;> rfl
  cases operation <;> exact hbare _

/-! ### Members and sections -/

theorem fieldTable_documented (fields : List Field) :
    fieldTable (fields.map Field.documented) = fieldTable fields := by
  have hname : ∀ field : Field, field.documented.name = field.name := fun _ => rfl
  have hcells : ∀ field : Field, fieldCells field.documented = fieldCells field := fun _ => rfl
  have hrows : (sortedByName Field.name (fields.map Field.documented)).map fieldCells =
      (sortedByName Field.name fields).map fieldCells :=
    map_sortedByName_map hname hcells fields
  rw [fieldTable, fieldTable, hrows]

theorem enumValueTable_documented (values : List EnumValue) :
    enumValueTable (values.map EnumValue.documented) = enumValueTable values := by
  have hname : ∀ value : EnumValue, value.documented.name = value.name := by
    intro value
    rw [EnumValue.documented]
    split <;> rfl
  -- The last cell shows the reason only if the value is deprecated.
  have hcells : ∀ value : EnumValue, enumValueCells value.documented = enumValueCells value := by
    intro value
    rw [EnumValue.documented]
    split
    · rfl
    · next hcurrent => simp [enumValueCells, hcurrent]
  have hrows : (sortedByName EnumValue.name (values.map EnumValue.documented)).map enumValueCells =
      (sortedByName EnumValue.name values).map enumValueCells :=
    map_sortedByName_map hname hcells values
  rw [enumValueTable, enumValueTable, hrows]

theorem typeSection_documented (entry : TypeEntry) :
    typeSection entry.documented = typeSection entry := by
  have hfields : shown entry.documented.fields
      (fun fields => Markdown.heading 3 "Fields" ++ fieldTable fields) =
        shown entry.fields fun fields => Markdown.heading 3 "Fields" ++ fieldTable fields :=
    shown_map (fun fields => by rw [fieldTable_documented]) entry.fields
  have hvalues : shown entry.documented.enumValues
      (fun values => Markdown.heading 3 "Values" ++ enumValueTable values) =
        shown entry.enumValues fun values => Markdown.heading 3 "Values" ++ enumValueTable values :=
    shown_map (fun values => by rw [enumValueTable_documented]) entry.enumValues
  rw [typeSection, hfields, hvalues]
  rfl

/-! ### Pages -/

theorem kindPage_documented (schema : Schema) (title : String) (kind : Kind) :
    kindPage schema.documented title (some kind.text) = kindPage schema title (some kind.text) := by
  have hname : ∀ entry : TypeEntry, entry.documented.name = entry.name := fun _ => rfl
  have hsections : (typesInOrder schema.documented (some kind.text)).map typeSection =
      (typesInOrder schema (some kind.text)).map typeSection := by
    rw [typesInOrder, Schema.typesOfKind_documented]
    exact map_sortedByName_map hname typeSection_documented _
  exact kindPage_congr hsections title

theorem operationPage_documented (schema : Schema) (operation : Operation) :
    operationPage schema.documented (operation.rootName schema.documented) =
      operationPage schema (operation.rootName schema) := by
  rw [rootName_documented, operationPage, operationPage]
  cases hroot : operation.rootName schema with
  | none => rfl
  | some name =>
    rw [Option.bind_some, Option.bind_some, Schema.type?_documented hroot]
    cases schema.type? name with
    | none => rfl
    | some entry =>
      have hfields : (entry.documented.fields.getD []).map operationField =
          (entry.fields.getD []).map operationField := by
        rw [TypeEntry.documented]
        cases entry.fields with
        | none => rfl
        | some fields =>
          rw [Option.map_some, Option.getD_some, Option.getD_some, List.map_map]
          rfl
      simp only [Option.map_some, hfields]
      rfl

/-- The pages of a schema are those of its documented part. -/
theorem render_documented (schema : Schema) : render schema.documented = render schema := by
  simp only [render, kindPage_documented, operationPage_documented]

/-- **What is not documented does not show.** Two schemas have the same nine documents if they have
the same documented part: root types with the same names; and, apart from types of other kinds that
do not carry the name of a root type, the same types in the same order, but for their interfaces,
the reasons why their fields are deprecated, and the reasons of their values that are not
deprecated. -/
theorem render_eq_of_documented_eq (h : schema.documented = other.documented) :
    render schema = render other := by
  calc render schema = render schema.documented := (render_documented schema).symm
    _ = render other.documented := by rw [h]
    _ = render other := render_documented other

/-- A schema that says nothing but what is documented: a root type for queries with a deprecated
field and a current value. -/
def terseSchema : Schema :=
  { queryType := some (.bare "Query")
    mutationType := none
    subscriptionType := none
    types := some
      [{ TypeEntry.bare "Query" with
          kind := some "OBJECT"
          fields := some [⟨some "user", none, none, none, true, none⟩]
          enumValues := some [⟨some "RED", none, false, none⟩] }]
    directives := none }

/-- The same schema with a directive, a description of the root type, an interface, reasons for the
field and for the value, and a type of another kind. -/
def verboseSchema : Schema :=
  { queryType := some { TypeEntry.bare "Query" with description := some "All queries" }
    mutationType := none
    subscriptionType := none
    types := some
      [{ TypeEntry.bare "Account" with kind := some "INTERNAL" },
       { TypeEntry.bare "Query" with
          kind := some "OBJECT"
          fields := some [⟨some "user", none, none, none, true, some "use accounts"⟩]
          interfaces := some [.leaf ⟨some "Node", some "INTERFACE"⟩]
          enumValues := some [⟨some "RED", none, false, some "too bright"⟩] }]
    directives := some [⟨some "skip", none, none, none⟩] }

/-- Two schemas that differ in all that is not documented have the same page of queries. -/
theorem render_eq_of_documented_eq_terse :
    terseSchema ≠ verboseSchema ∧ terseSchema.documented = verboseSchema.documented ∧
      (render verboseSchema).lookup "queries" =
        some "# Query\n\n## user\n\n_Deprecated_\n" := by
  have hsame : terseSchema.documented = verboseSchema.documented := by decide
  refine ⟨by decide, hsame, ?_⟩
  rw [← render_eq_of_documented_eq hsame]
  decide +kernel

end Pages

end SchemaPages
