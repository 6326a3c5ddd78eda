import SchemaPages.Proofs.Pages.Anchor

/-!
# The sections of a page

The page of a kind is a title and one section for each type of the kind, in the order of the names
of the types (`kindPage_eq`). Statements about sections are made about this list of types: it has
the types of the kind, each as often as the schema has it. A page of a kind has content if there is
such a type (`kindPage_ne_empty_iff`), and a page of an operation if a type carries the name of its
root type (`operationPage_ne_empty_iff`).
-/

namespace SchemaPages.Pages

/-- An attribute may be changed before it is shown. -/
theorem shown_map {α β : Type} {f : α → β} {text : β → String} {text' : α → String}
    (h : ∀ a, text (f a) = text' a) (value : Option α) :
    shown (value.map f) text = shown value text' := by
  cases value with
  | none => rfl
  | some a => exact h a

/-- The types of a kind in the order of their sections. -/
def typesInOrder (schema : Schema) (kind : Option String) : List TypeEntry :=
  sortedByName TypeEntry.name (schema.typesOfKind kind)

variable {schema : Schema} {kind : Option String} {entry : TypeEntry}

theorem typesInOrder_perm (schema : Schema) (kind : Option String) :
    (typesInOrder schema kind).Perm (schema.typesOfKind kind) :=
  sortedBy_perm _ _

theorem typesInOrder_eq_nil_iff : typesInOrder schema kind = [] ↔ schema.typesOfKind kind = [] := by
  rw [← List.length_eq_zero_iff, (typesInOrder_perm schema kind).length_eq,
    List.length_eq_zero_iff]

theorem mem_typesOfKind : entry ∈ schema.typesOfKind kind ↔
    entry ∈ schema.typeList ∧ entry.kind = kind := by
  rw [Schema.typesOfKind, List.mem_filter, beq_iff_eq]

/-- The page of a kind is the title with the sections of the types, unless there are none. -/
theorem kindPage_eq (schema : Schema) (title : String) (kind : Option String) :
    kindPage schema title kind =
      if typesInOrder schema kind = [] then ""
      else Markdown.heading 1 title ++
        String.join ((typesInOrder schema kind).map typeSection) := by
  rw [kindPage]
  split
  case h_1 hnone => rw [if_pos (typesInOrder_eq_nil_iff.mpr hnone)]
  case h_2 hsome => rw [if_neg (mt typesInOrder_eq_nil_iff.mp hsome), typesInOrder]

/-- The page of a kind depends on its sections alone. -/
theorem kindPage_congr {other : Schema}
    (h : (typesInOrder schema kind).map typeSection = (typesInOrder other kind).map typeSection)
    (title : String) : kindPage schema title kind = kindPage other title kind := by
  have hempty : typesInOrder schema kind = [] ↔ typesInOrder other kind = [] := by
    rw [← List.map_eq_nil_iff (f := typeSection), h, List.map_eq_nil_iff]
  simp only [kindPage_eq, hempty, h]

theorem kindPage_eq_empty_iff {title : String} :
    kindPage schema title kind = "" ↔ typesInOrder schema kind = [] := by
  rw [kindPage_eq]
  split
  · next hnone => exact iff_of_true rfl hnone
  · next hsome => exact iff_of_false (by simp [Markdown.heading]) hsome

/-- A page of a kind has content exactly if there is a type of the kind. -/
theorem kindPage_ne_empty_iff {title : String} :
    kindPage schema title kind ≠ "" ↔ ∃ entry ∈ schema.typeList, entry.kind = kind := by
  rw [ne_eq, kindPage_eq_empty_iff, typesInOrder_eq_nil_iff]
  constructor
  · intro hne
    obtain ⟨entry, hentry⟩ := List.exists_mem_of_ne_nil _ hne
    exact ⟨entry, mem_typesOfKind.mp hentry⟩
  · rintro ⟨entry, hentry⟩
    exact List.ne_nil_of_mem (mem_typesOfKind.mpr hentry)

/-- The root type of an operation. -/
def Operation.rootType (operation : Operation) (schema : Schema) : Option TypeEntry :=
  match operation with
  | .query => schema.queryType
  | .mutation => schema.mutationType
  | .subscription => schema.subscriptionType

theorem rootName_eq_some_iff {operation : Operation} {name : String} :
    operation.rootName schema = some name ↔
      ∃ root, operation.rootType schema = some root ∧ root.name = some name := by
  cases operation <;> exact Option.bind_eq_some_iff

/-- A page of an operation has content exactly if a type carries the name. -/
theorem operationPage_ne_empty_iff {name : Option String} :
    operationPage schema name ≠ "" ↔
      ∃ text, name = some text ∧ ∃ entry ∈ schema.typeList, entry.name = some text := by
  constructor
  · intro hpage
    rw [operationPage] at hpage
    split at hpage
    · exact absurd rfl hpage
    next entry hfound =>
      obtain ⟨text, hname, htype⟩ := Option.bind_eq_some_iff.mp hfound
      have hcarries : entry.name = some text := by simpa using List.find?_some htype
      exact ⟨text, hname, entry, List.mem_of_find?_eq_some htype, hcarries⟩
  · rintro ⟨text, rfl, entry, hentry, hname⟩
    have hfound : (schema.type? text).isSome :=
      List.find?_isSome.mpr ⟨entry, hentry, by simp [hname]⟩
    obtain ⟨first, hfirst⟩ := Option.isSome_iff_exists.mp hfound
    have hcarries : first.name = some text := by simpa using List.find?_some hfirst
    -- The page starts with the heading that shows the name, so it is not empty.
    rw [operationPage, Option.bind_some, hfirst]
    simp [hcarries, shown, Markdown.heading]

end SchemaPages.Pages
