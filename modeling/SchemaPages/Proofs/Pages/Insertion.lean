import SchemaPages.Proofs.Pages.NameOrder
import SchemaPages.Proofs.Pages.Sections

/-!
# One more type in a schema

A schema may get one more type anywhere in its list of types. The page of another kind does not
change, and the page of its own kind gets the section of the new type and loses nothing. That rests
on the sort being stable: with one more entry it puts this entry somewhere between the others and
moves none of them (`exists_sortedBy_eq`), even where names come more than once or are missing. A
page of a root operation can change only if the new type becomes the first one with the name of the
root type.
-/

namespace SchemaPages

/-- The schema with one more type at a position of its list; behind the end, the type comes last. -/
def Schema.insertType (schema : Schema) (position : Nat) (entry : TypeEntry) : Schema :=
  { schema with
    types := some (schema.typeList.take position ++ entry :: schema.typeList.drop position) }

namespace Pages

/-! ### Sorting one more entry -/

section

variable {α : Type} {le : α → α → Bool} {entry added : α} {entries front back : List α}

theorem insertBy_eq_cons (h : ∀ other ∈ entries, le entry other = true) :
    insertBy le entry entries = entry :: entries := by
  cases entries with
  | nil => rfl
  | cons other rest => rw [insertBy, if_pos (h other List.mem_cons_self)]

/-- An entry goes somewhere between those that are there. -/
theorem exists_insertBy_eq (le : α → α → Bool) (entry : α) (entries : List α) :
    ∃ front back, entries = front ++ back ∧ insertBy le entry entries = front ++ entry :: back := by
  induction entries with
  | nil => exact ⟨[], [], rfl, rfl⟩
  | cons other rest ih =>
    rw [insertBy]
    split
    · exact ⟨[], other :: rest, rfl, rfl⟩
    · obtain ⟨front, back, hrest, hinsert⟩ := ih
      exact ⟨other :: front, back, congrArg (other :: ·) hrest, congrArg (other :: ·) hinsert⟩

/-- Where an entry goes among others does not depend on one that is left out, if the list is
sorted with it. -/
theorem exists_insertBy_append_eq (hle : IsOrder le) (entry : α)
    (hsorted : (front ++ added :: back).Pairwise (le · ·)) :
    ∃ front' back', insertBy le entry (front ++ back) = front' ++ back' ∧
      insertBy le entry (front ++ added :: back) = front' ++ added :: back' := by
  induction front with
  | nil =>
    obtain ⟨hadded, -⟩ := List.pairwise_cons.mp hsorted
    rw [List.nil_append, List.nil_append, insertBy]
    split
    case isTrue hentry =>
      -- What may follow the added entry may follow the new one too.
      have hback : insertBy le entry back = entry :: back :=
        insertBy_eq_cons fun other hother => hle.trans hentry (hadded other hother)
      exact ⟨[entry], back, hback, rfl⟩
    case isFalse => exact ⟨[], insertBy le entry back, rfl, rfl⟩
  | cons first rest ih =>
    rw [List.cons_append, List.cons_append, insertBy, insertBy]
    split
    · exact ⟨entry :: first :: rest, back, rfl, rfl⟩
    · obtain ⟨front', back', hwithout, hwith⟩ := ih (List.pairwise_cons.mp hsorted).2
      exact ⟨first :: front', back', congrArg (first :: ·) hwithout, congrArg (first :: ·) hwith⟩

/-- **Stability.** Wherever an entry is added to a list, sorting puts it somewhere between the
sorted entries and moves none of these. -/
theorem exists_sortedBy_eq (hle : IsOrder le) (entry : α) (before after : List α) :
    ∃ front back, sortedBy le (before ++ after) = front ++ back ∧
      sortedBy le (before ++ entry :: after) = front ++ entry :: back := by
  induction before with
  | nil => exact exists_insertBy_eq le entry (sortedBy le after)
  | cons first rest ih =>
    obtain ⟨front, back, hwithout, hwith⟩ := ih
    have hsorted : (front ++ entry :: back).Pairwise (le · ·) :=
      hwith ▸ pairwise_sortedBy hle (rest ++ entry :: after)
    rw [List.cons_append, List.cons_append, sortedBy, sortedBy, hwithout, hwith]
    exact exists_insertBy_append_eq hle first hsorted

end

/-! ### Pages with one more type -/

variable (schema : Schema) (position : Nat) {entry : TypeEntry}

theorem typeList_insertType (entry : TypeEntry) :
    (schema.insertType position entry).typeList =
      schema.typeList.take position ++ entry :: schema.typeList.drop position :=
  rfl

/-- The types of a kind are the same but for a new type of the kind. -/
theorem typesOfKind_insertType_of_ne {kind : Option String} (h : entry.kind ≠ kind) :
    (schema.insertType position entry).typesOfKind kind = schema.typesOfKind kind := by
  rw [Schema.typesOfKind, typeList_insertType, List.filter_append,
    List.filter_cons_of_neg (by simpa using h), ← List.filter_append, List.take_append_drop]
  rfl

/-- A new type of a kind stands somewhere between the others. -/
theorem exists_typesInOrder_insertType (entry : TypeEntry) :
    ∃ front back, typesInOrder schema entry.kind = front ++ back ∧
      typesInOrder (schema.insertType position entry) entry.kind = front ++ entry :: back := by
  let inKind : TypeEntry → Bool := fun other => other.kind == entry.kind
  have hwithout : schema.typesOfKind entry.kind =
      (schema.typeList.take position).filter inKind ++
        (schema.typeList.drop position).filter inKind := by
    rw [← List.filter_append, List.take_append_drop, Schema.typesOfKind]
  have hwith : (schema.insertType position entry).typesOfKind entry.kind =
      (schema.typeList.take position).filter inKind ++
        entry :: (schema.typeList.drop position).filter inKind := by
    rw [Schema.typesOfKind, typeList_insertType, List.filter_append,
      List.filter_cons_of_pos (by simp)]
  rw [typesInOrder, typesInOrder, hwithout, hwith]
  exact exists_sortedBy_eq (isOrder_nameLe.comap TypeEntry.name) entry _ _

/-- An empty page becomes the title with the section of the new type. -/
theorem kindPage_insertType_of_empty {title : String}
    (h : kindPage schema title entry.kind = "") :
    kindPage (schema.insertType position entry) title entry.kind =
      Markdown.heading 1 title ++ typeSection entry := by
  obtain ⟨front, back, hwithout, hwith⟩ := exists_typesInOrder_insertType schema position entry
  have hnone : front ++ back = [] := hwithout.symm.trans (kindPage_eq_empty_iff.mp h)
  obtain ⟨rfl, rfl⟩ := List.append_eq_nil_iff.mp hnone
  rw [kindPage_eq, hwith, if_neg (by simp), List.nil_append, List.map_singleton, String.join_cons,
    String.join_nil, String.append_empty]

/-- Any other page gets the section of the new type somewhere behind its title. -/
theorem exists_kindPage_insertType {title : String} (h : kindPage schema title entry.kind ≠ "") :
    ∃ front back : String,
      kindPage schema title entry.kind = Markdown.heading 1 title ++ front ++ back ∧
      kindPage (schema.insertType position entry) title entry.kind =
        Markdown.heading 1 title ++ front ++ typeSection entry ++ back := by
  obtain ⟨front, back, hwithout, hwith⟩ := exists_typesInOrder_insertType schema position entry
  refine ⟨String.join (front.map typeSection), String.join (back.map typeSection), ?_, ?_⟩
  · rw [kindPage_eq, if_neg (mt kindPage_eq_empty_iff.mpr h), hwithout, List.map_append,
      String.join_append, String.append_assoc]
  · rw [kindPage_eq, hwith, if_neg (by simp), List.map_append, List.map_cons, String.join_append,
      String.join_cons]
    simp only [String.append_assoc]

/-- The first type with a name is another one only if the new type has the name and no type in front
of it has. -/
theorem name_eq_of_type?_insertType_ne {name : String}
    (h : (schema.insertType position entry).type? name ≠ schema.type? name) :
    entry.name = some name ∧ ∀ other ∈ schema.typeList.take position, other.name ≠ some name := by
  have hwithout : schema.type? name =
      ((schema.typeList.take position).find? (·.name == some name)).or
        ((schema.typeList.drop position).find? (·.name == some name)) := by
    rw [← List.find?_append, List.take_append_drop, Schema.type?]
  rw [hwithout, Schema.type?, typeList_insertType, List.find?_append] at h
  cases hfront : (schema.typeList.take position).find? (·.name == some name) with
  | some found => exact absurd (by rw [hfront]; rfl) h
  | none =>
    refine ⟨?_, fun other hother hname => ?_⟩
    · by_contra hentry
      rw [List.find?_cons_of_neg (by simpa using hentry)] at h
      exact h rfl
    · exact List.find?_eq_none.mp hfront other hother (beq_iff_eq.mpr hname)

/-- **One more type.** Add a type to a schema, at any position of its list of types. The document of
each other kind stays as it is. The document of its own kind, if that is documented, has the section
of the type after the title: somewhere between the other sections, which stay as they are, or alone
if the document was empty. The document of a root operation changes only if the new type has the
name of the root type and no type in front of it has. -/
theorem render_insertType (schema : Schema) (position : Nat) (entry : TypeEntry) :
    (∀ kind : Kind, entry.kind ≠ some kind.text →
      ∃ page, (render schema).lookup kind.document = some page ∧
        (render (schema.insertType position entry)).lookup kind.document = some page) ∧
      (∀ kind : Kind, entry.kind = some kind.text →
        ∃ page extended, (render schema).lookup kind.document = some page ∧
          (render (schema.insertType position entry)).lookup kind.document = some extended ∧
          (page = "" → extended = "# " ++ kind.title ++ "\n\n" ++ typeSection entry) ∧
          (page ≠ "" → ∃ front back, page = "# " ++ kind.title ++ "\n\n" ++ front ++ back ∧
            extended = "# " ++ kind.title ++ "\n\n" ++ front ++ typeSection entry ++ back)) ∧
      ∀ operation : Operation, ∃ page changed,
        (render schema).lookup operation.document = some page ∧
        (render (schema.insertType position entry)).lookup operation.document = some changed ∧
        (changed ≠ page → ∃ name, operation.rootName schema = some name ∧ entry.name = some name ∧
          ∀ other ∈ schema.typeList.take position, other.name ≠ some name) := by
  refine ⟨fun kind hkind => ?_, fun kind hkind => ?_, fun operation => ?_⟩
  · refine ⟨_, lookup_render_kind schema kind, ?_⟩
    rw [lookup_render_kind, kindPage, kindPage, typesOfKind_insertType_of_ne schema position hkind]
  · have htitle : "# " ++ kind.title ++ "\n\n" = Markdown.heading 1 kind.title := rfl
    refine ⟨_, _, lookup_render_kind schema kind, lookup_render_kind _ kind, ?_, ?_⟩ <;>
      rw [← hkind, htitle]
    · exact kindPage_insertType_of_empty schema position
    · exact exists_kindPage_insertType schema position
  · have hroot : operation.rootName (schema.insertType position entry) =
        operation.rootName schema := by
      cases operation <;> rfl
    refine ⟨_, _, lookup_render_operation schema operation, lookup_render_operation _ operation,
      fun hchanged => ?_⟩
    rw [hroot, operationPage, operationPage] at hchanged
    cases hname : operation.rootName schema with
    | none => exact absurd (by rw [hname]; rfl) hchanged
    | some name =>
      rw [hname, Option.bind_some, Option.bind_some] at hchanged
      have hfound : (schema.insertType position entry).type? name ≠ schema.type? name :=
        fun heq => hchanged (by rw [heq])
      exact ⟨name, rfl, name_eq_of_type?_insertType_ne schema position hfound⟩

end Pages

end SchemaPages
