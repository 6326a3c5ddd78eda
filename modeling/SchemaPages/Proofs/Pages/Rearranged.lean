import Mathlib.Data.List.Forall2
import SchemaPages.Proofs.Pages.NameOrder
import SchemaPages.Proofs.Pages.Sections

/-!
# Schemas in another order

A server may list the types of its schema, and the members of a type, in any order. Pages sort what
they show, so where names tell the entries apart, a schema in another order has the same pages. The
exception is the page of a root operation, which shows the fields of its root type as they come.

`Shuffled` is the relation between two lists that have the same entries up to a change of each
entry. What carries the proof is one lemma about it: what the sorted entries show is the same
(`Shuffled.map_sortedByName`). It is used for the members of a type and then for the types.
-/

namespace SchemaPages

/-! ### Lists in another order -/

/-- Whether a list has the entries of another one, each of them changed in some way, in any
order. -/
def Shuffled {α : Type} (change : α → α → Prop) (entries others : List α) : Prop :=
  ∃ changed, List.Forall₂ change entries changed ∧ changed.Perm others

namespace Shuffled

variable {α β : Type} {change : α → α → Prop} {entries others : List α}

/-- What a change does not affect is the same for each entry. -/
theorem map_eq_of_forall₂ {f : α → β} (hf : ∀ a ∈ entries, ∀ b, change a b → f a = f b)
    (h : List.Forall₂ change entries others) : entries.map f = others.map f := by
  induction h with
  | nil => rfl
  | @cons a b rest changed hab _ ih =>
    obtain ⟨hfirst, hrest⟩ := List.forall_mem_cons.mp hf
    rw [List.map_cons, List.map_cons, hfirst b hab, ih hrest]

theorem map_perm {f : α → β} (hf : ∀ a ∈ entries, ∀ b, change a b → f a = f b)
    (h : Shuffled change entries others) : (entries.map f).Perm (others.map f) := by
  obtain ⟨changed, hchanged, hperm⟩ := h
  rw [map_eq_of_forall₂ hf hchanged]
  exact hperm.map f

theorem filter {keep : α → Bool} (hkeep : ∀ a b, change a b → keep a = keep b)
    (h : Shuffled change entries others) :
    Shuffled change (entries.filter keep) (others.filter keep) := by
  obtain ⟨changed, hchanged, hperm⟩ := h
  refine ⟨changed.filter keep, List.rel_filter (fun a b hab => ?_) hchanged, hperm.filter keep⟩
  exact Bool.eq_iff_iff.mp (hkeep a b hab)

theorem exists_of_mem (h : Shuffled change entries others) {entry : α} (hentry : entry ∈ entries) :
    ∃ other ∈ others, change entry other := by
  obtain ⟨changed, hchanged, hperm⟩ := h
  obtain ⟨i, hi, rfl⟩ := List.getElem_of_mem hentry
  have hi' : i < changed.length := hchanged.length_eq ▸ hi
  exact ⟨changed[i], hperm.mem_iff.mp (List.getElem_mem hi'), hchanged.get hi hi'⟩

theorem getD {first second : Option (List α)}
    (h : Option.Rel (Shuffled change) first second) :
    Shuffled change (first.getD []) (second.getD []) := by
  cases h with
  | none => exact ⟨[], .nil, .refl []⟩
  | some h => exact h

/-- Entries that a change leaves in place can be told by their names, if these are distinct. -/
theorem forall₂_of_map_eq {name : α → β} (hname : ∀ a b, change a b → name a = name b)
    (hnodup : (entries.map name).Nodup) (hsame : entries.map name = others.map name)
    (h : Shuffled change entries others) : List.Forall₂ change entries others := by
  obtain ⟨changed, hchanged, hperm⟩ := h
  have hnames : changed.map name = others.map name :=
    (map_eq_of_forall₂ (fun a _ => hname a) hchanged).symm.trans hsame
  have hlength : changed.length = others.length := hperm.length_eq
  have heq : changed = others := by
    refine List.ext_getElem hlength fun i hi hi' => ?_
    refine List.inj_on_of_nodup_map (hsame ▸ hnodup) (hperm.mem_iff.mp (List.getElem_mem hi))
      (List.getElem_mem hi') ?_
    have hat := congrArg (·[i]?) hnames
    simpa [hi, hi'] using hat
  exact heq ▸ hchanged

/-- What is shown of entries in the order of their names does not depend on the order in which they
are listed, if their names are distinct. -/
theorem map_sortedByName {name : α → Option String} {f : α → β}
    (hname : ∀ a b, change a b → name a = name b)
    (hf : ∀ a ∈ entries, ∀ b, change a b → f a = f b) (hnodup : (entries.map name).Nodup)
    (h : Shuffled change entries others) :
    (Pages.sortedByName name entries).map f = (Pages.sortedByName name others).map f := by
  have hperm : (entries.map fun a => (name a, f a)).Perm (others.map fun a => (name a, f a)) :=
    h.map_perm fun a ha b hab => by rw [hname a b hab, hf a ha b hab]
  rw [Pages.map_sortedByName_eq, Pages.sortedByName_eq_of_perm (by rwa [List.map_map]) hperm,
    ← Pages.map_sortedByName_eq]

end Shuffled

/-! ### Schemas in another order -/

/-- Whether a field is another one but for the order of its arguments. -/
structure Field.Rearranged (field other : Field) : Prop where
  args : Option.Rel List.Perm field.args other.args
  rest : other = { field with args := other.args }

/-- Whether a type is another one but for the order of its members and of those of its fields. -/
structure TypeEntry.Rearranged (entry other : TypeEntry) : Prop where
  fields : Option.Rel (Shuffled Field.Rearranged) entry.fields other.fields
  inputs : Option.Rel List.Perm entry.inputs other.inputs
  enumValues : Option.Rel List.Perm entry.enumValues other.enumValues
  possibleTypes : Option.Rel List.Perm entry.possibleTypes other.possibleTypes
  rest : other = { entry with
    fields := other.fields, inputs := other.inputs, enumValues := other.enumValues
    possibleTypes := other.possibleTypes }

/-- Whether a schema is another one but for the order of its types and of what is in them. -/
structure Schema.Rearranged (schema other : Schema) : Prop where
  queryType : Option.Rel TypeEntry.Rearranged schema.queryType other.queryType
  mutationType : Option.Rel TypeEntry.Rearranged schema.mutationType other.mutationType
  subscriptionType : Option.Rel TypeEntry.Rearranged schema.subscriptionType other.subscriptionType
  types : Option.Rel (Shuffled TypeEntry.Rearranged) schema.types other.types
  directives : other.directives = schema.directives

/-- Whether the names of members tell them apart. At most one of several members has no name. -/
structure TypeEntry.DistinctMembers (entry : TypeEntry) : Prop where
  fields : ((entry.fields.getD []).map Field.name).Nodup
  args : ∀ field ∈ entry.fields.getD [], ((field.args.getD []).map Input.name).Nodup
  inputs : ((entry.inputs.getD []).map Input.name).Nodup
  enumValues : ((entry.enumValues.getD []).map EnumValue.name).Nodup

/-- Whether names tell types and members apart. At most one type of a documented kind has no
name. -/
structure Schema.DistinctNames (schema : Schema) : Prop where
  named : (schema.typeList.filterMap TypeEntry.name).Nodup
  unnamed : ∀ kind : Pages.Kind,
    (schema.typesOfKind (some kind.text)).countP (fun entry => entry.name.isNone) ≤ 1
  members : ∀ entry ∈ schema.typeList, entry.DistinctMembers

theorem Field.Rearranged.name_eq {field other : Field} (h : field.Rearranged other) :
    field.name = other.name :=
  (congrArg Field.name h.rest).symm

namespace TypeEntry.Rearranged

variable {entry other : TypeEntry}

theorem name_eq (h : entry.Rearranged other) : entry.name = other.name :=
  (congrArg TypeEntry.name h.rest).symm

theorem kind_eq (h : entry.Rearranged other) : entry.kind = other.kind :=
  (congrArg TypeEntry.kind h.rest).symm

theorem description_eq (h : entry.Rearranged other) : entry.description = other.description :=
  (congrArg TypeEntry.description h.rest).symm

end TypeEntry.Rearranged

namespace Pages

variable {α : Type}

/-! ### Sections -/

/-- Attributes that show the same text are shown alike. -/
theorem shown_congr {change : α → α → Prop} {first second : Option α} {text : α → String}
    (h : Option.Rel change first second)
    (htext : ∀ a b, first = some a → change a b → text a = text b) :
    shown first text = shown second text := by
  cases h with
  | none => rfl
  | some h => exact htext _ _ rfl h

theorem inputTable_eq_of_perm {inputs others : List Input}
    (hnodup : (inputs.map Input.name).Nodup) (hperm : inputs.Perm others) :
    inputTable inputs = inputTable others := by
  rw [inputTable, inputTable, sortedByName_eq_of_perm hnodup hperm]

/-- The table of fields says nothing about their arguments. -/
theorem fieldTable_eq {fields others : List Field} (hnodup : (fields.map Field.name).Nodup)
    (h : Shuffled Field.Rearranged fields others) : fieldTable fields = fieldTable others := by
  have hcells : ∀ a ∈ fields, ∀ b, Field.Rearranged a b → fieldCells a = fieldCells b := by
    intro a _ b hab
    rw [hab.rest]
    rfl
  have hrows : (sortedByName Field.name fields).map fieldCells =
      (sortedByName Field.name others).map fieldCells :=
    h.map_sortedByName (fun _ _ => Field.Rearranged.name_eq) hcells hnodup
  rw [fieldTable, fieldTable, hrows]

theorem implementations_eq_of_perm {types others : List TypeRef} (hperm : types.Perm others) :
    implementations types = implementations others := by
  rw [implementations, implementations, sortedTexts_eq_of_perm (hperm.map _)]

/-- The section of a type with distinct members does not depend on their order. -/
theorem typeSection_eq {entry other : TypeEntry} (hdistinct : entry.DistinctMembers)
    (h : entry.Rearranged other) : typeSection entry = typeSection other := by
  have hfields := hdistinct.fields
  have hinputs := hdistinct.inputs
  have hvalues := hdistinct.enumValues
  rw [typeSection, typeSection, h.name_eq, h.description_eq]
  refine congr_arg₂ _ (congr_arg₂ _ (congr_arg₂ _ (congr_arg₂ _ rfl ?_) ?_) ?_) ?_
  · refine shown_congr h.fields fun fields others hsome hrel => ?_
    rw [hsome, Option.getD_some] at hfields
    rw [fieldTable_eq hfields hrel]
  · refine shown_congr h.inputs fun inputs others hsome hperm => ?_
    rw [hsome, Option.getD_some] at hinputs
    rw [inputTable_eq_of_perm hinputs hperm]
  · refine shown_congr h.enumValues fun values others hsome hperm => ?_
    rw [hsome, Option.getD_some] at hvalues
    rw [enumValueTable, enumValueTable, sortedByName_eq_of_perm hvalues hperm]
  · refine shown_congr h.possibleTypes fun types others _ hperm => ?_
    rw [implementations_eq_of_perm hperm]

/-- The section of a field with distinct arguments does not depend on their order. -/
theorem operationField_eq {field other : Field}
    (hnodup : ((field.args.getD []).map Input.name).Nodup) (h : field.Rearranged other) :
    operationField field = operationField other := by
  obtain ⟨name, description, args, type, isDeprecated, reason⟩ := field
  obtain ⟨hargs, hrest⟩ := h
  generalize other.args = otherArgs at hargs hrest
  subst hrest
  rw [operationField, operationField]
  refine congr_arg₂ _ rfl ?_
  cases hargs with
  | none => rfl
  | @some args others hperm =>
    cases args with
    | nil => rw [hperm.nil_eq]
    | cons first rest =>
      cases others with
      | nil => exact absurd hperm.eq_nil (List.cons_ne_nil first rest)
      | cons _ _ =>
        exact congrArg (Markdown.heading 3 "Arguments" ++ ·) (inputTable_eq_of_perm hnodup hperm)

/-! ### Pages -/

variable {schema other : Schema}

theorem shuffled_typeList (h : schema.Rearranged other) :
    Shuffled TypeEntry.Rearranged schema.typeList other.typeList :=
  Shuffled.getD h.types

theorem shuffled_typesOfKind (h : schema.Rearranged other) (kind : Option String) :
    Shuffled TypeEntry.Rearranged (schema.typesOfKind kind) (other.typesOfKind kind) :=
  (shuffled_typeList h).filter fun _ _ hab => by rw [hab.kind_eq]

/-- Names that are distinct where they are present, and missing at most once, are distinct. -/
theorem nodup_map_of_filterMap {name : α → Option String} {entries : List α}
    (hnamed : (entries.filterMap name).Nodup)
    (hunnamed : entries.countP (fun entry => (name entry).isNone) ≤ 1) :
    (entries.map name).Nodup := by
  rw [List.nodup_iff_count_le_one]
  intro found
  cases found with
  | none =>
    refine Nat.le_trans (Nat.le_of_eq ?_) hunnamed
    rw [List.count, List.countP_map]
    refine List.countP_congr fun entry _ => ?_
    cases h : name entry <;> simp [h]
  | some text =>
    refine Nat.le_trans (Nat.le_of_eq ?_) (List.nodup_iff_count_le_one.mp hnamed text)
    rw [List.count, List.count, List.countP_map, List.countP_filterMap]
    refine List.countP_congr fun entry _ => ?_
    cases h : name entry <;> simp [h]

theorem nodup_names_typesOfKind (hdistinct : schema.DistinctNames) (kind : Kind) :
    ((schema.typesOfKind (some kind.text)).map TypeEntry.name).Nodup := by
  refine nodup_map_of_filterMap ?_ (hdistinct.unnamed kind)
  exact hdistinct.named.sublist (List.filter_sublist.filterMap TypeEntry.name)

/-- The page of a kind does not depend on the order of the types and of their members. -/
theorem kindPage_eq_of_rearranged (hdistinct : schema.DistinctNames) (h : schema.Rearranged other)
    (title : String) (kind : Kind) :
    kindPage schema title (some kind.text) = kindPage other title (some kind.text) := by
  have hsection : ∀ a ∈ schema.typesOfKind (some kind.text), ∀ b, TypeEntry.Rearranged a b →
      typeSection a = typeSection b := fun a ha b hab =>
    typeSection_eq (hdistinct.members a (mem_typesOfKind.mp ha).1) hab
  have hsections : (typesInOrder schema (some kind.text)).map typeSection =
      (typesInOrder other (some kind.text)).map typeSection :=
    (shuffled_typesOfKind h _).map_sortedByName (fun _ _ => TypeEntry.Rearranged.name_eq) hsection
      (nodup_names_typesOfKind hdistinct kind)
  exact kindPage_congr hsections title

theorem rootName_eq (h : schema.Rearranged other) (operation : Operation) :
    operation.rootName schema = operation.rootName other := by
  have hroot : ∀ {first second : Option TypeEntry}, Option.Rel TypeEntry.Rearranged first second →
      first.bind (·.name) = second.bind (·.name) := by
    intro first second hrel
    cases hrel with
    | none => rfl
    | some h => exact h.name_eq
  cases operation with
  | query => exact hroot h.queryType
  | mutation => exact hroot h.mutationType
  | subscription => exact hroot h.subscriptionType

/-- Where names are distinct, an entry is found by its name. -/
theorem find?_of_mem {name : α → Option String} {entries : List α}
    (hnamed : (entries.filterMap name).Nodup) {entry : α} (hmem : entry ∈ entries) {text : String}
    (hname : name entry = some text) : entries.find? (name · == some text) = some entry := by
  induction entries with
  | nil => exact absurd hmem List.not_mem_nil
  | cons first rest ih =>
    rcases List.mem_cons.mp hmem with rfl | hrest
    · exact List.find?_cons_of_pos (by simp [hname])
    · have hfound : text ∈ rest.filterMap name := List.mem_filterMap.mpr ⟨entry, hrest, hname⟩
      have hfirst : name first ≠ some text := by
        intro hsame
        rw [List.filterMap_cons_some hsame] at hnamed
        exact (List.nodup_cons.mp hnamed).1 hfound
      rw [List.find?_cons_of_neg (by simp [hfirst])]
      exact ih (hnamed.sublist ((List.sublist_cons_self first rest).filterMap name)) hrest

theorem type?_eq_some_iff (hnamed : (schema.typeList.filterMap TypeEntry.name).Nodup)
    {name : String} {entry : TypeEntry} :
    schema.type? name = some entry ↔ entry ∈ schema.typeList ∧ entry.name = some name := by
  constructor
  · intro h
    exact ⟨List.mem_of_find?_eq_some h, by simpa using List.find?_some h⟩
  · rintro ⟨hmem, hname⟩
    exact find?_of_mem hnamed hmem hname

theorem names_perm (h : schema.Rearranged other) :
    (schema.typeList.map TypeEntry.name).Perm (other.typeList.map TypeEntry.name) :=
  (shuffled_typeList h).map_perm fun _ _ _ => TypeEntry.Rearranged.name_eq

theorem named_of_rearranged (hnamed : (schema.typeList.filterMap TypeEntry.name).Nodup)
    (h : schema.Rearranged other) : (other.typeList.filterMap TypeEntry.name).Nodup := by
  have hpresent := (names_perm h).filterMap id
  rw [List.filterMap_map, List.filterMap_map] at hpresent
  exact hpresent.nodup_iff.mp hnamed

/-- The type that carries a name is the same but for the order of its members. -/
theorem rel_type? (hnamed : (schema.typeList.filterMap TypeEntry.name).Nodup)
    (h : schema.Rearranged other) (name : String) :
    Option.Rel TypeEntry.Rearranged (schema.type? name) (other.type? name) := by
  have hnamed' := named_of_rearranged hnamed h
  cases hfound : schema.type? name with
  | some entry =>
    obtain ⟨hmem, hname⟩ := (type?_eq_some_iff hnamed).mp hfound
    obtain ⟨changed, hchanged, hrel⟩ := (shuffled_typeList h).exists_of_mem hmem
    rw [(type?_eq_some_iff hnamed').mpr ⟨hchanged, hrel.name_eq ▸ hname⟩]
    exact .some hrel
  | none =>
    cases hother : other.type? name with
    | none => exact .none
    | some changed =>
      -- A name that the other schema has is a name of the first one too.
      obtain ⟨hmem, hname⟩ := (type?_eq_some_iff hnamed').mp hother
      obtain ⟨entry, hentry, hsame⟩ :=
        List.mem_map.mp ((names_perm h).mem_iff.mpr (List.mem_map_of_mem hmem))
      rw [(type?_eq_some_iff hnamed).mpr ⟨hentry, hsame.trans hname⟩] at hfound
      cases hfound

/-- Whether the fields of the root type of an operation stand in the same order. -/
def SameFieldOrder (operation : Operation) (schema other : Schema) : Prop :=
  ∀ name entry changed, operation.rootName schema = some name → schema.type? name = some entry →
    other.type? name = some changed →
    (entry.fields.getD []).map Field.name = (changed.fields.getD []).map Field.name

/-- The page of an operation does not depend on any order but that of the fields of its type. -/
theorem operationPage_eq_of_rearranged (hdistinct : schema.DistinctNames)
    (h : schema.Rearranged other) {operation : Operation}
    (horder : SameFieldOrder operation schema other) :
    operationPage schema (operation.rootName schema) =
      operationPage other (operation.rootName other) := by
  rw [operationPage, operationPage, ← rootName_eq h]
  cases hroot : operation.rootName schema with
  | none => rfl
  | some name =>
    have hrel := rel_type? hdistinct.named h name
    rw [Option.bind_some, Option.bind_some]
    generalize hfound : schema.type? name = found at hrel ⊢
    generalize hother : other.type? name = changed at hrel ⊢
    cases hrel with
    | none => rfl
    | @some entry changed hrel =>
      have hmembers := hdistinct.members entry ((type?_eq_some_iff hdistinct.named).mp hfound).1
      -- Fields with distinct names that stand in the same order correspond one by one.
      have hfields : List.Forall₂ Field.Rearranged
          (entry.fields.getD []) (changed.fields.getD []) :=
        (Shuffled.getD hrel.fields).forall₂_of_map_eq (fun _ _ => Field.Rearranged.name_eq)
          hmembers.fields (horder name entry changed hroot hfound hother)
      have hsections : (entry.fields.getD []).map operationField =
          (changed.fields.getD []).map operationField :=
        Shuffled.map_eq_of_forall₂
          (fun field hfield _ => operationField_eq (hmembers.args field hfield)) hfields
      simp only [hrel.name_eq, hrel.description_eq, hsections]

/-- **The order of a schema.** Take a schema in which names tell types and members apart, and the
same schema with its types, and the fields, arguments, input fields, values and possible types in
them, in any other order. Both have the same document for each kind; and they have the same document
for a root operation if the fields of its type stand in the same order. -/
theorem render_rearranged (hdistinct : schema.DistinctNames) (h : schema.Rearranged other) :
    (∀ kind : Kind, ∃ page, (render schema).lookup kind.document = some page ∧
        (render other).lookup kind.document = some page) ∧
      ∀ operation : Operation, SameFieldOrder operation schema other →
        ∃ page, (render schema).lookup operation.document = some page ∧
          (render other).lookup operation.document = some page := by
  refine ⟨fun kind => ⟨_, lookup_render_kind schema kind, ?_⟩,
    fun operation horder => ⟨_, lookup_render_operation schema operation, ?_⟩⟩
  · rw [lookup_render_kind, kindPage_eq_of_rearranged hdistinct h]
  · rw [lookup_render_operation, operationPage_eq_of_rearranged hdistinct h horder]

/-- A type of a kind that has no attributes but its name. -/
def bareType (name kind : String) : TypeEntry :=
  { name := some name, kind := some kind, description := none, fields := none, inputs := none
    interfaces := none, enumValues := none, possibleTypes := none }

/-- A field with arguments. -/
def bareField (name : String) (args : List String) : Field :=
  { name := some name, description := none, type := none, isDeprecated := false
    deprecationReason := none, args := some (args.map fun arg => ⟨some arg, none, none, none⟩) }

/-- A schema in which a function orders all lists but the fields of the root type. -/
def petSchema (order : ∀ {α : Type}, List α → List α) : Schema :=
  { queryType := some (bareType "Query" "OBJECT"), mutationType := none, subscriptionType := none
    directives := none
    types := some <| order
      [{ bareType "Query" "OBJECT" with
          fields := some [bareField "pets" (order ["limit", "after"]), bareField "owners" []] },
       { bareType "Owner" "OBJECT" with
          fields := some (order [bareField "name" [], bareField "age" []]) },
       { bareType "Size" "ENUM" with
          enumValues := some
            (order [⟨some "SMALL", none, false, none⟩, ⟨none, none, true, none⟩]) },
       { bareType "Pet" "UNION" with
          possibleTypes := some (order [.leaf ⟨some "Dog", none⟩, .leaf ⟨some "Cat", none⟩]) }] }

/-- A schema with four types and its reverse have the same documents of the objects and of the
queries. -/
theorem render_rearranged_reversed :
    petSchema id ≠ petSchema List.reverse ∧ (petSchema id).DistinctNames ∧
      (petSchema id).Rearranged (petSchema List.reverse) ∧
      (∃ page, (render (petSchema id)).lookup "objects" = some page ∧
        (render (petSchema List.reverse)).lookup "objects" = some page) ∧
      ∃ page, (render (petSchema id)).lookup "queries" = some page ∧
        (render (petSchema List.reverse)).lookup "queries" = some page := by
  have hdistinct : (petSchema id).DistinctNames := by
    refine ⟨by decide, fun kind => by cases kind <;> decide, ?_⟩
    simp only [petSchema, Schema.typeList, Option.getD_some, id, List.forall_mem_cons]
    refine ⟨?_, ?_, ?_, ?_, fun _ h => nomatch h⟩ <;>
      exact ⟨by decide, by decide, by decide, by decide⟩
  have hreversed : (petSchema id).Rearranged (petSchema List.reverse) := by
    have hperm : ∀ {α : Type} (list : List α), list.Perm list.reverse := fun list =>
      (List.reverse_perm list).symm
    have hfield : ∀ name args, (bareField name args).Rearranged (bareField name args.reverse) := by
      intro name args
      refine ⟨.some ?_, rfl⟩
      rw [List.map_reverse]
      exact hperm _
    refine ⟨.some ⟨.none, .none, .none, .none, rfl⟩, .none, .none, .some ?_, rfl⟩
    refine ⟨_, .cons ?_ (.cons ?_ (.cons ?_ (.cons ?_ .nil))), hperm _⟩
    · exact ⟨.some ⟨_, .cons (hfield _ _) (.cons (hfield _ _) .nil), .refl _⟩,
        .none, .none, .none, rfl⟩
    · exact ⟨.some ⟨_, .cons (hfield _ _) (.cons (hfield _ _) .nil), hperm _⟩,
        .none, .none, .none, rfl⟩
    · exact ⟨.none, .none, .some (hperm _), .none, rfl⟩
    · exact ⟨.none, .none, .none, .some (hperm _), rfl⟩
  have hdiffer : petSchema id ≠ petSchema List.reverse := by decide
  obtain ⟨hkinds, hoperations⟩ := render_rearranged hdistinct hreversed
  refine ⟨hdiffer, hdistinct, hreversed, hkinds .object, hoperations .query ?_⟩
  rintro name entry changed ⟨⟩ ⟨⟩ ⟨⟩
  decide

end Pages

end SchemaPages
