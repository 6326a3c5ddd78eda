import SchemaPages.Proofs.Schema.Layout

/-!
# Spellings, unknown members and nulls

`Layout.normal` brings a value into the form that says only what is looked at: in every entry each
member stands under its first spelling with the value that counts, and members that are unknown or
null are gone. A value of the wrong shape is left as it is. Reading cannot tell a value from its
normal form (`ofJson_normal`), not even by the message about a misfit.

The reason is that the members of a normal form are found just where they were
(`present?_normalMembers`), which takes two facts about the grammar: first spellings are distinct
(`Entry.nodup_canonical`), and no other spelling is the first one of another member
(`Entry.canonical_ne_other`).
-/

namespace SchemaPages.Schema

variable {α β : Type}

/-- No other spelling of a member is the first spelling of one. -/
theorem Entry.canonical_ne_other {kind : Entry} {member other : Spellings × Layout}
    (hmember : member ∈ kind.members) (hother : other ∈ kind.members) {name : String}
    (hname : name ∈ member.1.others) : other.1.canonical ≠ name := by
  have h : ∀ member ∈ kind.members, ∀ other ∈ kind.members, ∀ name ∈ member.1.others,
      other.1.canonical ≠ name := by
    cases kind <;> decide
  exact h member hmember other hother name hname

/-! ### Members that count -/

/-- A member that counts is not null. -/
theorem isNull_of_present? {members : List (String × Json)} {names : List String} {value : Json}
    (h : present? members names = some value) : value.isNull = false := by
  induction names with
  | nil => simp [present?] at h
  | cons name rest ih =>
    rw [present?] at h
    split at h
    next found _ =>
      split at h
      next => exact ih h
      next hnull => exact Option.some.inj h ▸ Bool.eq_false_iff.mpr hnull
    next => exact ih h

/-- What stands under the first spelling counts, unless it is null. -/
theorem present?_of_canonical {members : List (String × Json)} {names : Spellings} {value : Json}
    (h : Json.member? names.canonical members = some value) (hnull : value.isNull = false) :
    present? members names.all = some value := by
  simp [Spellings.all, present?, h, hnull]

/-- Nothing counts where every spelling is missing or null. -/
theorem present?_eq_none {members : List (String × Json)} {names : List String}
    (h : ∀ name ∈ names, ∀ value, Json.member? name members = some value → value.isNull) :
    present? members names = none := by
  induction names with
  | nil => rfl
  | cons name rest ih =>
    have hrest := ih fun other hother => h other (List.mem_cons_of_mem _ hother)
    rw [present?]
    split
    next value hvalue => rw [if_pos (h name List.mem_cons_self value hvalue), hrest]
    next => exact hrest

/-! ### Normal forms -/

/-- The normal form of a value with a layout. -/
def Layout.normal (layout : Layout) (value : Json) : Json :=
  match layout, value with
  | .list item, .array items => .array (items.map fun value => item.normal value)
  | .entry kind, .object members =>
    .object (kind.members.filterMap fun (names, inner) =>
      match _h : present? members names.all with
      | none => none
      | some found => some (names.canonical, inner.normal found))
  | _, value => value
termination_by sizeOf value
decreasing_by
  · have := List.sizeOf_lt_of_mem ‹_›
    simp only [Json.array.sizeOf_spec]
    omega
  · exact sizeOf_present? _h

/-- The members of the normal form of an entry. -/
def Entry.normalMembers (kind : Entry) (members : List (String × Json)) : List (String × Json) :=
  kind.members.filterMap fun (names, inner) =>
    (present? members names.all).map fun found => (names.canonical, inner.normal found)

theorem Layout.normal_object (kind : Entry) (members : List (String × Json)) :
    (entry kind).normal (.object members) = .object (kind.normalMembers members) := by
  rw [normal, Entry.normalMembers]
  congr 2
  funext ⟨names, inner⟩
  dsimp only
  split
  next h => rw [h, Option.map_none]
  next found h => rw [h, Option.map_some]

theorem Layout.normal_array (item : Layout) (items : List Json) :
    (list item).normal (.array items) = .array (items.map item.normal) := by
  rw [normal]

theorem Layout.isNull_normal (layout : Layout) (value : Json) :
    (layout.normal value).isNull = value.isNull := by
  rw [normal.eq_def]
  cases layout <;> cases value <;> rfl

/-- A member of a normal form stands under its first spelling, if it is present at all. -/
theorem member?_normalMembers (kind : Entry) (members : List (String × Json)) (name : String) :
    Json.member? name (kind.normalMembers members) =
      (kind.members.find? fun member => member.1.canonical = name).bind fun member =>
        (present? members member.1.all).map member.2.normal := by
  have hnodup := kind.nodup_canonical
  rw [Entry.normalMembers, Json.member?]
  generalize kind.members = list at hnodup ⊢
  induction list with
  | nil => rfl
  | cons member rest ih =>
    obtain ⟨names, inner⟩ := member
    rw [List.map_cons, List.nodup_cons] at hnodup
    by_cases hname : names.canonical = name
    · -- The member is the one sought, and no later one has the same first spelling.
      have hrest : (rest.find? fun member => member.1.canonical = name) = none := by
        rw [List.find?_eq_none]
        rintro other hother heq
        refine hnodup.1 (hname ▸ ?_)
        exact of_decide_eq_true heq ▸ List.mem_map_of_mem hother
      have ih := ih hnodup.2
      rw [hrest, Option.bind_none] at ih
      cases h : present? members names.all <;> simp [h, hname, ih]
    · have hbeq : (name == names.canonical) = false := beq_false_of_ne (Ne.symm hname)
      rw [List.find?_cons_of_neg (by simpa using hname), ← ih hnodup.2]
      cases h : present? members names.all <;> simp [h, List.lookup_cons, hbeq]

/-- In a normal form the same members count, with the normal forms of their values. -/
theorem present?_normalMembers {kind : Entry} {names : Spellings} {inner : Layout}
    (h : (names, inner) ∈ kind.members) (members : List (String × Json)) :
    present? (kind.normalMembers members) names.all =
      (present? members names.all).map inner.normal := by
  have hcanonical : Json.member? names.canonical (kind.normalMembers members) =
      (present? members names.all).map inner.normal := by
    rw [member?_normalMembers, Layout.find?_canonical h, Option.bind_some]
  have hother : ∀ name ∈ names.others,
      Json.member? name (kind.normalMembers members) = none := by
    intro name hname
    rw [member?_normalMembers, List.find?_eq_none.mpr, Option.bind_none]
    intro other hother
    simpa using Entry.canonical_ne_other h hother hname
  cases hpresent : present? members names.all with
  | some value =>
    -- A normal form is null only if the value is, so the first spelling settles the matter.
    rw [hpresent] at hcanonical
    refine present?_of_canonical hcanonical ?_
    rw [Layout.isNull_normal, isNull_of_present? hpresent]
  | none =>
    rw [hpresent] at hcanonical
    refine present?_eq_none fun name hname value hvalue => ?_
    rcases List.mem_cons.mp hname with rfl | hname
    · simp [hcanonical] at hvalue
    · simp [hother name hname] at hvalue

/-! ### Reading normal forms -/

/-- Whether a reader cannot tell a value from its normal form. -/
def ReadsNormal (read : Place → Json → Reading α) (layout : Layout) : Prop :=
  ∀ place value, read place (layout.normal value) = read place value

theorem readsNormal_readString : ReadsNormal readString .text := by
  intro place value
  rw [Layout.normal.eq_def]

theorem readsNormal_readBool : ReadsNormal readBool .truth := by
  intro place value
  rw [Layout.normal.eq_def]

theorem readsNormal_readList {read : Place → Json → Reading α} {item : Layout}
    (h : ReadsNormal read item) : ReadsNormal (readList read) (.list item) := by
  intro place value
  cases value with
  | array items =>
    rw [Layout.normal_array, readList, readList]
    generalize 0 = index
    induction items generalizing index with
    | nil => rfl
    | cons value rest ih => rw [List.map_cons, readItems, readItems, h, ih]
  | _ => rw [Layout.normal.eq_def]

/-- A member is read like its value, if it is present. -/
theorem optional_normalMembers {read : Place → Json → Reading α} {kind : Entry} {names : Spellings}
    {inner : Layout} (hmem : (names, inner) ∈ kind.members) {place : Place}
    {members : List (String × Json)} (h : ∀ value, present? members names.all = some value →
      ∀ place, read place (inner.normal value) = read place value) :
    optional read place (kind.normalMembers members) names = optional read place members names := by
  rw [optional, optional, present?_normalMembers hmem]
  cases hvalue : present? members names.all with
  | none => rfl
  | some value => exact congrArg (some <$> ·) (h value hvalue _)

/-- An entry is read as an object, and then its members. -/
theorem bind_readObject_normal {kind : Entry} {body : List (String × Json) → Reading α}
    {place : Place} {value : Json}
    (h : ∀ members, value = .object members → body (kind.normalMembers members) = body members) :
    (readObject place ((Layout.entry kind).normal value) >>= body) =
      readObject place value >>= body := by
  cases value with
  | object members => rw [Layout.normal_object]; exact h members rfl
  | _ => rw [Layout.normal.eq_def]

/-- Members are read one after the other. -/
theorem bind_congr_member {first first' : Reading α} {next next' : α → Reading β}
    (h : first = first') (hnext : ∀ a, next a = next' a) : first >>= next = first' >>= next' := by
  rw [h, funext hnext]

section Members

variable {kind : Entry} {names : Spellings} {place : Place} {members : List (String × Json)}

theorem optionalEntry_normalMembers {read : Place → Json → Reading α} {inner : Layout}
    (h : ReadsNormal read inner)
    (hmem : (names, inner) ∈ kind.members := by simp [Entry.members]) :
    optional read place (kind.normalMembers members) names = optional read place members names :=
  optional_normalMembers hmem fun value _ place => h place value

theorem optionalList_normalMembers {read : Place → Json → Reading α} {item : Layout}
    (h : ReadsNormal read item)
    (hmem : (names, .list item) ∈ kind.members := by simp [Entry.members]) :
    optional (readList read) place (kind.normalMembers members) names =
      optional (readList read) place members names :=
  optionalEntry_normalMembers (readsNormal_readList h) hmem

theorem optionalString_normalMembers
    (hmem : (names, .text) ∈ kind.members := by simp [Entry.members]) :
    optionalString place (kind.normalMembers members) names = optionalString place members names :=
  optionalEntry_normalMembers readsNormal_readString hmem

theorem flag_normalMembers
    (hmem : (names, .truth) ∈ kind.members := by simp [Entry.members]) :
    flag place (kind.normalMembers members) names = flag place members names := by
  rw [flag, flag, optionalEntry_normalMembers readsNormal_readBool hmem]

end Members

theorem readsNormal_readTypeRef : ReadsNormal readTypeRef (.entry .ref) := by
  intro place value
  induction hsize : sizeOf value using Nat.strongRecOn generalizing place value with
  | ind n ih =>
    rw [readTypeRef_eq, readTypeRef_eq]
    refine bind_readObject_normal fun members hvalue =>
      bind_congr_member optionalString_normalMembers fun _ =>
      bind_congr_member optionalString_normalMembers fun _ =>
      bind_congr_member ?_ fun _ => rfl
    have hmem : (Key.ofType, Layout.entry .ref) ∈ Entry.ref.members := by simp [Entry.members]
    refine optional_normalMembers hmem fun inner hinner place => ?_
    refine ih _ ?_ place inner rfl
    rw [← hsize, hvalue]
    exact sizeOf_present? hinner

theorem readsNormal_readInput : ReadsNormal readInput (.entry .input) := fun _ _ =>
  bind_readObject_normal fun _ _ =>
    bind_congr_member optionalString_normalMembers fun _ =>
    bind_congr_member optionalString_normalMembers fun _ =>
    bind_congr_member (optionalEntry_normalMembers readsNormal_readTypeRef) fun _ =>
    bind_congr_member optionalString_normalMembers fun _ => rfl

theorem readsNormal_readField : ReadsNormal readField (.entry .field) := fun _ _ =>
  bind_readObject_normal fun _ _ =>
    bind_congr_member optionalString_normalMembers fun _ =>
    bind_congr_member optionalString_normalMembers fun _ =>
    bind_congr_member (optionalList_normalMembers readsNormal_readInput) fun _ =>
    bind_congr_member (optionalEntry_normalMembers readsNormal_readTypeRef) fun _ =>
    bind_congr_member flag_normalMembers fun _ =>
    bind_congr_member optionalString_normalMembers fun _ => rfl

theorem readsNormal_readEnumValue : ReadsNormal readEnumValue (.entry .enumValue) := fun _ _ =>
  bind_readObject_normal fun _ _ =>
    bind_congr_member optionalString_normalMembers fun _ =>
    bind_congr_member optionalString_normalMembers fun _ =>
    bind_congr_member flag_normalMembers fun _ =>
    bind_congr_member optionalString_normalMembers fun _ => rfl

theorem readsNormal_readType : ReadsNormal readType (.entry .type) := fun _ _ =>
  bind_readObject_normal fun _ _ =>
    bind_congr_member optionalString_normalMembers fun _ =>
    bind_congr_member optionalString_normalMembers fun _ =>
    bind_congr_member optionalString_normalMembers fun _ =>
    bind_congr_member (optionalList_normalMembers readsNormal_readField) fun _ =>
    bind_congr_member (optionalList_normalMembers readsNormal_readInput) fun _ =>
    bind_congr_member (optionalList_normalMembers readsNormal_readTypeRef) fun _ =>
    bind_congr_member (optionalList_normalMembers readsNormal_readEnumValue) fun _ =>
    bind_congr_member (optionalList_normalMembers readsNormal_readTypeRef) fun _ => rfl

theorem readsNormal_readDirective : ReadsNormal readDirective (.entry .directive) := fun _ _ =>
  bind_readObject_normal fun _ _ =>
    bind_congr_member (optionalList_normalMembers readsNormal_readString) fun _ =>
    bind_congr_member optionalString_normalMembers fun _ =>
    bind_congr_member optionalString_normalMembers fun _ =>
    bind_congr_member (optionalList_normalMembers readsNormal_readInput) fun _ => rfl

/-- **Spellings do not matter.** A schema section and its normal form give the same schema, or the
same misfit at the same place. -/
theorem ofJson_normal (value : Json) :
    ofJson ((Layout.entry .schema).normal value) = ofJson value :=
  bind_readObject_normal fun _ _ =>
    bind_congr_member (optionalEntry_normalMembers readsNormal_readType) fun _ =>
    bind_congr_member (optionalEntry_normalMembers readsNormal_readType) fun _ =>
    bind_congr_member (optionalEntry_normalMembers readsNormal_readType) fun _ =>
    bind_congr_member (optionalList_normalMembers readsNormal_readType) fun _ =>
    bind_congr_member (optionalList_normalMembers readsNormal_readDirective) fun _ => rfl

end SchemaPages.Schema
