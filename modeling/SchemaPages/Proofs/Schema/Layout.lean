import SchemaPages.Schema.Reader

/-!
# The layout of an introspection answer

The grammar of a schema section: which objects there are (`Entry`), which members of each are
looked at, in which order (`Entry.members`), and what is expected of a value (`Layout`). It says
nothing about reading. What a reader accepts, what it reports first and what it ignores are stated
against this grammar.

`Layout.parts` lists the parts of a value that are looked at, and `Layout.follow` goes from a value
along a place. They agree (`Layout.mem_parts_iff`), because no two members of an entry have the
same first spelling (`Entry.nodup_canonical`).
-/

namespace SchemaPages.Schema

/-- The objects of a schema section. -/
inductive Entry where
  | schema
  | type
  | field
  | input
  | enumValue
  | ref
  | directive
  deriving DecidableEq, Repr

/-- What is expected of a value. -/
inductive Layout where
  | text
  | truth
  | list (item : Layout)
  | entry (kind : Entry)
  deriving DecidableEq, Repr

/-- The members of an entry, in the order in which they are looked at. -/
def Entry.members : Entry → List (Spellings × Layout)
  | .schema =>
    [(Key.queryType, .entry .type), (Key.mutationType, .entry .type),
     (Key.subscriptionType, .entry .type), (Key.types, .list (.entry .type)),
     (Key.directives, .list (.entry .directive))]
  | .type =>
    [(Key.name, .text), (Key.kind, .text), (Key.description, .text),
     (Key.fields, .list (.entry .field)), (Key.inputFields, .list (.entry .input)),
     (Key.interfaces, .list (.entry .ref)), (Key.enumValues, .list (.entry .enumValue)),
     (Key.possibleTypes, .list (.entry .ref))]
  | .field =>
    [(Key.name, .text), (Key.description, .text), (Key.args, .list (.entry .input)),
     (Key.fieldType, .entry .ref), (Key.isDeprecated, .truth), (Key.deprecationReason, .text)]
  | .input =>
    [(Key.name, .text), (Key.description, .text), (Key.inputType, .entry .ref),
     (Key.defaultValue, .text)]
  | .enumValue =>
    [(Key.name, .text), (Key.description, .text), (Key.isDeprecated, .truth),
     (Key.deprecationReason, .text)]
  | .ref => [(Key.name, .text), (Key.kind, .text), (Key.ofType, .entry .ref)]
  | .directive =>
    [(Key.locations, .list .text), (Key.name, .text), (Key.description, .text),
     (Key.args, .list (.entry .input))]

/-- No two members of an entry have the same first spelling. -/
theorem Entry.nodup_canonical (kind : Entry) :
    (kind.members.map fun member => member.1.canonical).Nodup := by
  cases kind <;> decide

/-- Whether a value has a shape. -/
def Shape.fits : Shape → Json → Bool
  | .object, .object _ => true
  | .string, .string _ => true
  | .boolean, .bool _ => true
  | .list, .array _ => true
  | _, _ => false

/-- A part of a value: the step that leads to it, and what is expected of it. -/
structure Part where
  step : Step
  layout : Layout
  value : Json

namespace Layout

/-- The shape that a value should have. -/
def shape : Layout → Shape
  | .text => .string
  | .truth => .boolean
  | .list _ => .list
  | .entry _ => .object

/-- The parts of a value that are looked at, in order: the items of a list, and the members of an
entry that are present. A value of another shape has none. -/
def parts : Layout → Json → List Part
  | .list item, .array items => items.zipIdx.map fun (value, index) => ⟨.item index, item, value⟩
  | .entry kind, .object members =>
    kind.members.filterMap fun (names, layout) =>
      (present? members names.all).map fun value => ⟨.member names.canonical, layout, value⟩
  | _, _ => []

theorem sizeOf_part {layout : Layout} {value : Json} {part : Part} (h : part ∈ layout.parts value) :
    sizeOf part.value < sizeOf value := by
  cases layout <;> cases value <;> simp only [parts, List.not_mem_nil] at h
  case list.array item items =>
    obtain ⟨⟨found, index⟩, hfound, rfl⟩ := List.mem_map.mp h
    have : sizeOf found < sizeOf items :=
      List.sizeOf_lt_of_mem (List.fst_mem_of_mem_zipIdx hfound)
    simp only [Json.array.sizeOf_spec]
    omega
  case entry.object kind members =>
    obtain ⟨⟨names, inner⟩, -, hpart⟩ := List.mem_filterMap.mp h
    obtain ⟨found, hfound, rfl⟩ := Option.map_eq_some_iff.mp hpart
    exact sizeOf_present? hfound

/-! ### Following a place -/

/-- What is expected after a step. -/
def child? : Layout → Step → Option Layout
  | .list item, .item _ => some item
  | .entry kind, .member name =>
    (kind.members.find? fun member => member.1.canonical = name).map Prod.snd
  | _, _ => none

/-- Takes a step from a value: to an item of a list, or to the member whose first spelling the step
names, wherever it is found. -/
def step? : Layout → Json → Step → Option (Layout × Json)
  | .list item, .array items, .item index => items[index]?.map (item, ·)
  | .entry kind, .object members, .member name => do
    let (names, layout) ← kind.members.find? fun member => member.1.canonical = name
    let value ← present? members names.all
    return (layout, value)
  | _, _, _ => none

/-- Follows a place from a value. -/
def follow : Layout → Json → Place → Option (Layout × Json)
  | layout, value, [] => some (layout, value)
  | layout, value, step :: rest =>
    (layout.step? value step).bind fun (inner, found) => inner.follow found rest

/-- A member is found by its first spelling. -/
theorem find?_canonical {kind : Entry} {member : Spellings × Layout} (h : member ∈ kind.members) :
    (kind.members.find? fun other => other.1.canonical = member.1.canonical) = some member := by
  -- Only the distinct spellings matter, so the induction forgets which entry the members are of.
  have hnodup := kind.nodup_canonical
  generalize kind.members = members at h hnodup
  induction members with
  | nil => exact absurd h List.not_mem_nil
  | cons first rest ih =>
    rw [List.map_cons, List.nodup_cons] at hnodup
    rcases List.mem_cons.mp h with rfl | hrest
    · simp
    · have hne : first.1.canonical ≠ member.1.canonical := fun heq =>
        hnodup.1 (heq ▸ List.mem_map_of_mem hrest)
      rw [List.find?_cons_of_neg (by simpa using hne)]
      exact ih hrest hnodup.2

/-- The parts of a value are what one step leads to. -/
theorem mem_parts_iff {layout : Layout} {value : Json} {part : Part} :
    part ∈ layout.parts value ↔ layout.step? value part.step = some (part.layout, part.value) := by
  obtain ⟨step, inner, found⟩ := part
  cases layout <;> cases value <;>
    simp only [parts, step?, List.not_mem_nil, reduceCtorEq]
  case list.array item items =>
    cases step with
    | member name => simp
    | item index =>
      simp only [List.mem_map, Prod.exists, Part.mk.injEq, Step.item.injEq, Option.map_eq_some_iff,
        Prod.mk.injEq, List.mem_zipIdx_iff_getElem?]
      grind
  case entry.object kind members =>
    cases step with
    | item index => simp
    | member name =>
      simp only [List.mem_filterMap, Prod.exists, Option.map_eq_some_iff, Part.mk.injEq,
        Step.member.injEq, Option.bind_eq_bind, Option.bind_eq_some_iff, Option.pure_def,
        Option.some.injEq, Prod.mk.injEq]
      constructor
      · rintro ⟨names, layout, hmem, value, hvalue, rfl, rfl, rfl⟩
        exact ⟨names, layout, find?_canonical hmem, value, hvalue, rfl, rfl⟩
      · rintro ⟨names, layout, hfind, value, hvalue, rfl, rfl⟩
        have hname : names.canonical = name := by simpa using List.find?_some hfind
        exact ⟨names, layout, List.mem_of_find?_eq_some hfind, value, hvalue, hname, rfl, rfl⟩

end Layout

end SchemaPages.Schema
