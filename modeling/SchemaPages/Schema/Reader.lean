import SchemaPages.Json.Basic
import SchemaPages.Pairs
import SchemaPages.Schema.Basic
import SchemaPages.Schema.Place

/-!
# Reading a schema from JSON

A schema section is accepted when every member that is looked at has the shape it should have;
otherwise the first misfit is reported with its place. Some members have several spellings: the
first spelling whose value is not null counts, and messages show the first spelling. A member
that is missing or null is absent. Members nobody looks at do not matter.

Members are looked at in a fixed order, which decides between several misfits: those of an entry
one after the other, each with all that it contains.
-/

namespace SchemaPages.Schema

/-- What a value should have been. -/
inductive Shape where
  | object
  | string
  | boolean
  | list
  deriving DecidableEq, Repr

/-- A value that does not have the shape it should have. -/
structure Misfit where
  place : Place
  expected : Shape
  deriving DecidableEq, Repr

/-- The outcome of reading a value. -/
abbrev Reading := Except Misfit

/-! ### Members -/

/-- The names under which a member may be found, the one that messages show first. -/
structure Spellings where
  canonical : String
  others : List String := []
  deriving Repr

/-- All spellings, in the order of preference. -/
def Spellings.all (names : Spellings) : List String :=
  names.canonical :: names.others

/-- The value of the first of the spellings that is present and not null. -/
def present? (members : List (String × Json)) : List String → Option Json
  | [] => none
  | name :: rest =>
    match Json.member? name members with
    | some value => if value.isNull then present? members rest else some value
    | none => present? members rest

/-- A value found under one of the spellings is smaller than the object. -/
theorem sizeOf_present? {members : List (String × Json)} {names : List String} {value : Json}
    (h : present? members names = some value) : sizeOf value < sizeOf (Json.object members) := by
  induction names with
  | nil => simp [present?] at h
  | cons name rest ih =>
    rw [present?] at h
    split at h
    next found hfound =>
      split at h
      · exact ih h
      · obtain rfl : found = value := by simpa using h
        have hmem : (name, found) ∈ members := Pairs.mem_of_lookup hfound
        have := List.sizeOf_lt_of_mem hmem
        simp only [Prod.mk.sizeOf_spec] at this
        simp only [Json.object.sizeOf_spec]
        omega
    next => exact ih h

/-- Reads the member with these spellings, if it is present. -/
def optional {α : Type} (read : Place → Json → Reading α) (place : Place)
    (members : List (String × Json)) (names : Spellings) : Reading (Option α) :=
  match present? members names.all with
  | none => .ok none
  | some value => some <$> read (place.member names.canonical) value

/-! ### Shapes -/

/-- The members of an object. -/
def readObject (place : Place) : Json → Reading (List (String × Json))
  | .object members => .ok members
  | _ => .error ⟨place, .object⟩

/-- A text. -/
def readString (place : Place) : Json → Reading String
  | .string value => .ok value
  | _ => .error ⟨place, .string⟩

/-- A truth value. -/
def readBool (place : Place) : Json → Reading Bool
  | .bool value => .ok value
  | _ => .error ⟨place, .boolean⟩

/-- Reads the items of a list from an index on. -/
def readItems {α : Type} (read : Place → Json → Reading α) (place : Place) :
    Nat → List Json → Reading (List α)
  | _, [] => .ok []
  | index, item :: rest => do
    let first ← read (place.item index) item
    let others ← readItems read place (index + 1) rest
    return first :: others

/-- A list with items of one kind. -/
def readList {α : Type} (read : Place → Json → Reading α) (place : Place) :
    Json → Reading (List α)
  | .array items => readItems read place 0 items
  | _ => .error ⟨place, .list⟩

/-- An optional text under its only spelling. -/
def optionalString (place : Place) (members : List (String × Json)) (names : Spellings) :
    Reading (Option String) :=
  optional readString place members names

/-- A truth value that is false when it is absent. -/
def flag (place : Place) (members : List (String × Json)) (names : Spellings) : Reading Bool :=
  (·.getD false) <$> optional readBool place members names

/-! ### Spellings -/

namespace Key

def name : Spellings := ⟨"name", []⟩
def kind : Spellings := ⟨"kind", []⟩
def description : Spellings := ⟨"description", []⟩
def args : Spellings := ⟨"args", []⟩
def fields : Spellings := ⟨"fields", []⟩
def interfaces : Spellings := ⟨"interfaces", []⟩
def types : Spellings := ⟨"types", []⟩
def directives : Spellings := ⟨"directives", []⟩
def locations : Spellings := ⟨"locations", []⟩
def queryType : Spellings := ⟨"queryType", ["query_type"]⟩
def mutationType : Spellings := ⟨"mutationType", ["mutation_type"]⟩
def subscriptionType : Spellings := ⟨"subscriptionType", ["subscription_type"]⟩
def inputFields : Spellings := ⟨"inputFields", ["inputs", "input_fields"]⟩
def enumValues : Spellings := ⟨"enumValues", ["enums", "enum_values"]⟩
def possibleTypes : Spellings := ⟨"possibleTypes", ["possible_types"]⟩
def fieldType : Spellings := ⟨"type", ["field_type"]⟩
def inputType : Spellings := ⟨"type", ["input_type"]⟩
def ofType : Spellings := ⟨"ofType", ["of_type"]⟩
def isDeprecated : Spellings := ⟨"isDeprecated", ["is_deprecated"]⟩
def deprecationReason : Spellings := ⟨"deprecationReason", ["deprecation_reason"]⟩
def defaultValue : Spellings := ⟨"defaultValue", ["default_value"]⟩

end Key

/-! ### Entries -/

/-- One level of a reference: its name, then its kind. -/
def readLevel (place : Place) (members : List (String × Json)) : Reading Level := do
  let name ← optionalString place members Key.name
  let kind ← optionalString place members Key.kind
  return { name, kind }

/-- Collects the levels of a reference, however deep it is: the innermost one, and the others with
the inner ones first, in front of those that have been passed on the way. -/
def collectLevels (place : Place) (passed : List Level) (value : Json) :
    Reading (Level × List Level) :=
  match value with
  | .object members =>
    match readLevel place members with
    | .error misfit => .error misfit
    | .ok level =>
      match _h : present? members Key.ofType.all with
      | none => .ok (level, passed)
      | some inner => collectLevels (place.member Key.ofType.canonical) (level :: passed) inner
  | _ => .error ⟨place, .object⟩
termination_by sizeOf value
decreasing_by exact sizeOf_present? _h

/-- A reference of any depth, put together from the innermost level outwards. -/
def readTypeRef (place : Place) (value : Json) : Reading TypeRef :=
  (collectLevels place [] value).map fun (innermost, others) =>
    others.foldl (fun ref level => .wrapped level ref) (.leaf innermost)

/-- The levels that have been passed are kept behind those that are collected. -/
theorem collectLevels_eq_map (place : Place) (passed : List Level) (value : Json) :
    collectLevels place passed value =
      (collectLevels place [] value).map fun (innermost, others) =>
        (innermost, others ++ passed) := by
  induction hsize : sizeOf value using Nat.strongRecOn generalizing place passed value with
  | ind n ih =>
    rw [collectLevels.eq_def, collectLevels.eq_def place []]
    cases value with
    | object members =>
      simp only
      cases readLevel place members with
      | error misfit => rfl
      | ok level =>
        dsimp only
        split
        · rfl
        · next inner hinner =>
          have hlt : sizeOf inner < n := hsize ▸ sizeOf_present? hinner
          rw [ih _ hlt _ (level :: passed) _ rfl, ih _ hlt _ [level] _ rfl]
          cases collectLevels (place.member Key.ofType.canonical) [] inner with
          | error misfit => rfl
          | ok found => simp [Except.map]
    | _ => rfl

/-- A reference is read like any other entry: its level first, then what it wraps. -/
theorem readTypeRef_eq (place : Place) (value : Json) :
    readTypeRef place value = do
      let members ← readObject place value
      let name ← optionalString place members Key.name
      let kind ← optionalString place members Key.kind
      let inner ← optional readTypeRef place members Key.ofType
      return match inner with
        | none => .leaf { name, kind }
        | some inner => .wrapped { name, kind } inner := by
  rw [readTypeRef, collectLevels.eq_def]
  cases value with
  | object members =>
    simp only [readObject, readLevel, optional, bind, Except.bind, pure, Except.pure]
    cases optionalString place members Key.name with
    | error misfit => rfl
    | ok name =>
      cases optionalString place members Key.kind with
      | error misfit => rfl
      | ok kind =>
        dsimp only
        split
        next h =>
          simp only [h]
          rfl
        next inner h =>
          simp only [h]
          -- The level at hand has been passed last, so it is put around all that is inside.
          rw [collectLevels_eq_map, readTypeRef]
          cases collectLevels (place.member Key.ofType.canonical) [] inner with
          | error misfit => rfl
          | ok found => simp [Except.map, Functor.map]
  | _ => rfl

/-- An argument or an input field. -/
def readInput (place : Place) (value : Json) : Reading Input := do
  let members ← readObject place value
  let name ← optionalString place members Key.name
  let description ← optionalString place members Key.description
  let type ← optional readTypeRef place members Key.inputType
  let defaultValue ← optionalString place members Key.defaultValue
  return { name, description, type, defaultValue }

/-- A field. -/
def readField (place : Place) (value : Json) : Reading Field := do
  let members ← readObject place value
  let name ← optionalString place members Key.name
  let description ← optionalString place members Key.description
  let args ← optional (readList readInput) place members Key.args
  let type ← optional readTypeRef place members Key.fieldType
  let isDeprecated ← flag place members Key.isDeprecated
  let deprecationReason ← optionalString place members Key.deprecationReason
  return { name, description, args, type, isDeprecated, deprecationReason }

/-- A value of an enumeration. -/
def readEnumValue (place : Place) (value : Json) : Reading EnumValue := do
  let members ← readObject place value
  let name ← optionalString place members Key.name
  let description ← optionalString place members Key.description
  let isDeprecated ← flag place members Key.isDeprecated
  let deprecationReason ← optionalString place members Key.deprecationReason
  return { name, description, isDeprecated, deprecationReason }

/-- A type. -/
def readType (place : Place) (value : Json) : Reading TypeEntry := do
  let members ← readObject place value
  let name ← optionalString place members Key.name
  let kind ← optionalString place members Key.kind
  let description ← optionalString place members Key.description
  let fields ← optional (readList readField) place members Key.fields
  let inputs ← optional (readList readInput) place members Key.inputFields
  let interfaces ← optional (readList readTypeRef) place members Key.interfaces
  let enumValues ← optional (readList readEnumValue) place members Key.enumValues
  let possibleTypes ← optional (readList readTypeRef) place members Key.possibleTypes
  return { name, kind, description, fields, inputs, interfaces, enumValues, possibleTypes }

/-- A directive; its locations are looked at first. -/
def readDirective (place : Place) (value : Json) : Reading Directive := do
  let members ← readObject place value
  let locations ← optional (readList readString) place members Key.locations
  let name ← optionalString place members Key.name
  let description ← optionalString place members Key.description
  let args ← optional (readList readInput) place members Key.args
  return { name, description, locations, args }

/-- The schema section of an introspection answer. -/
def ofJson (value : Json) : Reading Schema := do
  let members ← readObject [] value
  let queryType ← optional readType [] members Key.queryType
  let mutationType ← optional readType [] members Key.mutationType
  let subscriptionType ← optional readType [] members Key.subscriptionType
  let types ← optional (readList readType) [] members Key.types
  let directives ← optional (readList readDirective) [] members Key.directives
  return { queryType, mutationType, subscriptionType, types, directives }

/-! ### Messages -/

/-- The name of a shape in messages. -/
def Shape.text : Shape → String
  | .object => "an object"
  | .string => "a string"
  | .boolean => "a boolean"
  | .list => "a list"

/-- The text of a misfit. -/
def Misfit.message (misfit : Misfit) : String :=
  "invalid type at " ++ misfit.place.text ++ ": expected " ++ misfit.expected.text

end SchemaPages.Schema
