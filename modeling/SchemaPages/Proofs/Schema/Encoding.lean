import SchemaPages.Proofs.Json.Spelling
import SchemaPages.Proofs.Schema.Normal
import SchemaPages.Schema.Response

/-!
# Writing a schema as JSON

The JSON in which a service describes a schema: an object for each entry, under the names that the
introspection query asks for, a list for each list, and a reference as objects inside each other.
The format leaves two things open, which a `Style` decides: whether an absent attribute is written
as null or left out, and in which order the members of an object stand. `ofJson_encode` is the
round trip: in every style, reading gives the schema back.
-/

namespace SchemaPages.Schema

/-- What the format leaves open. -/
structure Style where
  /-- Whether the attribute at a place is written as null if it is absent. -/
  writesNull : Place → Bool
  /-- The order of the members of the object at a place. -/
  arrange : Place → List (String × Json) → List (String × Json)
  arrange_perm (place : Place) (members : List (String × Json)) :
    (arrange place members).Perm members

namespace Style

variable {α : Type} (style : Style)

/-! ### Encoding -/

/-- The members for an attribute. -/
def written (place : Place) : String × Option Json → List (String × Json)
  | (name, some value) => [(name, value)]
  | (name, none) => if style.writesNull (place.member name) then [(name, .null)] else []

/-- The members for several attributes. -/
def members (place : Place) (attributes : List (String × Option Json)) : List (String × Json) :=
  style.arrange place (attributes.flatMap (style.written place))

/-- The object with some attributes. -/
def object (place : Place) (attributes : List (String × Option Json)) : Json :=
  .object (style.members place attributes)

/-- The list of some entries. -/
def list (encode : Place → α → Json) (place : Place) (entries : List α) : Json :=
  .array (entries.mapIdx fun index entry => encode (place.item index) entry)

/-- A reference: the object of its outermost level, which holds the rest. -/
def typeRef (place : Place) : TypeRef → Json
  | .leaf level =>
    style.object place
      [("name", level.name.map .string), ("kind", level.kind.map .string), ("ofType", none)]
  | .wrapped level inner =>
    style.object place
      [("name", level.name.map .string), ("kind", level.kind.map .string),
       ("ofType", some (typeRef (place.member "ofType") inner))]

/-- An argument or an input field. -/
def input (place : Place) (input : Input) : Json :=
  style.object place
    [("name", input.name.map .string), ("description", input.description.map .string),
     ("type", input.type.map (style.typeRef (place.member "type"))),
     ("defaultValue", input.defaultValue.map .string)]

/-- A field. -/
def field (place : Place) (field : Field) : Json :=
  style.object place
    [("name", field.name.map .string), ("description", field.description.map .string),
     ("args", field.args.map (list style.input (place.member "args"))),
     ("type", field.type.map (style.typeRef (place.member "type"))),
     ("isDeprecated", some (.bool field.isDeprecated)),
     ("deprecationReason", field.deprecationReason.map .string)]

/-- A value of an enumeration. -/
def enumValue (place : Place) (value : EnumValue) : Json :=
  style.object place
    [("name", value.name.map .string), ("description", value.description.map .string),
     ("isDeprecated", some (.bool value.isDeprecated)),
     ("deprecationReason", value.deprecationReason.map .string)]

/-- A type. -/
def type (place : Place) (entry : TypeEntry) : Json :=
  style.object place
    [("name", entry.name.map .string), ("kind", entry.kind.map .string),
     ("description", entry.description.map .string),
     ("fields", entry.fields.map (list style.field (place.member "fields"))),
     ("inputFields", entry.inputs.map (list style.input (place.member "inputFields"))),
     ("interfaces", entry.interfaces.map (list style.typeRef (place.member "interfaces"))),
     ("enumValues", entry.enumValues.map (list style.enumValue (place.member "enumValues"))),
     ("possibleTypes", entry.possibleTypes.map (list style.typeRef (place.member "possibleTypes")))]

/-- A directive. -/
def directive (place : Place) (directive : Directive) : Json :=
  style.object place
    [("locations", directive.locations.map (list (fun _ => .string) (place.member "locations"))),
     ("name", directive.name.map .string), ("description", directive.description.map .string),
     ("args", directive.args.map (list style.input (place.member "args")))]

/-- The schema section. -/
def encode (schema : Schema) : Json :=
  style.object []
    [("queryType", schema.queryType.map (style.type [.member "queryType"])),
     ("mutationType", schema.mutationType.map (style.type [.member "mutationType"])),
     ("subscriptionType", schema.subscriptionType.map (style.type [.member "subscriptionType"])),
     ("types", schema.types.map (list style.type [.member "types"])),
     ("directives", schema.directives.map (list style.directive [.member "directives"]))]

/-! ### Looking up what has been written -/

/-- An attribute is written under its own name, and as null if it is absent. -/
theorem mem_members_iff {style : Style} {place : Place} {attributes : List (String × Option Json)}
    {name : String} {value : Json} :
    (name, value) ∈ style.members place attributes ↔
      (name, some value) ∈ attributes ∨
        (name, none) ∈ attributes ∧ style.writesNull (place.member name) ∧ value = .null := by
  rw [members, (style.arrange_perm place _).mem_iff, List.mem_flatMap]
  constructor
  · rintro ⟨⟨other, found⟩, hmem, hvalue⟩
    cases found with
    | some found =>
      obtain ⟨rfl, rfl⟩ : name = other ∧ value = found := by simpa [written] using hvalue
      exact Or.inl hmem
    | none =>
      rw [written] at hvalue
      split at hvalue
      next hnull =>
        obtain ⟨rfl, rfl⟩ : name = other ∧ value = .null := by simpa using hvalue
        exact Or.inr ⟨hmem, hnull, rfl⟩
      next => exact absurd hvalue List.not_mem_nil
  · rintro (hmem | ⟨hmem, hnull, rfl⟩)
    · exact ⟨_, hmem, by simp [written]⟩
    · exact ⟨_, hmem, by simp [written, hnull]⟩

theorem nodup_members {style : Style} {place : Place} {attributes : List (String × Option Json)}
    (h : (attributes.map Prod.fst).Nodup) :
    ((style.members place attributes).map Prod.fst).Nodup := by
  rw [members, ((style.arrange_perm place _).map Prod.fst).nodup_iff]
  refine h.sublist ?_
  induction attributes with
  | nil => exact List.Sublist.slnil
  | cons first rest ih =>
    obtain ⟨name, value⟩ := first
    have ih := ih (List.nodup_cons.mp h).2
    rw [List.flatMap_cons, List.map_append]
    cases value with
    | some value => exact ih.cons_cons name
    | none =>
      rw [written]
      split
      · exact ih.cons_cons name
      · exact ih.cons name

/-- Where the first spellings of an entry are written, each member counts with its attribute. -/
theorem present?_members {style : Style} {place : Place} {kind : Entry}
    {attributes : List (String × Option Json)}
    (hnames : attributes.map Prod.fst = kind.members.map fun member => member.1.canonical)
    {names : Spellings} (hmember : names ∈ kind.members.map Prod.fst) {found : Option Json}
    (hfound : attributes.lookup names.canonical = some found)
    (hnull : ∀ value ∈ found, value.isNull = false) :
    present? (style.members place attributes) names.all = found := by
  have hnodup : (attributes.map Prod.fst).Nodup := hnames ▸ kind.nodup_canonical
  cases found with
  | some value =>
    refine present?_of_canonical ?_ (hnull value rfl)
    refine Pairs.lookup_of_mem (nodup_members hnodup) (mem_members_iff.mpr (Or.inl ?_))
    exact Pairs.mem_of_lookup hfound
  | none =>
    -- Under its own name the member can only be null, and no attribute is written under another.
    refine present?_eq_none fun name hname value hvalue => ?_
    rcases mem_members_iff.mp (Pairs.mem_of_lookup hvalue) with hmem | ⟨-, -, rfl⟩
    · rcases List.mem_cons.mp hname with rfl | hother
      · simp [Pairs.lookup_of_mem hnodup hmem] at hfound
      · obtain ⟨member, hin, rfl⟩ := List.mem_map.mp hmember
        obtain ⟨other, hmem, heq⟩ := List.mem_map.mp (hnames ▸ List.mem_map_of_mem hmem)
        exact absurd heq (Entry.canonical_ne_other hin hmem hother)
    · rfl

/-! ### Reading what has been written -/

/-- A list of entries is read back item by item. -/
theorem readList_list {place place' : Place} {read : Place → Json → Reading α}
    {encode : Place → α → Json} (h : ∀ place place' a, read place (encode place' a) = .ok a)
    (entries : List α) : readList read place (list encode place' entries) = .ok entries := by
  -- Writing depends on the index, so the induction needs every way to write from an index on.
  have hitems : ∀ (write : Nat → α → Json), (∀ index place a, read place (write index a) = .ok a) →
      ∀ index, readItems read place index (entries.mapIdx write) = .ok entries := by
    induction entries with
    | nil => exact fun _ _ _ => rfl
    | cons first rest ih =>
      intro write hwrite index
      rw [List.mapIdx_cons, readItems, hwrite,
        ih (fun index => write (index + 1)) fun index => hwrite (index + 1)]
      rfl
  exact hitems _ (fun index place a => h place _ a) 0

section Members

variable {style : Style} {place place' : Place} {attributes : List (String × Option Json)}
  {names : Spellings} (kind : Entry)

/-- An attribute is read back as a member. -/
theorem optional_members {read : Place → Json → Reading α} {encode : α → Json} (value : Option α)
    (hread : ∀ a ∈ value, ∀ place, read place (encode a) = .ok a)
    (hnull : ∀ a ∈ value, (encode a).isNull = false)
    (hfound : attributes.lookup names.canonical = some (value.map encode))
    (hnames : attributes.map Prod.fst = kind.members.map fun member => member.1.canonical := by rfl)
    (hmember : names ∈ kind.members.map Prod.fst := by simp [Entry.members]) :
    optional read place (style.members place' attributes) names = .ok value := by
  have hpresent : present? (style.members place' attributes) names.all = value.map encode :=
    present?_members hnames hmember hfound (by simpa using hnull)
  rw [optional, hpresent]
  cases value with
  | none => rfl
  | some a => exact congrArg (some <$> ·) (hread a rfl _)

theorem optionalString_members {value : Option String}
    (hfound : attributes.lookup names.canonical = some (value.map .string))
    (hnames : attributes.map Prod.fst = kind.members.map fun member => member.1.canonical := by rfl)
    (hmember : names ∈ kind.members.map Prod.fst := by simp [Entry.members]) :
    optionalString place (style.members place' attributes) names = .ok value :=
  optional_members kind value (fun _ _ _ => rfl) (fun _ _ => rfl) hfound hnames hmember

theorem flag_members {value : Bool}
    (hfound : attributes.lookup names.canonical = some (some (.bool value)))
    (hnames : attributes.map Prod.fst = kind.members.map fun member => member.1.canonical := by rfl)
    (hmember : names ∈ kind.members.map Prod.fst := by simp [Entry.members]) :
    flag place (style.members place' attributes) names = .ok value := by
  have h : optional readBool place (style.members place' attributes) names = .ok (some value) :=
    optional_members kind (some value) (fun _ _ _ => rfl) (fun _ _ => rfl) hfound hnames hmember
  rw [flag, h]
  rfl

theorem optionalEntry_members {read : Place → Json → Reading α} {encode : Place → α → Json}
    (hread : ∀ place place' a, read place (encode place' a) = .ok a)
    (hnull : ∀ place a, (encode place a).isNull = false) {inner : Place} {value : Option α}
    (hfound : attributes.lookup names.canonical = some (value.map (encode inner)))
    (hnames : attributes.map Prod.fst = kind.members.map fun member => member.1.canonical := by rfl)
    (hmember : names ∈ kind.members.map Prod.fst := by simp [Entry.members]) :
    optional read place (style.members place' attributes) names = .ok value :=
  optional_members kind value (fun a _ place => hread place inner a) (fun a _ => hnull inner a)
    hfound hnames hmember

theorem optionalList_members {read : Place → Json → Reading α} {encode : Place → α → Json}
    (hread : ∀ place place' a, read place (encode place' a) = .ok a) {inner : Place}
    {value : Option (List α)}
    (hfound : attributes.lookup names.canonical = some (value.map (list encode inner)))
    (hnames : attributes.map Prod.fst = kind.members.map fun member => member.1.canonical := by rfl)
    (hmember : names ∈ kind.members.map Prod.fst := by simp [Entry.members]) :
    optional (readList read) place (style.members place' attributes) names = .ok value :=
  optional_members kind value (fun entries _ _ => readList_list hread entries) (fun _ _ => rfl)
    hfound hnames hmember

end Members

/-- Members are read one after the other. -/
theorem bind_ok {β : Type} {first : Reading α} {next : α → Reading β} {a : α} {b : β}
    (h : first = .ok a) (hnext : next a = .ok b) : first >>= next = .ok b := by
  rw [h]
  exact hnext

theorem isNull_typeRef (style : Style) (place : Place) (ref : TypeRef) :
    (style.typeRef place ref).isNull = false := by
  cases ref <;> rfl

theorem readTypeRef_typeRef (style : Style) (place place' : Place) (ref : TypeRef) :
    readTypeRef place (style.typeRef place' ref) = .ok ref := by
  induction ref generalizing place place' with
  | leaf level =>
    rw [readTypeRef_eq, typeRef]
    exact bind_ok rfl <|
      bind_ok (optionalString_members .ref rfl) <|
      bind_ok (optionalString_members .ref rfl) <|
      bind_ok (@optional_members _ _ _ _ _ _ .ref _ (fun _ => .null) none nofun nofun rfl rfl
        (by simp [Entry.members])) rfl
  | wrapped level inner ih =>
    rw [readTypeRef_eq, typeRef]
    exact bind_ok rfl <|
      bind_ok (optionalString_members .ref rfl) <|
      bind_ok (optionalString_members .ref rfl) <|
      bind_ok (optional_members .ref (some inner)
        (fun _ h place => Option.some.inj h ▸ ih place _) (fun _ _ => isNull_typeRef ..) rfl) rfl

theorem readInput_input (style : Style) (place place' : Place) (input : Input) :
    readInput place (style.input place' input) = .ok input :=
  bind_ok rfl <|
    bind_ok (optionalString_members .input rfl) <|
    bind_ok (optionalString_members .input rfl) <|
    bind_ok (optionalEntry_members .input (readTypeRef_typeRef style) (isNull_typeRef style) rfl) <|
    bind_ok (optionalString_members .input rfl) rfl

theorem readField_field (style : Style) (place place' : Place) (field : Field) :
    readField place (style.field place' field) = .ok field :=
  bind_ok rfl <|
    bind_ok (optionalString_members .field rfl) <|
    bind_ok (optionalString_members .field rfl) <|
    bind_ok (optionalList_members .field (readInput_input style) rfl) <|
    bind_ok (optionalEntry_members .field (readTypeRef_typeRef style) (isNull_typeRef style) rfl) <|
    bind_ok (flag_members .field rfl) <|
    bind_ok (optionalString_members .field rfl) rfl

theorem readEnumValue_enumValue (style : Style) (place place' : Place) (value : EnumValue) :
    readEnumValue place (style.enumValue place' value) = .ok value :=
  bind_ok rfl <|
    bind_ok (optionalString_members .enumValue rfl) <|
    bind_ok (optionalString_members .enumValue rfl) <|
    bind_ok (flag_members .enumValue rfl) <|
    bind_ok (optionalString_members .enumValue rfl) rfl

theorem readType_type (style : Style) (place place' : Place) (entry : TypeEntry) :
    readType place (style.type place' entry) = .ok entry :=
  bind_ok rfl <|
    bind_ok (optionalString_members .type rfl) <|
    bind_ok (optionalString_members .type rfl) <|
    bind_ok (optionalString_members .type rfl) <|
    bind_ok (optionalList_members .type (readField_field style) rfl) <|
    bind_ok (optionalList_members .type (readInput_input style) rfl) <|
    bind_ok (optionalList_members .type (readTypeRef_typeRef style) rfl) <|
    bind_ok (optionalList_members .type (readEnumValue_enumValue style) rfl) <|
    bind_ok (optionalList_members .type (readTypeRef_typeRef style) rfl) rfl

theorem readDirective_directive (style : Style) (place place' : Place) (directive : Directive) :
    readDirective place (style.directive place' directive) = .ok directive :=
  bind_ok rfl <|
    bind_ok (@optionalList_members String style _ _ _ _ .directive readString (fun _ => .string)
      (fun _ _ _ => rfl) _ _ rfl rfl (by simp [Entry.members])) <|
    bind_ok (optionalString_members .directive rfl) <|
    bind_ok (optionalString_members .directive rfl) <|
    bind_ok (optionalList_members .directive (readInput_input style) rfl) rfl

theorem ofJson_encode (style : Style) (schema : Schema) :
    ofJson (style.encode schema) = .ok schema :=
  bind_ok rfl <|
    bind_ok (optionalEntry_members .schema (readType_type style) (fun _ _ => rfl) rfl) <|
    bind_ok (optionalEntry_members .schema (readType_type style) (fun _ _ => rfl) rfl) <|
    bind_ok (optionalEntry_members .schema (readType_type style) (fun _ _ => rfl) rfl) <|
    bind_ok (optionalList_members .schema (readType_type style) rfl) <|
    bind_ok (optionalList_members .schema (readDirective_directive style) rfl) rfl

/-- **Round trip.** In every style, reading what has been written for a schema gives the schema
back, and so does reading the text of an answer that holds it. -/
theorem reads_back (style : Style) (schema : Schema) :
    ofJson (style.encode schema) = .ok schema ∧
    ∀ text, Json.read text =
        .ok (.object [("data", .object [("__schema", style.encode schema)])]) →
      parse text = .ok schema := by
  refine ⟨ofJson_encode style schema, fun text htext => ?_⟩
  have hsection : sectionOf (.object [("data", .object [("__schema", style.encode schema)])]) =
      .ok (style.encode schema) := rfl
  simp only [parse, htext, Except.mapError, bind, Except.bind, hsection, ofJson_encode]

/-- A style in which absent attributes are left out, and members stand the other way round. -/
def reversed : Style where
  writesNull _ := false
  arrange _ members := members.reverse
  arrange_perm _ members := members.reverse_perm

/-- An answer with a type that has an empty name and a reference of two levels, without gaps. -/
def terseAnswer : Json.Document :=
  let none := Json.Gap.none
  let text (content : String) := Json.Spelling.text (Json.strokesOf content)
  let object (members : List (String × Json.Spelling)) := Json.Spelling.object none <|
    members.foldr (fun (name, value) rest =>
      .member none (Json.strokesOf name) none none value none rest) .close
  let single (value : Json.Spelling) := Json.Spelling.array none (.item none value none .close)
  let reference := object [("ofType", object [("name", text "T")]), ("kind", text "LIST")]
  let type := object [("interfaces", single reference), ("name", text "")]
  ⟨none, object [("data", object [("__schema", object [("types", single type)])])], none⟩

/-- A type with an empty name and a reference of two levels. -/
theorem reads_back_reversed :
    parse ("\x7b\"data\":\x7b\"__schema\":\x7b\"types\":[\x7b\"interfaces\":[\x7b\"ofType\":" ++
        "\x7b\"name\":\"T\"\x7d,\"kind\":\"LIST\"\x7d],\"name\":\"\"\x7d]\x7d\x7d\x7d") =
      .ok ⟨none, none, none, some [⟨some "", none, none, none, none,
        some [.wrapped ⟨none, some "LIST"⟩ (.leaf ⟨some "T", none⟩)], none, none⟩], none⟩ := by
  refine (reads_back reversed _).2 _ (Json.read_eq_ok_iff.mpr ⟨terseAnswer, by decide +kernel, ?_⟩)
  -- the names and texts have no escapes
  simp (disch := decide) only [terseAnswer, List.foldr, Json.Spelling.value, Json.Members.values,
    Json.Items.values, Json.meantText_strokesOf]
  rfl

end Style

end SchemaPages.Schema
