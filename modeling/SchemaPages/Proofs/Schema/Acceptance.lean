import Mathlib.Control.Basic
import SchemaPages.Proofs.Schema.Visits
import SchemaPages.Schema.Response

/-!
# What is accepted, and what is reported

A schema section is accepted exactly when it has its layout throughout, and otherwise the first
violation of the layout is reported (`ofJson_accepts_or_reports_first`).

A reader *reports as* a layout does (`ReportsAs`) if it fails with the first visit that does not
fit, and succeeds if there is none. This is shown once for optional members and once for lists, so
that only the order of the members is left for each entry.
-/

namespace SchemaPages.Schema

variable {α β : Type}

/-! ### What a layout reports -/

/-- The misfit at the first visit that does not fit, for a value at a place. -/
def Layout.reported (layout : Layout) (place : Place) (value : Json) : Option Misfit :=
  ((layout.visits value).find? fun visit => !visit.fits).map fun visit =>
    ⟨place ++ visit.place, visit.layout.shape⟩

/-- A value of the wrong shape is reported, and any other one has the report of its first part that
has one. -/
theorem Layout.reported_eq (layout : Layout) (place : Place) (value : Json) :
    layout.reported place value =
      if layout.shape.fits value then
        (layout.parts value).findSome? fun part =>
          part.layout.reported (place ++ [part.step]) part.value
      else some ⟨place, layout.shape⟩ := by
  rw [reported, visits_eq]
  cases hfits : layout.shape.fits value with
  | false => simp [Visit.fits, hfits]
  | true =>
    rw [List.find?_cons_of_neg (by simp [Visit.fits, hfits]), List.find?_flatMap,
      List.map_findSome?, if_pos rfl]
    congr 1
    funext part
    simp [reported, List.find?_map, Function.comp_def, Visit.fits, Visit.under]

/-- What a member of an object reports; nothing if it is absent. -/
def reportedMember (place : Place) (members : List (String × Json))
    (member : Spellings × Layout) : Option Misfit :=
  (present? members member.1.all).bind (member.2.reported (place.member member.1.canonical))

theorem Layout.reported_entry (kind : Entry) (place : Place) (members : List (String × Json)) :
    (entry kind).reported place (.object members) =
      kind.members.findSome? (reportedMember place members) := by
  rw [reported_eq, shape, Shape.fits, if_pos rfl, parts]
  induction kind.members with
  | nil => rfl
  | cons member rest ih =>
    obtain ⟨names, layout⟩ := member
    cases h : present? members names.all with
    | none => simpa [reportedMember, h] using ih
    | some value =>
      simp only [List.filterMap_cons, h, Option.map_some, List.findSome?_cons, ih, reportedMember,
        Option.bind_some, Place.member]

theorem Layout.reported_list (item : Layout) (place : Place) (items : List Json) :
    (list item).reported place (.array items) =
      items.zipIdx.findSome? fun (value, index) => item.reported (place.item index) value := by
  rw [reported_eq, shape, Shape.fits, if_pos rfl, parts, List.findSome?_map]
  rfl

/-! ### What a reader reports -/

/-- The misfit that a reading fails with. -/
def misfit? : Reading α → Option Misfit
  | .ok _ => none
  | .error misfit => some misfit

theorem misfit?_map (f : α → β) (reading : Reading α) :
    misfit? (f <$> reading) = misfit? reading := by
  cases reading <;> rfl

/-- Whether a reader fails where a layout reports something, with just that. -/
def ReportsAs (read : Place → Json → Reading α) (layout : Layout) : Prop :=
  ∀ place value, misfit? (read place value) = layout.reported place value

theorem reportsAs_readString : ReportsAs readString .text := by
  intro place value
  rw [Layout.reported_eq]
  cases value <;> rfl

theorem reportsAs_readBool : ReportsAs readBool .truth := by
  intro place value
  rw [Layout.reported_eq]
  cases value <;> rfl

/-- Items are read one after the other, up to the first one that does not fit. -/
theorem misfit?_readItems {read : Place → Json → Reading α} {item : Layout}
    (h : ReportsAs read item) (place : Place) (index : Nat) (items : List Json) :
    misfit? (readItems read place index items) =
      (items.zipIdx index).findSome? fun (value, index) =>
        item.reported (place.item index) value := by
  induction items generalizing index with
  | nil => rfl
  | cons value rest ih =>
    simp only [readItems, List.zipIdx_cons, List.findSome?_cons]
    -- Both sides are now about reading, and a failure of the first item hides the others.
    rw [← h, ← ih]
    cases read (place.item index) value with
    | error misfit => rfl
    | ok first => cases readItems read place (index + 1) rest <;> rfl

theorem reportsAs_readList {read : Place → Json → Reading α} {item : Layout}
    (h : ReportsAs read item) : ReportsAs (readList read) (.list item) := by
  intro place value
  cases value with
  | array items => rw [Layout.reported_list, readList, misfit?_readItems h]
  | _ => rw [Layout.reported_eq]; rfl

/-- A member is read like its value, if it is present. -/
theorem misfit?_optional {read : Place → Json → Reading α} {layout : Layout}
    {place : Place} {members : List (String × Json)} {names : Spellings}
    (h : ∀ value, present? members names.all = some value →
      ∀ place, misfit? (read place value) = layout.reported place value) :
    misfit? (optional read place members names) = reportedMember place members (names, layout) := by
  rw [optional, reportedMember]
  split
  next habsent => rw [habsent]; rfl
  next value hvalue => rw [misfit?_map, h value hvalue, hvalue, Option.bind_some]

/-- The members of an entry are read one after the other, up to the first one that does not fit. -/
theorem misfit?_bind_member {reading : Reading α} {next : α → Reading β}
    {report : Spellings × Layout → Option Misfit} {member : Spellings × Layout}
    {rest : List (Spellings × Layout)} (hfirst : misfit? reading = report member)
    (hrest : ∀ a, misfit? (next a) = rest.findSome? report) :
    misfit? (reading >>= next) = (member :: rest).findSome? report := by
  rw [List.findSome?_cons, ← hfirst]
  cases reading with
  | error misfit => rfl
  | ok a => exact hrest a

/-- An entry is read as an object, and then its members. -/
theorem misfit?_entry {kind : Entry} {body : List (String × Json) → Reading α} {place : Place}
    {value : Json} (h : ∀ members, value = .object members →
      misfit? (body members) = kind.members.findSome? (reportedMember place members)) :
    misfit? (readObject place value >>= body) = (Layout.entry kind).reported place value := by
  cases value with
  | object members => exact (h members rfl).trans (Layout.reported_entry kind place members).symm
  | _ => rw [Layout.reported_eq]; rfl

/-! ### The readers of the entries -/

section Members

variable {place : Place} {members : List (String × Json)} {names : Spellings}

theorem misfit?_optionalString :
    misfit? (optionalString place members names) = reportedMember place members (names, .text) :=
  misfit?_optional fun value _ place => reportsAs_readString place value

theorem misfit?_flag :
    misfit? (flag place members names) = reportedMember place members (names, .truth) := by
  rw [flag, misfit?_map]
  exact misfit?_optional fun value _ place => reportsAs_readBool place value

theorem misfit?_optionalEntry {read : Place → Json → Reading α} {layout : Layout}
    (h : ReportsAs read layout) :
    misfit? (optional read place members names) = reportedMember place members (names, layout) :=
  misfit?_optional fun value _ place => h place value

theorem misfit?_optionalList {read : Place → Json → Reading α} {item : Layout}
    (h : ReportsAs read item) :
    misfit? (optional (readList read) place members names) =
      reportedMember place members (names, .list item) :=
  misfit?_optionalEntry (reportsAs_readList h)

end Members

theorem reportsAs_readTypeRef : ReportsAs readTypeRef (.entry .ref) := by
  intro place value
  induction hsize : sizeOf value using Nat.strongRecOn generalizing place value with
  | ind n ih =>
    rw [readTypeRef_eq]
    -- The wrapped reference is read by the same reader, so the last member needs the hypothesis.
    refine misfit?_entry fun members hvalue => misfit?_bind_member misfit?_optionalString fun _ =>
      misfit?_bind_member misfit?_optionalString fun _ => misfit?_bind_member ?_ fun _ => rfl
    refine misfit?_optional fun inner hinner place => ih _ ?_ place inner rfl
    rw [← hsize, hvalue]
    exact sizeOf_present? hinner

theorem reportsAs_readInput : ReportsAs readInput (.entry .input) := fun _ _ =>
  misfit?_entry fun _ _ =>
    misfit?_bind_member misfit?_optionalString fun _ =>
    misfit?_bind_member misfit?_optionalString fun _ =>
    misfit?_bind_member (misfit?_optionalEntry reportsAs_readTypeRef) fun _ =>
    misfit?_bind_member misfit?_optionalString fun _ => rfl

theorem reportsAs_readField : ReportsAs readField (.entry .field) := fun _ _ =>
  misfit?_entry fun _ _ =>
    misfit?_bind_member misfit?_optionalString fun _ =>
    misfit?_bind_member misfit?_optionalString fun _ =>
    misfit?_bind_member (misfit?_optionalList reportsAs_readInput) fun _ =>
    misfit?_bind_member (misfit?_optionalEntry reportsAs_readTypeRef) fun _ =>
    misfit?_bind_member misfit?_flag fun _ =>
    misfit?_bind_member misfit?_optionalString fun _ => rfl

theorem reportsAs_readEnumValue : ReportsAs readEnumValue (.entry .enumValue) := fun _ _ =>
  misfit?_entry fun _ _ =>
    misfit?_bind_member misfit?_optionalString fun _ =>
    misfit?_bind_member misfit?_optionalString fun _ =>
    misfit?_bind_member misfit?_flag fun _ =>
    misfit?_bind_member misfit?_optionalString fun _ => rfl

theorem reportsAs_readType : ReportsAs readType (.entry .type) := fun _ _ =>
  misfit?_entry fun _ _ =>
    misfit?_bind_member misfit?_optionalString fun _ =>
    misfit?_bind_member misfit?_optionalString fun _ =>
    misfit?_bind_member misfit?_optionalString fun _ =>
    misfit?_bind_member (misfit?_optionalList reportsAs_readField) fun _ =>
    misfit?_bind_member (misfit?_optionalList reportsAs_readInput) fun _ =>
    misfit?_bind_member (misfit?_optionalList reportsAs_readTypeRef) fun _ =>
    misfit?_bind_member (misfit?_optionalList reportsAs_readEnumValue) fun _ =>
    misfit?_bind_member (misfit?_optionalList reportsAs_readTypeRef) fun _ => rfl

theorem reportsAs_readDirective : ReportsAs readDirective (.entry .directive) := fun _ _ =>
  misfit?_entry fun _ _ =>
    misfit?_bind_member (misfit?_optionalList reportsAs_readString) fun _ =>
    misfit?_bind_member misfit?_optionalString fun _ =>
    misfit?_bind_member misfit?_optionalString fun _ =>
    misfit?_bind_member (misfit?_optionalList reportsAs_readInput) fun _ => rfl

/-- A schema section is read as its layout says. -/
theorem misfit?_ofJson (value : Json) :
    misfit? (ofJson value) = (Layout.entry .schema).reported [] value :=
  misfit?_entry fun _ _ =>
    misfit?_bind_member (misfit?_optionalEntry reportsAs_readType) fun _ =>
    misfit?_bind_member (misfit?_optionalEntry reportsAs_readType) fun _ =>
    misfit?_bind_member (misfit?_optionalEntry reportsAs_readType) fun _ =>
    misfit?_bind_member (misfit?_optionalList reportsAs_readType) fun _ =>
    misfit?_bind_member (misfit?_optionalList reportsAs_readDirective) fun _ => rfl

/-! ### Schema sections -/

theorem isOk_iff_misfit? {reading : Reading α} :
    (∃ a, reading = .ok a) ↔ misfit? reading = none := by
  cases reading <;> simp [misfit?]

theorem eq_error_iff_misfit? {reading : Reading α} {misfit : Misfit} :
    reading = .error misfit ↔ misfit? reading = some misfit := by
  cases reading <;> simp [misfit?]

/-- **Acceptance.** A schema section is accepted exactly when it has its layout throughout. What
is reported otherwise is the first violation: a place that leads, by first spellings, to a value of
another shape than the one that the message names. -/
theorem ofJson_accepts_or_reports_first (value : Json) :
    ((∃ schema, ofJson value = .ok schema) ↔ (Layout.entry .schema).Admits value) ∧
    (∀ misfit, ofJson value = .error misfit ↔
      (Layout.entry .schema).IsFirstViolation value misfit) ∧
    ∀ error, (ofJson value).mapError Error.misfit = .error error →
      error.kind = "deserialization" ∧
      ∃ misfit, (Layout.entry .schema).IsFirstViolation value misfit ∧
        error.message =
          "invalid type at " ++ misfit.place.text ++ ": expected " ++ misfit.expected.text := by
  have hreported : ∀ misfit, ofJson value = .error misfit ↔
      (Layout.entry .schema).IsFirstViolation value misfit := fun misfit => by
    rw [eq_error_iff_misfit?, misfit?_ofJson, ← Layout.find?_visits_eq_some_iff]
    rfl
  refine ⟨?_, hreported, fun error herror => ?_⟩
  · rw [isOk_iff_misfit?, misfit?_ofJson, Layout.admits_iff, Layout.reported,
      Option.map_eq_none_iff, List.find?_eq_none]
    simp
  · cases hread : ofJson value with
    | ok schema => simp [hread, Except.mapError] at herror
    | error misfit =>
      obtain rfl : Error.misfit misfit = error := by simpa [hread, Except.mapError] using herror
      exact ⟨rfl, misfit, (hreported misfit).mp hread, rfl⟩

end SchemaPages.Schema
