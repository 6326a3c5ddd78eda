import Mathlib.Data.List.Forall2
import SchemaPages.Proofs.Schema.Normal

/-!
# The levels of a reference, and the first that is malformed

A reference is nested as deep as its server likes: a value wraps another one, this one a third, and
so on up to a value that wraps nothing (`unwrapped`). The reader passes these values in a loop and
puts the reference together afterwards. What comes out has exactly their names and kinds, in their
order, at every depth; and if a value describes no level, what is reported is the first such value,
with its name looked at before its kind and both before the next value
(`readTypeRef_reads_unwrapped`).

`readTypeRef_eq` has brought the loop into the form of a recursion on what is wrapped. So one
equation for a level and the rest (`readTypeRef_step`) is enough, and both directions follow the
values from the outermost one on.
-/

namespace SchemaPages

namespace Json

/-- The value of a member that is neither missing nor null. -/
def given? (name : String) : Json → Option Json
  | .object members => (member? name members).filter fun value => !value.isNull
  | _ => none

end Json

namespace Schema

variable {place : Place} {value inner found : Json} {level : Level} {misfit : Misfit}

/-! ### What a value wraps -/

/-- What a value wraps; the second spelling counts where the first one is missing or null. -/
def wrapped? (value : Json) : Option Json :=
  (value.given? "ofType").or (value.given? "of_type")

theorem present?_singleton (members : List (String × Json)) (name : String) :
    present? members [name] = (Json.object members).given? name := by
  rw [present?, Json.given?]
  cases Json.member? name members with
  | none => rfl
  | some value =>
    cases hnull : value.isNull <;> simp [hnull, present?, Option.filter]

theorem present?_ofType (members : List (String × Json)) :
    present? members Key.ofType.all = wrapped? (.object members) := by
  have hsecond := present?_singleton members "of_type"
  rw [Spellings.all, Key.ofType, wrapped?, ← hsecond, Json.given?, present?]
  cases Json.member? "ofType" members with
  | none => rfl
  | some value =>
    cases hnull : value.isNull <;> simp [hnull, Option.filter]

theorem sizeOf_wrapped? (h : wrapped? value = some inner) : sizeOf inner < sizeOf value := by
  cases value with
  | object members => exact sizeOf_present? ((present?_ofType members).trans h)
  | _ => cases h

/-- A value, what it wraps, what that wraps, and so on: the outermost value first, and last the one
that wraps nothing. -/
def unwrapped (value : Json) : List Json :=
  value :: match _h : wrapped? value with
    | none => []
    | some inner => unwrapped inner
termination_by sizeOf value
decreasing_by exact sizeOf_wrapped? _h

theorem unwrapped_of_none (h : wrapped? value = none) : unwrapped value = [value] := by
  rw [unwrapped]
  split
  · rfl
  · next hinner => cases h.symm.trans hinner

theorem unwrapped_of_some (h : wrapped? value = some inner) :
    unwrapped value = value :: unwrapped inner := by
  rw [unwrapped]
  split
  · next hnone => cases h.symm.trans hnone
  · next hinner =>
    cases h.symm.trans hinner
    rfl

/-! ### Levels and flaws -/

/-- Whether an optional text is what a member holds. -/
inductive IsText : Option Json → Option String → Prop
  | absent : IsText none none
  | text (text : String) : IsText (some (.string text)) (some text)

/-- Whether a value describes a level: it is an object, and its name and its kind are texts if they
are given. -/
structure Describes (value : Json) (level : Level) : Prop where
  object : ∃ members, value = .object members
  name : IsText (value.given? "name") level.name
  kind : IsText (value.given? "kind") level.kind

/-- What is wrong first with a value that describes no level: where in the value, and what should
have been there. -/
inductive Flaw (value : Json) : Place → Shape → Prop
  | object (h : ∀ members, value ≠ .object members) : Flaw value [] .object
  | name {found : Json} (hname : value.given? "name" = some found)
      (h : ∀ text, found ≠ .string text) : Flaw value [.member "name"] .string
  | kind {name : Option String} {found : Json} (hname : IsText (value.given? "name") name)
      (hkind : value.given? "kind" = some found) (h : ∀ text, found ≠ .string text) :
      Flaw value [.member "kind"] .string

theorem optionalString_eq_ok_iff {members : List (String × Json)} {name : String}
    {text : Option String} :
    optionalString place members ⟨name, []⟩ = .ok text ↔
      IsText ((Json.object members).given? name) text := by
  rw [optionalString, optional, Spellings.all, present?_singleton]
  generalize (Json.object members).given? name = member
  constructor
  · intro h
    cases member with
    | none =>
      cases h
      exact .absent
    | some value =>
      cases value with
      | string value =>
        cases h
        exact .text value
      | _ => cases h
  · rintro (_ | text) <;> rfl

theorem optionalString_eq_error_iff {members : List (String × Json)} {name : String} :
    optionalString place members ⟨name, []⟩ = .error misfit ↔
      misfit = ⟨place.member name, .string⟩ ∧ ∃ found,
        (Json.object members).given? name = some found ∧ ∀ text, found ≠ .string text := by
  rw [optionalString, optional, Spellings.all, present?_singleton]
  generalize (Json.object members).given? name = member
  constructor
  · intro h
    cases member with
    | none => cases h
    | some value => cases value <;> cases h <;> exact ⟨rfl, _, rfl, fun _ => Json.noConfusion⟩
  · rintro ⟨rfl, found, rfl, h⟩
    cases found with
    | string text => exact absurd rfl (h text)
    | _ => rfl

/-- Reads the level that a value describes. -/
def levelAt (place : Place) (value : Json) : Reading Level := do
  let members ← readObject place value
  readLevel place members

theorem levelAt_eq_ok_iff : levelAt place value = .ok level ↔ Describes value level := by
  constructor
  · intro h
    cases value with
    | object members =>
      change readLevel place members = .ok level at h
      rw [readLevel] at h
      rcases hname : optionalString place members Key.name with _ | name <;> rw [hname] at h
      · cases h
      rcases hkind : optionalString place members Key.kind with _ | kind <;> rw [hkind] at h <;>
        cases h
      exact ⟨⟨members, rfl⟩, optionalString_eq_ok_iff.mp hname, optionalString_eq_ok_iff.mp hkind⟩
    | _ => cases h
  · intro h
    obtain ⟨members, rfl⟩ := h.object
    have hname : optionalString place members Key.name = .ok level.name :=
      optionalString_eq_ok_iff.mpr h.name
    have hkind : optionalString place members Key.kind = .ok level.kind :=
      optionalString_eq_ok_iff.mpr h.kind
    change readLevel place members = .ok level
    rw [readLevel, hname, hkind]
    rfl

theorem levelAt_eq_error_iff :
    levelAt place value = .error misfit ↔
      ∃ steps, Flaw value steps misfit.expected ∧ misfit.place = place ++ steps := by
  constructor
  · intro h
    cases value with
    | object members =>
      change readLevel place members = .error misfit at h
      rw [readLevel] at h
      rcases hname : optionalString place members Key.name with flaw | name <;> rw [hname] at h
      · cases h
        obtain ⟨rfl, found, hgiven, htext⟩ := optionalString_eq_error_iff.mp hname
        exact ⟨_, .name hgiven htext, rfl⟩
      rcases hkind : optionalString place members Key.kind with flaw | kind <;> rw [hkind] at h <;>
        cases h
      obtain ⟨rfl, found, hgiven, htext⟩ := optionalString_eq_error_iff.mp hkind
      exact ⟨_, .kind (optionalString_eq_ok_iff.mp hname) hgiven htext, rfl⟩
    | _ =>
      cases h
      exact ⟨[], .object fun _ => Json.noConfusion, (List.append_nil place).symm⟩
  · rintro ⟨steps, hflaw, hplace⟩
    obtain ⟨_, expected⟩ := misfit
    obtain rfl : _ = place ++ steps := hplace
    cases hflaw with
    | object hobject =>
      rw [List.append_nil]
      cases value with
      | object members => exact absurd rfl (hobject members)
      | _ => rfl
    | name hgiven htext =>
      cases value with
      | object members =>
        have hname : optionalString place members Key.name = .error _ :=
          optionalString_eq_error_iff.mpr ⟨rfl, _, hgiven, htext⟩
        change readLevel place members = _
        rw [readLevel, hname]
        rfl
      | _ => cases hgiven
    | kind hname hgiven htext =>
      cases value with
      | object members =>
        have hname : optionalString place members Key.name = .ok _ :=
          optionalString_eq_ok_iff.mpr hname
        have hkind : optionalString place members Key.kind = .error _ :=
          optionalString_eq_error_iff.mpr ⟨rfl, _, hgiven, htext⟩
        change readLevel place members = _
        rw [readLevel, hname, hkind]
        rfl
      | _ => cases hgiven

/-! ### References -/

/-- A reference is its outermost level, around the reference that this level wraps. -/
theorem readTypeRef_step (place : Place) (value : Json) :
    readTypeRef place value = (do
      let level ← levelAt place value
      match wrapped? value with
      | none => return .leaf level
      | some inner => .wrapped level <$> readTypeRef (place.member "ofType") inner) := by
  rw [readTypeRef_eq, levelAt]
  cases value with
  | object members =>
    rw [readObject, ← present?_ofType]
    simp only [bind, Except.bind, readLevel, optional]
    cases optionalString place members Key.name with
    | error misfit => rfl
    | ok name =>
      cases optionalString place members Key.kind with
      | error misfit => rfl
      | ok kind =>
        cases present? members Key.ofType.all with
        | none => rfl
        | some inner =>
          have hplace : place.member Key.ofType.canonical = place.member "ofType" := rfl
          simp only [hplace]
          cases readTypeRef (place.member "ofType") inner <;> rfl
  | _ => rfl

/-- A reference is read exactly if its levels are described by the values that wrap each other, one
by one. -/
theorem readTypeRef_eq_ok_iff {ref : TypeRef} :
    readTypeRef place value = .ok ref ↔ List.Forall₂ Describes (unwrapped value) ref.levels := by
  induction hsize : sizeOf value using Nat.strongRecOn generalizing place value ref with
  | ind n ih =>
    rw [readTypeRef_step]
    rcases hwrapped : wrapped? value with _ | inner
    · rw [unwrapped_of_none hwrapped]
      constructor
      · intro h
        rcases hlevel : levelAt place value with _ | level <;> rw [hlevel] at h <;> cases h
        exact .cons (levelAt_eq_ok_iff.mp hlevel) .nil
      · intro h
        obtain ⟨level, rest, hlevel, hrest, hlevels⟩ := List.forall₂_cons_left_iff.mp h
        cases hrest
        cases ref with
        | leaf =>
          cases hlevels
          rw [levelAt_eq_ok_iff.mpr hlevel]
          rfl
        | wrapped outer others =>
          exact absurd (List.cons.inj hlevels).2 others.levels_ne_nil
    · have hinner : ∀ {ref : TypeRef}, readTypeRef (place.member "ofType") inner = .ok ref ↔
          List.Forall₂ Describes (unwrapped inner) ref.levels :=
        ih _ (hsize ▸ sizeOf_wrapped? hwrapped) rfl
      rw [unwrapped_of_some hwrapped]
      constructor
      · intro h
        rcases hlevel : levelAt place value with _ | level <;> rw [hlevel] at h
        · cases h
        rcases hread : readTypeRef (place.member "ofType") inner with _ | others <;>
          simp only [bind, Except.bind, hread] at h <;> cases h
        exact .cons (levelAt_eq_ok_iff.mp hlevel) (hinner.mp hread)
      · intro h
        obtain ⟨level, rest, hlevel, hrest, hlevels⟩ := List.forall₂_cons_left_iff.mp h
        cases ref with
        | leaf =>
          cases hlevels
          exact absurd (List.forall₂_nil_right_iff.mp hrest) (by rw [unwrapped]; simp)
        | wrapped outer others =>
          cases hlevels
          rw [levelAt_eq_ok_iff.mpr hlevel]
          simp only [bind, Except.bind, hinner.mpr hrest]
          rfl

/-- One step further in, the place of what is wrapped has one more segment. -/
theorem replicate_ofType_succ (place : Place) (depth : Nat) (steps : Place) :
    place.member "ofType" ++ List.replicate depth (.member "ofType") ++ steps =
      place ++ List.replicate (depth + 1) (.member "ofType") ++ steps := by
  rw [Place.member, List.replicate_succ, List.append_assoc place, List.singleton_append]

/-- Reading fails with the flaw of the first value that describes no level. -/
theorem readTypeRef_eq_error_iff :
    readTypeRef place value = .error misfit ↔
      ∃ depth found steps, (unwrapped value)[depth]? = some found ∧
        (∀ outer ∈ (unwrapped value).take depth, ∃ level, Describes outer level) ∧
        Flaw found steps misfit.expected ∧
        misfit.place = place ++ List.replicate depth (.member "ofType") ++ steps := by
  induction hsize : sizeOf value using Nat.strongRecOn generalizing place value with
  | ind n ih =>
    rw [readTypeRef_step]
    constructor
    · intro h
      rcases hlevel : levelAt place value with flaw | level <;> rw [hlevel] at h
      · cases h
        obtain ⟨steps, hflaw, hplace⟩ := levelAt_eq_error_iff.mp hlevel
        refine ⟨0, value, steps, by rw [unwrapped]; rfl, by simp, hflaw, ?_⟩
        rw [hplace, List.replicate_zero, List.append_nil]
      · rcases hwrapped : wrapped? value with _ | inner <;>
          simp only [bind, Except.bind, hwrapped] at h
        · cases h
        rcases hread : readTypeRef (place.member "ofType") inner with flaw | others <;>
          rw [hread] at h <;> cases h
        obtain ⟨depth, found, steps, hfound, houter, hflaw, hplace⟩ :=
          (ih _ (hsize ▸ sizeOf_wrapped? hwrapped) rfl).mp hread
        rw [unwrapped_of_some hwrapped]
        refine ⟨depth + 1, found, steps, hfound, ?_, hflaw, ?_⟩
        · rw [List.take_succ_cons, List.forall_mem_cons]
          exact ⟨⟨level, levelAt_eq_ok_iff.mp hlevel⟩, houter⟩
        · rw [hplace, replicate_ofType_succ]
    · rintro ⟨depth, found, steps, hfound, houter, hflaw, hplace⟩
      cases depth with
      | zero =>
        have hvalue : value = found := by
          rw [unwrapped] at hfound
          exact Option.some.inj hfound
        subst hvalue
        rw [List.replicate_zero, List.append_nil] at hplace
        rw [levelAt_eq_error_iff.mpr ⟨steps, hflaw, hplace⟩]
        rfl
      | succ depth =>
        rcases hwrapped : wrapped? value with _ | inner
        · rw [unwrapped_of_none hwrapped] at hfound
          cases hfound
        rw [unwrapped_of_some hwrapped] at hfound houter
        rw [List.take_succ_cons, List.forall_mem_cons] at houter
        obtain ⟨⟨level, hlevel⟩, houter⟩ := houter
        rw [← replicate_ofType_succ] at hplace
        have hread : readTypeRef (place.member "ofType") inner = .error misfit :=
          (ih _ (hsize ▸ sizeOf_wrapped? hwrapped) rfl).mpr
            ⟨depth, found, steps, hfound, houter, hflaw, hplace⟩
        rw [levelAt_eq_ok_iff.mpr hlevel]
        simp only [bind, Except.bind, hread]
        rfl

/-! ### Messages -/

/-- Behind its first step, a place is written step by step. -/
theorem text_cons_append (first : Step) (rest steps : Place) :
    Place.text (first :: rest ++ steps) =
      Place.text (first :: rest) ++ String.join (steps.map Place.stepText) := by
  cases first <;>
    simp [Place.text, String.join_append, String.append_assoc, List.map_append]

theorem join_replicate_ofType (depth : Nat) :
    String.join ((List.replicate depth (Step.member "ofType")).map Place.stepText) =
      String.join (List.replicate depth ".ofType") := by
  rw [List.map_replicate]
  rfl

/-- **Reading a reference.** A reference at a place is read, at every depth, exactly if each of the
values that wrap each other describes a level, and then it has these levels, the outermost first.
Otherwise the first value that describes no level is reported, with what is wrong first in it: that
it is no object, its name or its kind. It stands at the place followed by one `ofType` for each
level around it, and this is what the message says. -/
theorem readTypeRef_reads_unwrapped (first : Step) (rest : Place) (value : Json) :
    (∀ ref, readTypeRef (first :: rest) value = .ok ref ↔
      List.Forall₂ Describes (unwrapped value) ref.levels) ∧
    ∀ misfit, readTypeRef (first :: rest) value = .error misfit ↔
      ∃ depth found steps, (unwrapped value)[depth]? = some found ∧
        (∀ outer ∈ (unwrapped value).take depth, ∃ level, Describes outer level) ∧
        Flaw found steps misfit.expected ∧
        misfit.place = first :: rest ++ List.replicate depth (.member "ofType") ++ steps ∧
        misfit.message = "invalid type at " ++ Place.text (first :: rest) ++
          String.join (List.replicate depth ".ofType") ++ String.join (steps.map Place.stepText) ++
          ": expected " ++ misfit.expected.text := by
  have hmessage : ∀ (misfit : Misfit) (depth : Nat) (steps : Place),
      misfit.place = first :: rest ++ List.replicate depth (.member "ofType") ++ steps →
      misfit.message = "invalid type at " ++ Place.text (first :: rest) ++
        String.join (List.replicate depth ".ofType") ++ String.join (steps.map Place.stepText) ++
        ": expected " ++ misfit.expected.text := by
    intro misfit depth steps hplace
    have htext : misfit.place.text = Place.text (first :: rest) ++
        (String.join (List.replicate depth ".ofType") ++
          String.join (steps.map Place.stepText)) := by
      rw [hplace, List.append_assoc, text_cons_append, List.map_append, String.join_append,
        join_replicate_ofType]
    have hmessage : misfit.message =
        "invalid type at " ++ misfit.place.text ++ ": expected " ++ misfit.expected.text := rfl
    rw [hmessage, htext]
    simp only [String.append_assoc]
  refine ⟨fun ref => readTypeRef_eq_ok_iff, fun misfit => ?_⟩
  rw [readTypeRef_eq_error_iff]
  refine exists_congr fun depth => exists_congr fun found => exists_congr fun steps => ?_
  refine and_congr_right fun _ => and_congr_right fun _ => and_congr_right fun _ => ?_
  exact ⟨fun hplace => ⟨hplace, hmessage misfit depth steps hplace⟩, And.left⟩

end Schema

end SchemaPages
