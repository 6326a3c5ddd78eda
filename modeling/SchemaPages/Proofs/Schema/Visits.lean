import SchemaPages.Proofs.Schema.Layout

/-!
# Violations of a layout, and the first of them

A value has its layout (`Layout.Admits`) when it has the shape and so have its parts; this knows no
order. A violation is a place that leads to a value of another shape than the one expected there,
and the first one comes before all others in the order in which the members are looked at
(`Layout.Before`, `Layout.IsFirstViolation`).

`Layout.visits` lists the values that are looked at, each before its parts. It holds exactly the
values that a place leads to (`Layout.mem_visits_iff`), in the order of their places
(`Layout.pairwise_visits`), so the first visit that does not fit is the first violation
(`Layout.find?_visits_eq_some_iff`).
-/

namespace SchemaPages.Schema

namespace Layout

/-! ### The order of places -/

/-- The position of a step among those that can be taken from a value. -/
def rank : Layout → Step → Nat
  | .entry kind, .member name => kind.members.findIdx fun member => member.1.canonical = name
  | _, .member _ => 0
  | _, .item index => index

/-- Whether a place is looked at before another: a value before its parts, an item before those
after it, and the members of an entry in their order, each with all that it contains. -/
def Before : Layout → Place → Place → Prop
  | _, _, [] => False
  | _, [], _ :: _ => True
  | layout, step :: rest, other :: others =>
    if step = other then
      match layout.child? step with
      | none => False
      | some inner => inner.Before rest others
    else layout.rank step < layout.rank other

theorem Before.asymm {layout : Layout} {p q : Place} (h : layout.Before p q) :
    ¬ layout.Before q p := by
  induction p generalizing layout q with
  | nil => simp [Before]
  | cons step rest ih =>
    cases q with
    | nil => simp [Before] at h
    | cons other others =>
      rw [Before] at h ⊢
      by_cases hstep : step = other
      · subst hstep
        rw [if_pos rfl] at h ⊢
        cases hchild : layout.child? step with
        | none => simp
        | some inner =>
          rw [hchild] at h
          exact ih h
      · rw [if_neg hstep] at h
        rw [if_neg (Ne.symm hstep)]
        omega

/-! ### Acceptance and violations -/

/-- Whether a value has its layout: it has the shape, and so have its parts. -/
inductive Admits : Layout → Json → Prop
  | intro {layout : Layout} {value : Json} (fits : layout.shape.fits value)
      (parts : ∀ part ∈ layout.parts value, part.layout.Admits part.value) :
      layout.Admits value

/-- Whether a place leads to a value that does not have the shape it should have. -/
def Violation (layout : Layout) (value : Json) (misfit : Misfit) : Prop :=
  ∃ inner found, layout.follow value misfit.place = some (inner, found) ∧
    misfit.expected = inner.shape ∧ misfit.expected.fits found = false

/-- Whether a violation comes before all others. -/
def IsFirstViolation (layout : Layout) (value : Json) (misfit : Misfit) : Prop :=
  layout.Violation value misfit ∧
    ∀ other, layout.Violation value other → other = misfit ∨ layout.Before misfit.place other.place

end Layout

/-! ### Visits -/

/-- A value that is looked at, with its place and what is expected there. -/
structure Visit where
  place : Place
  layout : Layout
  value : Json

namespace Visit

/-- The same visit, seen from one step further out. -/
def under (step : Step) (visit : Visit) : Visit :=
  { visit with place := step :: visit.place }

/-- Whether the value has the shape it should have. -/
def fits (visit : Visit) : Bool :=
  visit.layout.shape.fits visit.value

/-- What is reported if it has not. -/
def misfit (visit : Visit) : Misfit :=
  ⟨visit.place, visit.layout.shape⟩

end Visit

namespace Layout

/-- The values that are looked at, in order. -/
def visits (layout : Layout) (value : Json) : List Visit :=
  ⟨[], layout, value⟩ :: (layout.parts value).attach.flatMap fun ⟨part, _⟩ =>
    (part.layout.visits part.value).map (Visit.under part.step)
termination_by sizeOf value
decreasing_by exact sizeOf_part ‹_›

theorem visits_eq (layout : Layout) (value : Json) :
    layout.visits value = ⟨[], layout, value⟩ :: (layout.parts value).flatMap fun part =>
      (part.layout.visits part.value).map (Visit.under part.step) := by
  rw [visits]
  simp

/-- Exactly the values that a place leads to are looked at. -/
theorem mem_visits_iff {layout : Layout} {value : Json} {visit : Visit} :
    visit ∈ layout.visits value ↔
      layout.follow value visit.place = some (visit.layout, visit.value) := by
  obtain ⟨place, inner, found⟩ := visit
  induction place generalizing layout value with
  | nil =>
    rw [visits_eq]
    simp [follow, Visit.under, eq_comm]
  | cons step rest ih =>
    rw [visits_eq, List.mem_cons, List.mem_flatMap, follow, Option.bind_eq_some_iff]
    constructor
    · rintro (h | ⟨part, hpart, hvisit⟩)
      · simp at h
      · obtain ⟨⟨place, layout', value'⟩, hmem, heq⟩ := List.mem_map.mp hvisit
        simp only [Visit.under, Visit.mk.injEq, List.cons.injEq] at heq
        obtain ⟨⟨rfl, rfl⟩, rfl, rfl⟩ := heq
        exact ⟨(part.layout, part.value), mem_parts_iff.mp hpart, ih.mp hmem⟩
    · rintro ⟨⟨layout', value'⟩, hstep, hrest⟩
      refine Or.inr ⟨⟨step, layout', value'⟩, mem_parts_iff.mpr hstep, ?_⟩
      exact List.mem_map.mpr ⟨⟨rest, inner, found⟩, ih.mpr hrest, rfl⟩

/-- A violation is a visit of a value that does not fit. -/
theorem violation_iff {layout : Layout} {value : Json} {misfit : Misfit} :
    layout.Violation value misfit ↔
      ∃ visit ∈ layout.visits value, visit.fits = false ∧ visit.misfit = misfit := by
  constructor
  · rintro ⟨inner, found, hfollow, hexpected, hfits⟩
    refine ⟨⟨misfit.place, inner, found⟩, mem_visits_iff.mpr hfollow, ?_, ?_⟩
    · rwa [hexpected] at hfits
    · rw [Visit.misfit, ← hexpected]
  · rintro ⟨visit, hmem, hfits, rfl⟩
    exact ⟨visit.layout, visit.value, mem_visits_iff.mp hmem, rfl, hfits⟩

/-- A value has its layout exactly when every visit fits. -/
theorem admits_iff {layout : Layout} {value : Json} :
    layout.Admits value ↔ ∀ visit ∈ layout.visits value, visit.fits := by
  constructor
  · intro h
    induction h with
    | @intro layout value fits parts ih =>
      rw [visits_eq]
      intro visit hvisit
      rcases List.mem_cons.mp hvisit with rfl | hvisit
      · exact fits
      · obtain ⟨part, hpart, hmem⟩ := List.mem_flatMap.mp hvisit
        obtain ⟨inner, hinner, rfl⟩ := List.mem_map.mp hmem
        exact ih part hpart inner hinner
  · intro h
    induction hsize : sizeOf value using Nat.strongRecOn generalizing layout value with
    | ind n ih =>
      rw [visits_eq] at h
      refine .intro (h _ List.mem_cons_self) fun part hpart => ?_
      refine ih _ (hsize ▸ sizeOf_part hpart) (fun visit hvisit => ?_) rfl
      exact h (visit.under part.step) (List.mem_cons_of_mem _
        (List.mem_flatMap.mpr ⟨part, hpart, List.mem_map_of_mem hvisit⟩))

/-! ### The order of visits -/

theorem child?_of_step? {layout inner : Layout} {value found : Json} {step : Step}
    (h : layout.step? value step = some (inner, found)) : layout.child? step = some inner := by
  cases layout <;> cases value <;> cases step <;> simp only [step?, reduceCtorEq] at h
  case list.array.item item items index =>
    obtain ⟨_, -, heq⟩ := Option.map_eq_some_iff.mp h
    rw [child?, (Prod.mk.inj heq).1]
  case entry.object.member kind members name =>
    simp only [Option.bind_eq_bind, Option.bind_eq_some_iff] at h
    obtain ⟨member, hmember, _, -, heq⟩ := h
    rw [child?, hmember, Option.map_some, (Prod.mk.inj (Option.some.inj heq)).1]

/-- The parts of a value are listed in their order. -/
theorem pairwise_parts (layout : Layout) (value : Json) :
    (layout.parts value).Pairwise fun a b => layout.rank a.step < layout.rank b.step := by
  cases layout <;> cases value <;> simp only [parts, List.Pairwise.nil]
  case list.array item items =>
    have hindices : (items.zipIdx.map Prod.snd).Pairwise (· < ·) := by
      rw [List.zipIdx_map_snd]
      exact List.pairwise_lt_range'
    rw [List.pairwise_map] at hindices ⊢
    exact hindices
  case entry.object kind members =>
    rw [List.pairwise_filterMap]
    have hranks : kind.members.Pairwise fun a b =>
        (entry kind).rank (.member a.1.canonical) < (entry kind).rank (.member b.1.canonical) := by
      cases kind <;> decide
    refine hranks.imp fun {a b} hlt p hp q hq => ?_
    obtain ⟨_, -, rfl⟩ := Option.map_eq_some_iff.mp hp
    obtain ⟨_, -, rfl⟩ := Option.map_eq_some_iff.mp hq
    exact hlt

/-- Values are looked at in the order of their places. -/
theorem pairwise_visits (layout : Layout) (value : Json) :
    (layout.visits value).Pairwise fun a b => layout.Before a.place b.place := by
  induction hsize : sizeOf value using Nat.strongRecOn generalizing layout value with
  | ind n ih =>
    rw [visits_eq, List.pairwise_cons]
    refine ⟨fun visit hvisit => ?_, List.pairwise_flatMap.mpr ⟨fun part hpart => ?_, ?_⟩⟩
    -- A value before its parts, the visits within one part, and two different parts.
    · obtain ⟨part, -, hmem⟩ := List.mem_flatMap.mp hvisit
      obtain ⟨inner, -, rfl⟩ := List.mem_map.mp hmem
      trivial
    · have hchild : layout.child? part.step = some part.layout :=
        child?_of_step? (mem_parts_iff.mp hpart)
      rw [List.pairwise_map]
      refine (ih _ (hsize ▸ sizeOf_part hpart) part.layout part.value rfl).imp fun {a b} hab => ?_
      simpa [Before, Visit.under, hchild] using hab
    · refine (pairwise_parts layout value).imp fun {a b} hrank x hx y hy => ?_
      obtain ⟨x, -, rfl⟩ := List.mem_map.mp hx
      obtain ⟨y, -, rfl⟩ := List.mem_map.mp hy
      have hne : a.step ≠ b.step := fun heq => absurd hrank (heq ▸ Nat.lt_irrefl _)
      simpa [Before, Visit.under, hne] using hrank

/-- The first visit that does not fit is the first violation. -/
theorem find?_visits_eq_some_iff {layout : Layout} {value : Json} {misfit : Misfit} :
    ((layout.visits value).find? fun visit => !visit.fits).map Visit.misfit = some misfit ↔
      layout.IsFirstViolation value misfit := by
  have hfirst : ∀ visit, ((layout.visits value).find? fun visit => !visit.fits) = some visit →
      layout.IsFirstViolation value visit.misfit := by
    intro visit hfind
    have hmem := List.mem_of_find?_eq_some hfind
    obtain ⟨hfits, before, after, hsplit, hbefore⟩ := List.find?_eq_some_iff_append.mp hfind
    have horder := pairwise_visits layout value
    rw [hsplit, List.pairwise_append, List.pairwise_cons] at horder
    refine ⟨violation_iff.mpr ⟨visit, hmem, by simpa using hfits, rfl⟩, fun other hother => ?_⟩
    obtain ⟨found, hfound, hmisfit, rfl⟩ := violation_iff.mp hother
    rw [hsplit, List.mem_append, List.mem_cons] at hfound
    rcases hfound with h | rfl | h
    · exact absurd (hbefore found h) (by simp [hmisfit])
    · exact Or.inl rfl
    · exact Or.inr (horder.2.1.1 found h)
  constructor
  · intro h
    obtain ⟨visit, hfind, rfl⟩ := Option.map_eq_some_iff.mp h
    exact hfirst visit hfind
  · rintro ⟨hviolation, hleast⟩
    obtain ⟨visit, hmem, hfits, rfl⟩ := violation_iff.mp hviolation
    cases hfind : (layout.visits value).find? fun visit => !visit.fits with
    | none => exact absurd hfits (by simpa using List.find?_eq_none.mp hfind visit hmem)
    | some found =>
      obtain ⟨hfound, hbefore⟩ := hfirst found hfind
      rw [Option.map_some]
      -- Both are first, so neither comes before the other.
      rcases hleast _ hfound with heq | hlt
      · rw [heq]
      · rcases hbefore _ hviolation with heq | hgt
        · rw [heq]
        · exact absurd hgt hlt.asymm

end Layout

end SchemaPages.Schema
