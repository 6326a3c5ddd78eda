import SchemaPages.Schema.Basic

/-!
# The order of names

Members and types are listed by name: those without a name first, then by the code points of the
names. `sortedBy` is a stable sort, so entries that the order does not separate keep their order.
-/

namespace SchemaPages.Pages

/-- Whether a name may stand before another: the missing name before every other, and names by
their code points. -/
def nameLe : Option String → Option String → Bool
  | none, _ => true
  | some _, none => false
  | some a, some b => a ≤ b

/-- Puts an entry in front of the first one that it does not have to follow. -/
def insertBy {α : Type} (le : α → α → Bool) (entry : α) : List α → List α
  | [] => [entry]
  | other :: rest => if le entry other then entry :: other :: rest
    else other :: insertBy le entry rest

/-- Sorts a list without exchanging entries that may stand in either order. -/
def sortedBy {α : Type} (le : α → α → Bool) : List α → List α
  | [] => []
  | entry :: rest => insertBy le entry (sortedBy le rest)

/-- Sorts entries by their names. -/
def sortedByName {α : Type} (name : α → Option String) (entries : List α) : List α :=
  sortedBy (fun a b => nameLe (name a) (name b)) entries

/-- Sorts texts by their code points. -/
def sortedTexts (texts : List String) : List String :=
  sortedBy (fun a b => a ≤ b) texts

theorem mem_insertBy {α : Type} {le : α → α → Bool} {entry x : α} {entries : List α} :
    x ∈ insertBy le entry entries ↔ x = entry ∨ x ∈ entries := by
  induction entries with
  | nil => simp [insertBy]
  | cons other rest ih =>
    rw [insertBy]
    split
    · simp
    · rw [List.mem_cons, ih, List.mem_cons, or_left_comm]

/-- Sorting keeps the entries. -/
theorem mem_sortedBy {α : Type} {le : α → α → Bool} {x : α} {entries : List α} :
    x ∈ sortedBy le entries ↔ x ∈ entries := by
  induction entries with
  | nil => simp [sortedBy]
  | cons entry rest ih => rw [sortedBy, mem_insertBy, ih, List.mem_cons]

theorem insertBy_perm {α : Type} (le : α → α → Bool) (entry : α) (entries : List α) :
    (insertBy le entry entries).Perm (entry :: entries) := by
  induction entries with
  | nil => exact .refl _
  | cons other rest ih =>
    rw [insertBy]
    split
    · exact .refl _
    · exact (ih.cons other).trans (.swap entry other rest)

/-- Sorting loses nothing and adds nothing. -/
theorem sortedBy_perm {α : Type} (le : α → α → Bool) (entries : List α) :
    (sortedBy le entries).Perm entries := by
  induction entries with
  | nil => exact .refl _
  | cons entry rest ih =>
    rw [sortedBy]
    exact (insertBy_perm le entry _).trans (ih.cons entry)

end SchemaPages.Pages
