/-!
# Ordered maps

An ordered map is a list of pairs with distinct keys. `insert` sets the value of a key: a new key
comes last, a known one keeps its place. `ofList` collects pairs in which keys may come again, so
the last value of a key counts and the first occurrence decides its place.
-/

namespace SchemaPages.Pairs

variable {κ α : Type} [BEq κ]

/-- Sets the value of a key, at its place or at the end. -/
def insert (key : κ) (value : α) : List (κ × α) → List (κ × α)
  | [] => [(key, value)]
  | (other, old) :: rest =>
    if other == key then (other, value) :: rest else (other, old) :: insert key value rest

/-- Sets the values of several keys, one after the other. -/
def insertAll (pairs found : List (κ × α)) : List (κ × α) :=
  pairs.foldl (fun map (key, value) => insert key value map) found

/-- The ordered map of pairs in which keys may come again. -/
def ofList (pairs : List (κ × α)) : List (κ × α) :=
  insertAll pairs []

variable [LawfulBEq κ]

theorem lookup_insert_self (key : κ) (value : α) (map : List (κ × α)) :
    (insert key value map).lookup key = some value := by
  induction map with
  | nil => simp [insert]
  | cons entry rest ih =>
    obtain ⟨other, old⟩ := entry
    by_cases h : other = key
    · simp [insert, h]
    · have hne : (key == other) = false := beq_false_of_ne (Ne.symm h)
      simp [insert, h, List.lookup_cons, hne, ih]

/-- Setting a value leaves the other keys alone. -/
theorem lookup_insert_of_ne {key other : κ} (h : other ≠ key) (value : α)
    (map : List (κ × α)) : (insert key value map).lookup other = map.lookup other := by
  induction map with
  | nil => simp [insert, List.lookup_cons, beq_false_of_ne h]
  | cons entry rest ih =>
    obtain ⟨first, old⟩ := entry
    by_cases hk : first = key
    · subst hk
      simp [insert, List.lookup_cons, beq_false_of_ne h]
    · simp only [insert, beq_iff_eq, hk, if_false, List.lookup_cons]
      split
      · rfl
      · exact ih

/-- Setting the value that a key has changes nothing. -/
theorem insert_of_lookup {key : κ} {value : α} {map : List (κ × α)}
    (h : map.lookup key = some value) : insert key value map = map := by
  induction map with
  | nil => cases h
  | cons entry rest ih =>
    obtain ⟨other, old⟩ := entry
    by_cases hk : other = key
    · subst hk
      rw [List.lookup_cons_self] at h
      cases h
      rw [insert, if_pos (beq_self_eq_true _)]
    · rw [List.lookup_cons, beq_false_of_ne (Ne.symm hk)] at h
      rw [insert, if_neg (by simpa using hk), ih h]

theorem mem_of_lookup {key : κ} {value : α} {map : List (κ × α)}
    (h : map.lookup key = some value) : (key, value) ∈ map := by
  obtain ⟨before, after, rfl, -⟩ := List.lookup_eq_some_iff.mp h
  exact List.mem_append_right before List.mem_cons_self

/-- Where keys are distinct, each of them has its value. -/
theorem lookup_of_mem {map : List (κ × α)} (hnodup : (map.map Prod.fst).Nodup) {key : κ}
    {value : α} (h : (key, value) ∈ map) : map.lookup key = some value := by
  induction map with
  | nil => exact absurd h List.not_mem_nil
  | cons entry rest ih =>
    obtain ⟨other, old⟩ := entry
    rw [List.map_cons, List.nodup_cons] at hnodup
    rcases List.mem_cons.mp h with heq | hrest
    · obtain ⟨rfl, rfl⟩ := Prod.mk.inj heq
      exact List.lookup_cons_self
    · have hne : key ≠ other := fun heq =>
        hnodup.1 (List.mem_map.mpr ⟨(key, value), hrest, heq⟩)
      rw [List.lookup_cons, beq_false_of_ne hne]
      exact ih hnodup.2 hrest

end SchemaPages.Pairs
