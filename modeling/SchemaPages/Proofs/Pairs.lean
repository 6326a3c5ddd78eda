import SchemaPages.Pairs

/-!
# Setting several keys

Setting keys one after the other leaves the known keys where they are, and the new ones follow in
the order in which they come first (`map_fst_insertAll`); a key has the last value that is set, and
else the one it had (`lookup_insertAll`). Both follow from what setting one key does, by induction
on the pairs, for every map to begin with. Together they say what the map of some pairs is: their
keys in the order in which they come first, each with its last value (`ofList_eq`).
-/

namespace SchemaPages.Pairs

variable {κ α : Type} [BEq κ] [LawfulBEq κ]

/-- Setting a known key leaves all keys where they are. -/
theorem map_fst_insert_of_mem {key : κ} (value : α) {map : List (κ × α)}
    (h : key ∈ map.map Prod.fst) : (insert key value map).map Prod.fst = map.map Prod.fst := by
  induction map with
  | nil => cases h
  | cons entry rest ih =>
    obtain ⟨other, old⟩ := entry
    by_cases hk : other = key
    · simp [insert, hk]
    · have hrest : key ∈ rest.map Prod.fst := (List.mem_cons.mp h).resolve_left (Ne.symm hk)
      simp [insert, hk, ih hrest]

/-- A new key comes last. -/
theorem map_fst_insert_of_not_mem {key : κ} (value : α) {map : List (κ × α)}
    (h : key ∉ map.map Prod.fst) :
    (insert key value map).map Prod.fst = map.map Prod.fst ++ [key] := by
  induction map with
  | nil => rfl
  | cons entry rest ih =>
    obtain ⟨other, old⟩ := entry
    obtain ⟨hk, hrest⟩ := not_or.mp (mt List.mem_cons.mpr h)
    have hne : other ≠ key := Ne.symm hk
    simp [insert, hne, ih hrest]

/-- The known keys keep their places, and the new ones follow, each where it comes first. -/
theorem map_fst_insertAll (pairs found : List (κ × α)) :
    (insertAll pairs found).map Prod.fst =
      found.map Prod.fst ++ ((pairs.map Prod.fst).removeAll (found.map Prod.fst)).eraseDups := by
  induction pairs generalizing found with
  | nil => exact (List.append_nil _).symm
  | cons pair rest ih =>
    obtain ⟨key, value⟩ := pair
    have hstep : insertAll ((key, value) :: rest) found = insertAll rest (insert key value found) :=
      rfl
    rw [hstep, ih, List.map_cons, List.cons_removeAll]
    by_cases hknown : key ∈ found.map Prod.fst
    · rw [map_fst_insert_of_mem value hknown, if_neg (by simpa using hknown)]
    · have hlater : (rest.map Prod.fst).removeAll (found.map Prod.fst ++ [key]) =
          ((rest.map Prod.fst).removeAll (found.map Prod.fst)).filter
            fun other => !other == key := by
        rw [List.removeAll, List.removeAll, List.filter_filter]
        congr 1
        funext other
        rw [Bool.eq_iff_iff]
        simp [and_comm]
      rw [map_fst_insert_of_not_mem value hknown, if_pos (by simpa using hknown), hlater,
        List.eraseDups_cons, List.append_assoc, List.singleton_append]

/-- The last value counts, and a key that is not set keeps its value. -/
theorem lookup_insertAll (pairs found : List (κ × α)) (key : κ) :
    (insertAll pairs found).lookup key = (pairs.reverse.lookup key).or (found.lookup key) := by
  induction pairs generalizing found with
  | nil => rfl
  | cons pair rest ih =>
    obtain ⟨other, value⟩ := pair
    have hstep : insertAll ((other, value) :: rest) found =
        insertAll rest (insert other value found) := rfl
    rw [hstep, ih, List.reverse_cons, List.lookup_append, Option.or_assoc]
    congr 1
    by_cases h : key = other
    · subst h
      rw [lookup_insert_self, List.lookup_cons_self, Option.some_or]
    · rw [lookup_insert_of_ne h, List.lookup_cons, beq_false_of_ne h, List.lookup_nil,
        Option.none_or]

/-! ### The map of some pairs -/

theorem nodup_insert (key : κ) (value : α) {map : List (κ × α)} (h : (map.map Prod.fst).Nodup) :
    ((insert key value map).map Prod.fst).Nodup := by
  by_cases hknown : key ∈ map.map Prod.fst
  · rwa [map_fst_insert_of_mem value hknown]
  · rw [map_fst_insert_of_not_mem value hknown, List.nodup_append]
    refine ⟨h, by simp, fun other hother last hlast => ?_⟩
    rw [List.mem_singleton.mp hlast]
    exact fun heq => hknown (heq ▸ hother)

/-- Setting keys keeps the keys distinct. -/
theorem nodup_insertAll (pairs : List (κ × α)) {found : List (κ × α)}
    (h : (found.map Prod.fst).Nodup) : ((insertAll pairs found).map Prod.fst).Nodup := by
  induction pairs generalizing found with
  | nil => exact h
  | cons pair rest ih => exact ih (nodup_insert pair.1 pair.2 h)

/-- The map of some pairs has their keys in the order in which they come first, each with its last
value. Every key has one, so the fallback does not matter. -/
theorem ofList_eq (pairs : List (κ × α)) (fallback : α) :
    ofList pairs = (pairs.map Prod.fst).eraseDups.map fun key =>
      (key, (pairs.reverse.lookup key).getD fallback) := by
  have hkeys : (ofList pairs).map Prod.fst = (pairs.map Prod.fst).eraseDups := by
    rw [ofList, map_fst_insertAll, List.map_nil, List.nil_append, List.removeAll_nil]
  have hvalue : ∀ key, (ofList pairs).lookup key = pairs.reverse.lookup key := by
    intro key
    rw [ofList, lookup_insertAll, List.lookup_nil, Option.or_none]
  have hnodup : ((ofList pairs).map Prod.fst).Nodup := nodup_insertAll pairs List.nodup_nil
  have hpair : ∀ pair ∈ ofList pairs,
      pair = (pair.1, (pairs.reverse.lookup pair.1).getD fallback) := by
    intro pair hpair
    rw [← hvalue, lookup_of_mem hnodup hpair, Option.getD_some]
  calc ofList pairs
      = (ofList pairs).map (fun pair => (pair.1, (pairs.reverse.lookup pair.1).getD fallback)) := by
        rw [← List.map_congr_left hpair, List.map_id']
    _ = ((ofList pairs).map Prod.fst).map
          (fun key => (key, (pairs.reverse.lookup key).getD fallback)) := by
        rw [List.map_map]
        rfl
    _ = _ := by rw [hkeys]

/-! ### Maps with other keys and values -/

section

variable {ι τ β γ : Type} [BEq ι] [BEq τ] {f : ι → τ}

theorem map_insert (hf : ∀ key other, (f key == f other) = (key == other)) (g : β → γ) (key : ι)
    (value : β) (map : List (ι × β)) : (insert key value map).map (Prod.map f g) =
      insert (f key) (g value) (map.map (Prod.map f g)) := by
  induction map with
  | nil => rfl
  | cons entry rest ih =>
    obtain ⟨other, old⟩ := entry
    rw [List.map_cons, Prod.map_apply, insert, insert, hf]
    split
    · rfl
    · rw [List.map_cons, Prod.map_apply, ih]

/-- The map of pairs with other values, and with other keys that are told apart like the old ones.
-/
theorem map_ofList (hf : ∀ key other, (f key == f other) = (key == other)) (g : β → γ)
    (pairs : List (ι × β)) :
    (ofList pairs).map (Prod.map f g) = ofList (pairs.map (Prod.map f g)) := by
  have hall : ∀ found : List (ι × β), (insertAll pairs found).map (Prod.map f g) =
      insertAll (pairs.map (Prod.map f g)) (found.map (Prod.map f g)) := by
    induction pairs with
    | nil => exact fun _ => rfl
    | cons pair rest ih =>
      intro found
      have hstep : insertAll (pair :: rest) found =
          insertAll rest (insert pair.1 pair.2 found) := rfl
      rw [hstep, ih, map_insert hf]
      rfl
  exact hall []

end

end SchemaPages.Pairs
