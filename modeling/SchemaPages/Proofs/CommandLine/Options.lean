import SchemaPages.CommandLine.Options

/-!
# Options that are written and read

An option can be given with its long name and its value in the next argument, whatever the value
is: even one that looks like an option. Options that are written this way are read back, each with
its value and in their order (`divide_written`).
-/

namespace SchemaPages.CommandLine

variable {κ : Type} {switches : List (Switch κ)} {key : κ} {name : String}

/-- A name in an argument of its own that announces the value of an option. -/
structure Announces (switches : List (Switch κ)) (name : String) (key : κ) : Prop where
  isOption : isOption name.toList = true
  ne_end : name ≠ "--"
  plain : '=' ∉ name.toList
  found : ∃ short, switches.find? (·.long = name) = some ⟨key, name, short, true⟩

theorem splitValue_of_not_mem {argument : List Char} (h : '=' ∉ argument) :
    splitValue argument = (String.ofList argument, none) := by
  rw [splitValue, Text.cutFirst_eq_none h]

theorem Announces.readOption (h : Announces switches name key) :
    readOption switches name.toList = .ok ([], some (key, name)) := by
  obtain ⟨short, hfound⟩ := h.found
  rw [CommandLine.readOption, splitValue_of_not_mem h.plain]
  simp only [String.ofList_toList, hfound]

theorem divideFrom_pending (interspersed : Bool) (value : String) (rest : List String) :
    divideFrom switches interspersed (some (key, name)) (value :: rest) =
      (divideFrom switches interspersed none rest).map (·.after [(key, value)]) := by
  rw [divideFrom]

/-- The value is the next argument, and the rest is read as if nothing were in front of it. -/
theorem Announces.divideFrom_cons (h : Announces switches name key) (interspersed : Bool)
    (value : String) (rest : List String) :
    divideFrom switches interspersed none (name :: value :: rest) =
      (divideFrom switches interspersed none rest).map (·.after [(key, value)]) := by
  rw [divideFrom]
  simp only [h.ne_end, h.isOption, h.readOption, divideFrom_pending, if_true, if_false]
  cases divideFrom switches interspersed none rest <;> rfl

/-- The arguments that give options, each with its name and its value behind it. -/
def written (nameOf : κ → String) (options : List (κ × String)) : List String :=
  options.flatMap fun option => [nameOf option.1, option.2]

/-- Options that are written are read back. -/
theorem divide_written {nameOf : κ → String} {options : List (κ × String)}
    (h : ∀ option ∈ options, Announces switches (nameOf option.1) option.1) (interspersed : Bool) :
    divide switches interspersed (written nameOf options) = .ok ⟨options, []⟩ := by
  induction options with
  | nil => rfl
  | cons option rest ih =>
    obtain ⟨hfirst, hrest⟩ := List.forall_mem_cons.mp h
    have hread := ih hrest
    rw [divide] at hread ⊢
    rw [written, List.flatMap_cons, List.cons_append, List.cons_append, List.nil_append,
      hfirst.divideFrom_cons, ← written, hread]
    rfl

/-! ### Options in groups -/

/-- Options that stand in groups, one for each key. -/
def grouped (keys : List κ) (valuesOf : κ → List String) : List (κ × String) :=
  keys.flatMap fun key => (valuesOf key).map fun value => (key, value)

theorem mem_grouped {keys : List κ} {valuesOf : κ → List String} {value : String} :
    (key, value) ∈ grouped keys valuesOf ↔ key ∈ keys ∧ value ∈ valuesOf key := by
  simp [grouped]

/-- An option has the values of its group. -/
theorem values_grouped [BEq κ] [LawfulBEq κ] {keys : List κ} (hnodup : keys.Nodup)
    (hkey : key ∈ keys) (valuesOf : κ → List String) (positional : List String) :
    Given.values ⟨grouped keys valuesOf, positional⟩ key = valuesOf key := by
  have hothers : ∀ keys : List κ, key ∉ keys →
      (grouped keys valuesOf).filter (·.1 == key) = [] := by
    intro keys hkey
    rw [List.filter_eq_nil_iff]
    rintro ⟨other, value⟩ hmem heq
    exact hkey (eq_of_beq heq ▸ (mem_grouped.mp hmem).1)
  -- The group stands once, and those in front of it and behind it have other keys.
  obtain ⟨front, back, rfl⟩ := List.append_of_mem hkey
  obtain ⟨-, hback, hdisjoint⟩ := List.nodup_append.mp hnodup
  have hfront : key ∉ front := fun h => hdisjoint key h key List.mem_cons_self rfl
  have hgroup : ((valuesOf key).map fun value => (key, value)).filter (·.1 == key) =
      (valuesOf key).map fun value => (key, value) := List.filter_eq_self.mpr (by simp)
  have hsplit : grouped (front ++ key :: back) valuesOf =
      grouped front valuesOf ++ ((valuesOf key).map (fun value => (key, value)) ++
        grouped back valuesOf) := by
    rw [grouped, List.flatMap_append, List.flatMap_cons]
    rfl
  rw [Given.values, hsplit, List.filter_append, List.filter_append, hothers front hfront, hgroup,
    hothers back (List.nodup_cons.mp hback).1, List.nil_append, List.append_nil, List.map_map]
  exact List.map_id _

end SchemaPages.CommandLine
