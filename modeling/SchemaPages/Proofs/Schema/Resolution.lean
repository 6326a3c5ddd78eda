import SchemaPages.Schema.TypeRef

/-!
# What a reference resolves to

Two levels of a reference decide what it resolves to: the first one with a proper name, which gives
the name and ends the notation, and the innermost one, which gives the kind. Either of them counts
only if it lies within the levels that are looked at. So a reference may have a kind and no name, or
a name and no kind, but never a notation that is at odds with its name: the notation is the name
between as many opening brackets as closing ones (`resolves_by_level`).

The notation is said here without a recursion: every list level writes a bracket on either side, and
every level that excludes null a mark behind, and the levels are read inwards in front of the name
and outwards behind it (`Level.writtenAround`).
-/

namespace SchemaPages

namespace Level

variable {level : Level}

theorem getD_properName? (level : Level) : level.properName?.getD "" = level.name.getD "" := by
  rw [properName?]
  rcases level.name with _ | name
  · rfl
  · rw [Option.filter_some]
    split
    · rfl
    · next hempty =>
      have hname : name = "" := by simpa using hempty
      rw [hname]
      rfl

theorem getD_name_of_properName? {name : String} (h : level.properName? = some name) :
    level.name.getD "" = name := by
  rw [← getD_properName?, h]
  rfl

/-! ### The marks of levels -/

/-- What a level writes in front of what it wraps. -/
def opening (level : Level) : String :=
  if level.isList then "[" else ""

/-- What a level writes behind what it wraps. -/
def closing (level : Level) : String :=
  if level.isList then "]" else if level.isRequired then "!" else ""

/-- A name within levels, the outermost one first. -/
def writtenAround (levels : List Level) (name : String) : String :=
  String.join (levels.map opening) ++ name ++ String.join (levels.reverse.map closing)

/-- No level is a list and excludes null as well. -/
theorem isRequired_of_isList (h : level.isList = true) : level.isRequired = false := by
  have hkind : level.kind = some listKind := eq_of_beq h
  rw [isRequired, hkind]
  rfl

theorem wrap_eq (level : Level) (text : String) :
    level.wrap text = level.opening ++ text ++ level.closing := by
  rw [wrap, opening, closing]
  by_cases hlist : level.isList = true
  · simp [hlist, isRequired_of_isList hlist]
  · by_cases hrequired : level.isRequired = true <;> simp [hlist, hrequired]

theorem writtenAround_nil (name : String) : writtenAround [] name = name := by
  simp [writtenAround]

/-- The outermost level writes its marks around what the others write. -/
theorem writtenAround_cons (level : Level) (levels : List Level) (name : String) :
    writtenAround (level :: levels) name = level.wrap (writtenAround levels name) := by
  rw [wrap_eq, writtenAround, writtenAround, List.map_cons, String.join_cons, List.reverse_cons,
    List.map_append, String.join_append]
  simp only [List.map_cons, List.map_nil, String.join_cons, String.join_nil, String.append_empty,
    String.append_assoc]

/-- The levels write an opening bracket for each list. -/
theorem join_opening (levels : List Level) :
    String.join (levels.map opening) =
      String.ofList (List.replicate (levels.countP isList) '[') := by
  induction levels with
  | nil => rfl
  | cons level rest ih =>
    rw [List.map_cons, String.join_cons, ih, List.countP_cons, opening]
    split
    · rw [List.replicate_succ, ← String.toList_inj]
      simp
    · rw [Nat.add_zero, String.empty_append]

/-- Behind the name there are only closing brackets and marks for non-null. -/
theorem eq_of_mem_join_closing (levels : List Level) :
    ∀ c ∈ (String.join (levels.map closing)).toList, c = ']' ∨ c = '!' := by
  induction levels with
  | nil => exact fun c h => absurd h List.not_mem_nil
  | cons level rest ih =>
    have hlevel : ∀ c ∈ level.closing.toList, c = ']' ∨ c = '!' := by
      rw [closing]
      split
      · simp
      · split <;> simp
    intro c hc
    rw [List.map_cons, String.join_cons, String.toList_append, List.mem_append] at hc
    exact hc.elim (hlevel c) (ih c)

/-- The levels write a closing bracket for each list. -/
theorem count_join_closing (levels : List Level) :
    (String.join (levels.map closing)).toList.count ']' = levels.countP isList := by
  induction levels with
  | nil => rfl
  | cons level rest ih =>
    have hlevel : level.closing.toList.count ']' = if level.isList then 1 else 0 := by
      rw [closing]
      split
      · rfl
      · split <;> rfl
    rw [List.map_cons, String.join_cons, String.toList_append, List.count_append, ih, hlevel,
      List.countP_cons, Nat.add_comm]

end Level

namespace TypeRef

variable {level : Level} {inner : TypeRef}

/-- How many levels are around the innermost one. -/
def depth (ref : TypeRef) : Nat :=
  ref.levels.length - 1

/-- How many levels are around the one that names the reference: the first one with a proper name,
or the innermost one if no level has any. -/
def namingDepth (ref : TypeRef) : Nat :=
  (ref.levels.findIdx? (·.properName?.isSome)).getD ref.depth

/-- The name of the level with so many levels around it; empty if it has none. -/
def nameAt (ref : TypeRef) (depth : Nat) : String :=
  (ref.levels[depth]?.bind Level.name).getD ""

/-- The kind of the level with so many levels around it; empty if it has none. -/
def kindAt (ref : TypeRef) (depth : Nat) : String :=
  (ref.levels[depth]?.bind Level.kind).getD ""

/-! ### Wrapped references -/

theorem depth_wrapped (level : Level) (inner : TypeRef) :
    (wrapped level inner).depth = inner.depth + 1 := by
  have hlevels : 0 < inner.levels.length := List.length_pos_iff.mpr inner.levels_ne_nil
  rw [depth, depth, levels, List.length_cons]
  omega

theorem namingDepth_leaf (level : Level) : (leaf level).namingDepth = 0 := by
  rw [namingDepth, depth, levels, List.findIdx?_cons]
  split <;> rfl

theorem namingDepth_of_name {name : String} (h : level.properName? = some name) :
    (wrapped level inner).namingDepth = 0 := by
  rw [namingDepth, levels, List.findIdx?_cons, h]
  rfl

theorem namingDepth_of_unnamed (h : level.properName? = none) :
    (wrapped level inner).namingDepth = inner.namingDepth + 1 := by
  rw [namingDepth, levels, List.findIdx?_cons, h, depth_wrapped, namingDepth]
  cases inner.levels.findIdx? (·.properName?.isSome) <;> rfl

/-! ### What is found within a count of levels -/

theorem nameWithin_eq (ref : TypeRef) (n : Nat) :
    ref.nameWithin n = if ref.namingDepth < n then ref.nameAt ref.namingDepth else "" := by
  induction ref generalizing n with
  | leaf level =>
    cases n with
    | zero => rfl
    | succ n =>
      rw [namingDepth_leaf, if_pos n.succ_pos]
      exact level.getD_properName?
  | wrapped level inner ih =>
    cases n with
    | zero => rfl
    | succ n =>
      rw [nameWithin]
      -- a level without a name takes one off the bound and one off the way to the naming level
      rcases hname : level.properName? with _ | name
      · simp only [namingDepth_of_unnamed hname, Nat.succ_lt_succ_iff]
        exact ih n
      · rw [namingDepth_of_name hname, if_pos n.succ_pos]
        exact (Level.getD_name_of_properName? hname).symm

theorem kindWithin_eq (ref : TypeRef) (n : Nat) :
    ref.kindWithin n = if ref.depth < n then ref.kindAt ref.depth else "" := by
  induction ref generalizing n with
  | leaf level => cases n <;> rfl
  | wrapped level inner ih =>
    cases n with
    | zero => rfl
    | succ n =>
      simp only [depth_wrapped, Nat.succ_lt_succ_iff]
      exact ih n

/-- The notation of a reference, however deep its name lies: the name within the levels from the
outermost one to the one that names the reference. -/
def fullNotation (ref : TypeRef) : String :=
  Level.writtenAround (ref.levels.take (ref.namingDepth + 1)) (ref.nameAt ref.namingDepth)

theorem fullNotation_leaf (level : Level) :
    (leaf level).fullNotation = level.wrap (level.name.getD "") := by
  rw [fullNotation, namingDepth_leaf, levels, List.take_succ_cons, List.take_zero,
    Level.writtenAround_cons, Level.writtenAround_nil]
  rfl

theorem fullNotation_of_name {name : String} (h : level.properName? = some name) :
    (wrapped level inner).fullNotation = level.wrap name := by
  rw [fullNotation, namingDepth_of_name h, levels, List.take_succ_cons, List.take_zero,
    Level.writtenAround_cons, Level.writtenAround_nil, ← Level.getD_name_of_properName? h]
  rfl

theorem fullNotation_of_unnamed (h : level.properName? = none) :
    (wrapped level inner).fullNotation = level.wrap inner.fullNotation := by
  rw [fullNotation, namingDepth_of_unnamed h, levels, List.take_succ_cons, Level.writtenAround_cons]
  rfl

theorem decoratedWithin_eq (ref : TypeRef) (n : Nat) :
    ref.decoratedWithin n = if ref.namingDepth < n then some ref.fullNotation else none := by
  induction ref generalizing n with
  | leaf level =>
    cases n with
    | zero => rfl
    | succ n =>
      rw [namingDepth_leaf, if_pos n.succ_pos, fullNotation_leaf, ← level.getD_properName?]
      rfl
  | wrapped level inner ih =>
    cases n with
    | zero => rfl
    | succ n =>
      rw [decoratedWithin]
      rcases hname : level.properName? with _ | name
      · simp only [namingDepth_of_unnamed hname, Nat.succ_lt_succ_iff, ih n,
          fullNotation_of_unnamed hname]
        split <;> rfl
      · rw [namingDepth_of_name hname, if_pos n.succ_pos, fullNotation_of_name hname]

/-- **The three answers about a reference are exact, and agree.** Count levels from the outermost
one, and let the naming level be the first one with a proper name, or the innermost one if there is
none. The name of a reference is that of its naming level, and the notation is this name within the
levels up to the naming level, provided that it is one of the first eight levels; otherwise both are
empty. The kind is that of the innermost level, if that is one of the first eight levels, wherever
the name is, and empty otherwise. So the notation is always the name between brackets, with as many
closing as opening ones and nothing but marks for non-null among them. -/
theorem resolves_by_level (ref : TypeRef) :
    ref.actualName =
        (if ref.namingDepth < maxLevels then ref.nameAt ref.namingDepth else "") ∧
      ref.decoratedName =
        (if ref.namingDepth < maxLevels then
          Level.writtenAround (ref.levels.take (ref.namingDepth + 1)) (ref.nameAt ref.namingDepth)
        else "") ∧
      ref.actualKind = (if ref.depth < maxLevels then ref.kindAt ref.depth else "") ∧
      ∃ brackets marks,
        ref.decoratedName =
            String.ofList (List.replicate brackets '[') ++ ref.actualName ++ marks ∧
          (∀ c ∈ marks.toList, c = ']' ∨ c = '!') ∧ marks.toList.count ']' = brackets := by
  have hname : ref.actualName =
      if ref.namingDepth < maxLevels then ref.nameAt ref.namingDepth else "" :=
    ref.nameWithin_eq maxLevels
  have hwritten : ref.decoratedName =
      if ref.namingDepth < maxLevels then ref.fullNotation else "" := by
    rw [decoratedName, decoratedWithin_eq]
    split <;> rfl
  refine ⟨hname, hwritten, ref.kindWithin_eq maxLevels, ?_⟩
  rw [hname, hwritten]
  split
  · refine ⟨_, _, ?_, Level.eq_of_mem_join_closing (ref.levels.take (ref.namingDepth + 1)).reverse,
      Level.count_join_closing _⟩
    rw [fullNotation, Level.writtenAround, Level.join_opening, List.countP_reverse]
  · exact ⟨0, "", rfl, fun _ h => absurd h List.not_mem_nil, rfl⟩

end TypeRef

end SchemaPages
