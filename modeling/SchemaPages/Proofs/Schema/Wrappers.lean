import SchemaPages.Proofs.Schema.Resolution

/-!
# Reading a notation back

A list writes brackets around what it wraps, and a level that excludes null a mark behind it. The
marks behind the name of a reference therefore stand in the order of its wrappers, the innermost one
first, and what the levels write in front of it adds nothing to that. If the name holds no marks of
its own, both can be read back from the notation (`writtenKinds_written`, `writtenName_written`), so
references with one notation have the same wrappers around the same name (`decoratedName_eq_iff`).

The induction is from the outermost wrapper inwards, along `Wraps`. What a level adds stands at the
two ends of what the rest writes, so reading the notation from its end gives the wrappers in order.
-/

namespace SchemaPages

namespace Level

/-- Whether a level has this name and no marks can be taken for its own: it is no list, does not
exclude null, and the name holds no marks. -/
structure Names (level : Level) (name : String) : Prop where
  name_eq : level.name = some name
  ne_empty : name ≠ ""
  not_list : level.kind ≠ some listKind
  not_nonNull : level.kind ≠ some nonNullKind
  opening : '[' ∉ name.toList
  closing : ']' ∉ name.toList
  required : '!' ∉ name.toList

theorem Names.plain {level : Level} {name : String} (h : level.Names name) :
    ∀ c ∈ name.toList, c ≠ '[' ∧ c ≠ ']' ∧ c ≠ '!' := by
  intro c hc
  have hopening : c ≠ '[' := fun heq => h.opening (heq ▸ hc)
  have hclosing : c ≠ ']' := fun heq => h.closing (heq ▸ hc)
  have hrequired : c ≠ '!' := fun heq => h.required (heq ▸ hc)
  exact ⟨hopening, hclosing, hrequired⟩

/-- Whether a level is a list or excludes null, as this kind says, and has no name. -/
structure IsWrapper (level : Level) (kind : String) : Prop where
  unnamed : level.properName? = none
  kind_eq : level.kind = some kind
  wraps : kind = listKind ∨ kind = nonNullKind

/-- What a level writes around a text depends on its kind alone. -/
theorem wrap_eq_of_kind {level other : Level} (h : level.kind = other.kind) (text : String) :
    level.wrap text = other.wrap text := by
  rw [wrap, wrap, isList, isList, isRequired, isRequired, h]

end Level

namespace TypeRef

/-- Whether a reference is a chain of wrappers of these kinds, the outermost one first, around a
leaf with this name. -/
inductive Wraps : TypeRef → List String → String → Prop
  | leaf {level : Level} {name : String} (h : level.Names name) : Wraps (.leaf level) [] name
  | wrapped {level : Level} {inner : TypeRef} {kind name : String} {kinds : List String}
      (h : level.IsWrapper kind) (hinner : Wraps inner kinds name) :
      Wraps (.wrapped level inner) (kind :: kinds) name

variable {ref other : TypeRef} {kind name name' : String} {kinds others : List String}

/-! ### The notation of a chain -/

/-- The notation of a name within wrappers, the outermost one first. -/
def written : List String → String → String
  | [], name => name
  | kind :: kinds, name => Level.wrap ⟨none, some kind⟩ (written kinds name)

theorem Wraps.plain (h : ref.Wraps kinds name) :
    ∀ c ∈ name.toList, c ≠ '[' ∧ c ≠ ']' ∧ c ≠ '!' := by
  induction h with
  | leaf hleaf => exact hleaf.plain
  | wrapped _ _ ih => exact ih

theorem Wraps.isWrapper (h : ref.Wraps kinds name) :
    ∀ kind ∈ kinds, kind = listKind ∨ kind = nonNullKind := by
  induction h with
  | leaf _ => exact fun _ hnone => absurd hnone List.not_mem_nil
  | wrapped hlevel _ ih => exact List.forall_mem_cons.mpr ⟨hlevel.wraps, ih⟩

/-- A chain that is not too long is written with all its wrappers. -/
theorem Wraps.decoratedWithin_eq (h : ref.Wraps kinds name) {n : Nat} (hn : kinds.length < n) :
    ref.decoratedWithin n = some (written kinds name) := by
  induction h generalizing n with
  | @leaf level name hleaf =>
    obtain ⟨n, rfl⟩ := Nat.exists_eq_add_one.mpr hn
    have hname : level.properName?.getD "" = name := by
      rw [level.getD_properName?, hleaf.name_eq, Option.getD_some]
    have hwrap : level.wrap name = name := by
      simp [Level.wrap, Level.isList, Level.isRequired, hleaf.not_list, hleaf.not_nonNull]
    rw [decoratedWithin, hname, hwrap, written]
  | @wrapped level inner kind name kinds hlevel _ ih =>
    obtain ⟨n, rfl⟩ := Nat.exists_eq_add_one.mpr (Nat.zero_lt_of_lt hn)
    have hinner : inner.decoratedWithin n = some (written kinds name) :=
      ih (Nat.lt_of_succ_lt_succ hn)
    have hwrap : level.wrap (written kinds name) = written (kind :: kinds) name :=
      Level.wrap_eq_of_kind hlevel.kind_eq _
    rw [decoratedWithin, hlevel.unnamed, hinner, ← hwrap]
    rfl

theorem Wraps.decoratedName_eq (h : ref.Wraps kinds name) (hdepth : kinds.length ≤ 7) :
    ref.decoratedName = written kinds name := by
  have hwithin : ref.decoratedWithin maxLevels = some (written kinds name) :=
    h.decoratedWithin_eq (Nat.lt_succ_of_le hdepth)
  rw [decoratedName, hwithin, Option.getD_some]

/-! ### Reading it back -/

/-- The kind of the wrapper that writes a mark behind what it wraps. -/
def wrapperKind? (mark : Char) : Option String :=
  if mark = ']' then some listKind else if mark = '!' then some nonNullKind else none

/-- The kinds of the wrappers in a notation, the outermost one first. -/
def writtenKinds (text : String) : List String :=
  text.toList.reverse.filterMap wrapperKind?

/-- The name in a notation: what is left without the marks. -/
def writtenName (text : String) : String :=
  String.ofList (text.toList.filter fun c => c ≠ '[' ∧ c ≠ ']' ∧ c ≠ '!')

theorem toList_wrap_list (text : String) :
    (Level.wrap ⟨none, some listKind⟩ text).toList = '[' :: (text.toList ++ [']']) := by
  have hlist : Level.wrap ⟨none, some listKind⟩ text = "[" ++ text ++ "]" := rfl
  simp [hlist]

theorem toList_wrap_nonNull (text : String) :
    (Level.wrap ⟨none, some nonNullKind⟩ text).toList = text.toList ++ ['!'] := by
  have hrequired : Level.wrap ⟨none, some nonNullKind⟩ text = text ++ "!" := rfl
  simp [hrequired]

theorem writtenKinds_written (hkinds : ∀ kind ∈ kinds, kind = listKind ∨ kind = nonNullKind)
    (hname : ∀ c ∈ name.toList, c ≠ '[' ∧ c ≠ ']' ∧ c ≠ '!') :
    writtenKinds (written kinds name) = kinds := by
  induction kinds with
  | nil =>
    refine List.filterMap_eq_nil_iff.mpr fun c hc => ?_
    obtain ⟨-, hclose, hmark⟩ := hname c (List.mem_reverse.mp hc)
    rw [wrapperKind?, if_neg hclose, if_neg hmark]
  | cons kind kinds ih =>
    obtain ⟨hkind, hrest⟩ := List.forall_mem_cons.mp hkinds
    have hinner := ih hrest
    rw [writtenKinds] at hinner ⊢
    rw [written]
    rcases hkind with rfl | rfl
    · rw [toList_wrap_list]
      simp [wrapperKind?, hinner]
    · rw [toList_wrap_nonNull]
      simp [wrapperKind?, hinner]

theorem writtenName_written (hkinds : ∀ kind ∈ kinds, kind = listKind ∨ kind = nonNullKind)
    (hname : ∀ c ∈ name.toList, c ≠ '[' ∧ c ≠ ']' ∧ c ≠ '!') :
    writtenName (written kinds name) = name := by
  induction kinds with
  | nil =>
    have hall : name.toList.filter (fun c => c ≠ '[' ∧ c ≠ ']' ∧ c ≠ '!') = name.toList :=
      List.filter_eq_self.mpr fun c hc => decide_eq_true (hname c hc)
    rw [written, writtenName, hall, String.ofList_toList]
  | cons kind kinds ih =>
    obtain ⟨hkind, hrest⟩ := List.forall_mem_cons.mp hkinds
    have hinner := ih hrest
    rw [writtenName] at hinner ⊢
    rw [written]
    rcases hkind with rfl | rfl
    · rw [toList_wrap_list]
      simpa using hinner
    · rw [toList_wrap_nonNull]
      simpa using hinner

/-- **A notation can be read back.** Take two references, each of them a chain of at most seven
unnamed lists and levels that exclude null, in any order, around a leaf of another kind whose name
is not empty and holds no marks. Their notations are the same exactly if they have the same wrappers
in the same order around the same name. -/
theorem decoratedName_eq_iff (href : ref.Wraps kinds name) (hother : other.Wraps others name')
    (hdepth : kinds.length ≤ 7) (hdepth' : others.length ≤ 7) :
    ref.decoratedName = other.decoratedName ↔ kinds = others ∧ name = name' := by
  rw [href.decoratedName_eq hdepth, hother.decoratedName_eq hdepth']
  constructor
  · intro heq
    have hkinds : kinds = others := by
      have hread := congrArg writtenKinds heq
      rwa [writtenKinds_written href.isWrapper href.plain,
        writtenKinds_written hother.isWrapper hother.plain] at hread
    have hname : name = name' := by
      have hread := congrArg writtenName heq
      rwa [writtenName_written href.isWrapper href.plain,
        writtenName_written hother.isWrapper hother.plain] at hread
    exact ⟨hkinds, hname⟩
  · rintro ⟨rfl, rfl⟩
    rfl

/-- A chain of levels with these kinds around a leaf with a name. -/
def chain (kinds : List String) (name : String) : TypeRef :=
  ofLevels ⟨some name, some "SCALAR"⟩ (kinds.map fun kind => ⟨none, some kind⟩)

/-- A list of identifiers that exclude null and a list of identifiers that excludes null twice
itself have different notations. -/
theorem decoratedName_eq_iff_identifiers :
    (chain [listKind, nonNullKind] "ID").Wraps [listKind, nonNullKind] "ID" ∧
      (chain [nonNullKind, nonNullKind, listKind] "ID").Wraps
        [nonNullKind, nonNullKind, listKind] "ID" ∧
      (chain [listKind, nonNullKind] "ID").decoratedName = "[ID!]" ∧
      (chain [nonNullKind, nonNullKind, listKind] "ID").decoratedName = "[ID]!!" ∧
      (chain [listKind, nonNullKind] "ID").decoratedName ≠
        (chain [nonNullKind, nonNullKind, listKind] "ID").decoratedName := by
  have hleaf : Level.Names ⟨some "ID", some "SCALAR"⟩ "ID" :=
    ⟨rfl, by decide, by decide, by decide, by decide, by decide, by decide⟩
  have hlist : Level.IsWrapper ⟨none, some listKind⟩ listKind := ⟨rfl, rfl, .inl rfl⟩
  have hrequired : Level.IsWrapper ⟨none, some nonNullKind⟩ nonNullKind := ⟨rfl, rfl, .inr rfl⟩
  have hitems : (chain [listKind, nonNullKind] "ID").Wraps [listKind, nonNullKind] "ID" :=
    .wrapped hlist (.wrapped hrequired (.leaf hleaf))
  have hwhole : (chain [nonNullKind, nonNullKind, listKind] "ID").Wraps
      [nonNullKind, nonNullKind, listKind] "ID" :=
    .wrapped hrequired (.wrapped hrequired (.wrapped hlist (.leaf hleaf)))
  refine ⟨hitems, hwhole, by decide, by decide, fun heq => ?_⟩
  have hkinds := ((decoratedName_eq_iff hitems hwhole (by decide) (by decide)).mp heq).1
  exact absurd hkinds (by decide)

end TypeRef

end SchemaPages
