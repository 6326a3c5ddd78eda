import Mathlib.Data.List.Pairwise
import SchemaPages.Pages.Section
import SchemaPages.Proofs.Pages.NameOrder

/-!
# What an abstract type stands for

The section of an abstract type ends with the names of the types it stands for. These are put
between backticks first and sorted then, so the names are compared with a backtick behind each. That
makes a difference for two names of which one continues the other: the longer one stands first if it
goes on with a character before the backtick, such as an upper case letter, a digit or an underscore
(`inlineCode_le_iff`). The list is in the order of the names exactly if no two of them are of this
kind (`implementedBy_inNameOrder_iff`).
-/

namespace SchemaPages.Pages

/-! ### Marks behind texts -/

/-- With a mark behind each, a text that does not stand before another one does so exactly if it
goes on from it with a character before the mark. -/
theorem append_mark_lt_iff {mark : Char} {first second : List Char} (hle : ¬ second < first) :
    second ++ [mark] < first ++ [mark] ↔
      ∃ next rest, second = first ++ next :: rest ∧ next < mark := by
  induction first generalizing second with
  | nil =>
    cases second with
    | nil => exact iff_of_false (List.lt_irrefl _) (by simp)
    | cons next rest => simp [List.cons_lt_cons_iff]
  | cons a first ih =>
    cases second with
    | nil => exact absurd (List.nil_lt_cons _ _) hle
    | cons b second =>
      rw [List.cons_lt_cons_iff, not_or] at hle
      rw [List.cons_append, List.cons_append, List.cons_lt_cons_iff, or_iff_right hle.1]
      by_cases hab : b = a
      · subst hab
        have hrest : ¬ second < first := fun hlt => hle.2 ⟨rfl, hlt⟩
        simp [ih hrest]
      · simp [hab]

/-- Two texts that are not empty keep their order between backticks unless the second one goes on
from the first with a character before the backtick. -/
theorem inlineCode_le_iff {first second : String} (hfirst : first ≠ "") (hle : first ≤ second) :
    Markdown.inlineCode first ≤ Markdown.inlineCode second ↔
      ¬ ∃ next rest, second = first ++ String.ofList (next :: rest) ∧ next < '`' := by
  have hsecond : second ≠ "" := by
    rintro rfl
    exact hfirst (String.le_antisymm hle (List.not_lt_nil first.toList))
  have hlist : ∀ text : String, text ≠ "" →
      (Markdown.inlineCode text).toList = '`' :: (text.toList ++ ['`']) := by
    intro text htext
    simp [Markdown.inlineCode, htext]
  have hcontinued : ∀ next rest, second = first ++ String.ofList (next :: rest) ↔
      second.toList = first.toList ++ next :: rest := by
    intro next rest
    rw [← String.toList_inj, String.toList_append, String.toList_ofList]
  calc Markdown.inlineCode first ≤ Markdown.inlineCode second
      ↔ ¬ (Markdown.inlineCode second).toList < (Markdown.inlineCode first).toList := Iff.rfl
    _ ↔ ¬ second.toList ++ ['`'] < first.toList ++ ['`'] := by
      rw [hlist first hfirst, hlist second hsecond, List.cons_lt_cons_iff]
      simp
    _ ↔ ¬ ∃ next rest, second.toList = first.toList ++ next :: rest ∧ next < '`' := by
      rw [append_mark_lt_iff hle]
    _ ↔ _ := by simp only [hcontinued]

/-! ### Names -/

/-- Whether a name goes on from another one that is not empty, with a character before the
backtick. -/
def Overtakes (name other : Option String) : Prop :=
  ∃ text next rest, other = some text ∧ text ≠ "" ∧ next < '`' ∧
    name = some (text ++ String.ofList (next :: rest))

/-- The bullet for a name; nothing if the name is missing. -/
def bulletText (name : Option String) : String :=
  Markdown.inlineCode (name.getD "")

/-- The bullets of two names are in the order of the names unless the second one overtakes the
first. -/
theorem bulletText_le_iff {name other : Option String} (hle : nameLe name other = true) :
    bulletText name ≤ bulletText other ↔ ¬ Overtakes other name := by
  have hempty : name.getD "" = "" →
      (bulletText name ≤ bulletText other ↔ ¬ Overtakes other name) := by
    intro hname
    refine iff_of_true ?_ ?_
    · rw [bulletText, hname]
      exact List.nil_le _
    · rintro ⟨text, next, rest, rfl, htext, -⟩
      exact htext hname
  rcases name with _ | first
  · exact hempty rfl
  rcases other with _ | second
  · exact absurd hle Bool.false_ne_true
  by_cases hfirst : first = ""
  · exact hempty hfirst
  refine (inlineCode_le_iff hfirst (of_decide_eq_true hle)).trans (not_congr ⟨?_, ?_⟩)
  · rintro ⟨next, rest, rfl, hlt⟩
    exact ⟨first, next, rest, rfl, hfirst, hlt, rfl⟩
  · rintro ⟨text, next, rest, hname, -, hlt, hother⟩
    cases hname
    exact ⟨next, rest, Option.some.inj hother, hlt⟩

/-- A name that may stand before another one does not overtake it. -/
theorem not_overtakes_of_nameLe {name other : Option String} (hle : nameLe name other = true) :
    ¬ Overtakes name other := by
  rintro ⟨text, next, rest, rfl, -, -, rfl⟩
  have hshorter : ¬ (text ++ String.ofList (next :: rest)).toList < text.toList := by
    rw [String.toList_append]
    exact List.le_append_left
  have heq : text ++ String.ofList (next :: rest) = text :=
    String.le_antisymm (of_decide_eq_true hle) hshorter
  exact absurd (congrArg String.length heq) (by simp)

/-! ### The list -/

/-- The bullets for the types that an abstract type stands for, as they are listed. -/
def implementedBy (types : List TypeRef) : List String :=
  sortedTexts (types.map fun type => bulletText type.outermost.name)

/-- The bullets in the order of the names. -/
def implementedByName (types : List TypeRef) : List String :=
  (sortedByName (fun type : TypeRef => type.outermost.name) types).map fun type =>
    bulletText type.outermost.name

variable (types : List TypeRef)

theorem implementedBy_perm :
    (implementedBy types).Perm (types.map fun type => bulletText type.outermost.name) :=
  sortedBy_perm _ _

/-- Every bullet stands before those with a greater text. -/
theorem pairwise_implementedBy : (implementedBy types).Pairwise (· ≤ ·) :=
  (pairwise_sortedBy isOrder_texts _).imp fun hle => of_decide_eq_true hle

theorem implementedByName_perm :
    (implementedByName types).Perm (types.map fun type => bulletText type.outermost.name) :=
  (sortedBy_perm _ types).map _

/-- In the order of the names, the bullets are sorted exactly if no name overtakes another. -/
theorem pairwise_implementedByName_iff :
    (implementedByName types).Pairwise (· ≤ ·) ↔
      ∀ type ∈ types, ∀ other ∈ types, ¬ Overtakes type.outermost.name other.outermost.name := by
  have hsorted : (sortedByName (fun type : TypeRef => type.outermost.name) types).Pairwise
      (fun a b => nameLe a.outermost.name b.outermost.name = true) :=
    pairwise_sortedBy (isOrder_nameLe.comap _) types
  have hmem : ∀ {type}, type ∈ sortedByName (fun type : TypeRef => type.outermost.name) types ↔
      type ∈ types := mem_sortedBy
  rw [implementedByName, List.pairwise_map]
  constructor
  · intro hbullets type htype other hother
    -- the name that stands first does not overtake the other one either
    have hneither : (sortedByName (fun type : TypeRef => type.outermost.name) types).Pairwise
        (fun a b => ¬ Overtakes a.outermost.name b.outermost.name ∧
          ¬ Overtakes b.outermost.name a.outermost.name) :=
      (hsorted.and hbullets).imp fun ⟨hle, hbullet⟩ =>
        ⟨not_overtakes_of_nameLe hle, (bulletText_le_iff hle).mp hbullet⟩
    have hsymm : Std.Symm fun a b : TypeRef => ¬ Overtakes a.outermost.name b.outermost.name ∧
        ¬ Overtakes b.outermost.name a.outermost.name := ⟨fun _ _ => And.symm⟩
    have hself : ∀ name : Option String, ¬ Overtakes name name := fun name =>
      not_overtakes_of_nameLe ((isOrder_nameLe.total name name).elim id id)
    exact (hneither.forall_of_forall (fun _ _ => ⟨hself _, hself _⟩) (hmem.mpr htype)
      (hmem.mpr hother)).1
  · intro hnone
    refine hsorted.imp_of_mem fun ha hb hle => ?_
    exact (bulletText_le_iff hle).mpr (hnone _ (hmem.mp hb) _ (hmem.mp ha))

/-- **Names between backticks are in order unless one overtakes another.** The section of a type
that stands for others ends with a list of them, under a heading. There is a bullet for each of
them, with its name between backticks, and the bullets are in the order of their texts. That is the
order of the names, with the missing ones first, exactly if no name in the list goes on from another
one with a character before the backtick. -/
theorem implementedBy_inNameOrder_iff (entry : TypeEntry) :
    typeSection { entry with possibleTypes := some types } =
        typeSection { entry with possibleTypes := none } ++
          (Markdown.heading 3 "Implemented by" ++ Markdown.bullets (implementedBy types)) ∧
      (implementedBy types).Perm (types.map fun type => bulletText type.outermost.name) ∧
      (implementedBy types).Pairwise (· ≤ ·) ∧
      (implementedBy types = implementedByName types ↔
        ∀ type ∈ types, ∀ other ∈ types,
          ¬ Overtakes type.outermost.name other.outermost.name) := by
  have hsection : typeSection { entry with possibleTypes := some types } =
      typeSection { entry with possibleTypes := none } ++
        (Markdown.heading 3 "Implemented by" ++ Markdown.bullets (implementedBy types)) := by
    simp only [typeSection, shown, Option.map_none, Option.getD_none, String.append_empty]
    rfl
  refine ⟨hsection, implementedBy_perm types, pairwise_implementedBy types, ?_⟩
  rw [← pairwise_implementedByName_iff]
  constructor
  · intro heq
    exact heq ▸ pairwise_implementedBy types
  · intro hordered
    have hperm := (implementedBy_perm types).trans (implementedByName_perm types).symm
    exact hperm.eq_of_pairwise (fun _ _ _ _ => String.le_antisymm) (pairwise_implementedBy types)
      hordered

/-- An interface that stands for types with these names. -/
def interfaceOf (names : List String) : TypeEntry :=
  { name := some "Node", kind := some "INTERFACE", description := none, fields := none
    inputs := none, interfaces := none, enumValues := none
    possibleTypes := some (names.map fun name => .leaf ⟨some name, none⟩) }

/-- A name that goes on with an upper case letter stands before the name it goes on from. -/
theorem longer_name_first :
    typeSection (interfaceOf ["User", "UserAdmin"]) =
        "## <a name=\"node\"></a>Node\n\n### Implemented by\n\n* `UserAdmin`\n* `User`\n\n" ∧
      implementedBy [.leaf ⟨some "User", none⟩, .leaf ⟨some "UserAdmin", none⟩] ≠
        implementedByName [.leaf ⟨some "User", none⟩, .leaf ⟨some "UserAdmin", none⟩] := by
  decide +kernel

end SchemaPages.Pages
