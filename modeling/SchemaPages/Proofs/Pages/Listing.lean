import SchemaPages.Proofs.Pages.NameOrder
import SchemaPages.Proofs.Pages.Sections

/-!
# Lists by name

Types and members are listed by name: those without a name first, then those with the empty name,
then the others by the code points of their names. Entries that share a name, or have none, keep the
order they come in. `ListsByName` says this of a list without saying how it is made. The entries of
a list can be listed in exactly one such way, since their names settle how those with different
names stand and their old order settles the rest; sorting by name does it (`listsByName_iff`). The
tables of a section have one row for each entry of this list (`tables_list_by_name`).
-/

namespace SchemaPages.Pages

/-! ### Code points -/

/-- The code points of a text. -/
def codePoints (text : String) : List Nat :=
  text.toList.map Char.toNat

/-- Whether a text is another one or comes before it by its code points. -/
def CodePointLe (first second : String) : Prop :=
  first = second ∨ List.Lex (· < ·) (codePoints first) (codePoints second)

theorem lex_map_toNat_iff {first second : List Char} :
    List.Lex (· < ·) (first.map Char.toNat) (second.map Char.toNat) ↔
      List.Lex (· < ·) first second := by
  induction first generalizing second with
  | nil =>
    cases second with
    | nil => exact iff_of_false List.not_lex_nil List.not_lex_nil
    | cons d second => exact iff_of_true .nil .nil
  | cons c first ih =>
    cases second with
    | nil => exact iff_of_false List.not_lex_nil List.not_lex_nil
    | cons d second =>
      rw [List.map_cons, List.map_cons, List.cons_lex_cons_iff, List.cons_lex_cons_iff, ih,
        Char.toNat_inj]
      exact Iff.rfl

theorem codePointLe_iff {first second : String} : CodePointLe first second ↔ first ≤ second := by
  rw [CodePointLe, codePoints, codePoints, lex_map_toNat_iff]
  constructor
  · rintro (rfl | hlt)
    · exact String.le_refl first
    · exact String.not_lt.mp (String.lt_asymm hlt)
  · intro hle
    by_cases heq : first = second
    · exact .inl heq
    · exact .inr (String.not_le.mp fun hge => heq (String.le_antisymm hle hge))

/-- Only the empty text stands before the empty text. -/
theorem eq_empty_of_codePointLe {text : String} (h : CodePointLe text "") : text = "" :=
  h.resolve_right List.not_lex_nil

/-! ### The order of a list -/

section

variable {α : Type} {name : α → Option String} {entries sorted : List α}

/-- Whether a list has the entries of another one by name. -/
structure ListsByName (name : α → Option String) (entries sorted : List α) : Prop where
  perm : sorted.Perm entries
  /-- Entries without a name stand in front of all that have one. -/
  unnamed_first : sorted.Pairwise fun a b => name b = none → name a = none
  /-- Only entries without a name stand in front of those with the empty name. -/
  empty_next : sorted.Pairwise fun a b => name b = some "" → name a = none ∨ name a = some ""
  /-- Names are in the order of their code points. -/
  ascending : sorted.Pairwise fun a b =>
    ∀ first ∈ name a, ∀ second ∈ name b, CodePointLe first second
  /-- Entries with the same name, or without one, keep the order they come in. -/
  stable : ∀ shared : Option String,
    sorted.filter (name · = shared) = entries.filter (name · = shared)

/-- What it takes for a name to stand before another one. -/
theorem nameLe_iff {name other : Option String} :
    nameLe name other = true ↔ (other = none → name = none) ∧
      ∀ first ∈ name, ∀ second ∈ other, CodePointLe first second := by
  cases name with
  | none => simp [nameLe]
  | some first =>
    cases other with
    | none => simp [nameLe]
    | some second => simp [nameLe, codePointLe_iff]

theorem ListsByName.pairwise_nameLe (h : ListsByName name entries sorted) :
    sorted.Pairwise fun a b => nameLe (name a) (name b) = true :=
  (h.unnamed_first.and h.ascending).imp nameLe_iff.mpr

/-- Sorting by name lists the entries by name. -/
theorem listsByName_sortedByName (name : α → Option String) (entries : List α) :
    ListsByName name entries (sortedByName name entries) := by
  have hsorted : (sortedByName name entries).Pairwise
      fun a b => nameLe (name a) (name b) = true :=
    pairwise_sortedBy (isOrder_nameLe.comap name) entries
  have horder := hsorted.imp nameLe_iff.mp
  refine ⟨sortedBy_perm _ entries, horder.imp And.left, horder.imp ?_, horder.imp And.right, ?_⟩
  · -- A name in front of the empty one is not greater than it.
    intro a b ⟨_, hascending⟩ hempty
    cases hname : name a with
    | none => exact .inl rfl
    | some text =>
      exact .inr (congrArg some (eq_empty_of_codePointLe (hascending text hname "" hempty)))
  · intro shared
    refine filter_sortedBy (fun a b ha hb => ?_) entries
    rw [of_decide_eq_true ha, of_decide_eq_true hb]
    exact (isOrder_nameLe.total shared shared).elim id id

/-- There is one way to list entries by name. -/
theorem listsByName_iff :
    ListsByName name entries sorted ↔ sorted = sortedByName name entries := by
  constructor
  · intro h
    have hsorted := listsByName_sortedByName name entries
    have hanti : ∀ a b, nameLe (name a) (name b) = true → nameLe (name b) (name a) = true →
        name a = name b := fun _ _ => nameLe_antisymm
    exact eq_of_pairwise_of_filter_eq hanti h.pairwise_nameLe hsorted.pairwise_nameLe
      (h.perm.trans hsorted.perm.symm)
      fun shared => (h.stable shared).trans (hsorted.stable shared).symm
  · rintro rfl
    exact listsByName_sortedByName name entries

example :
    sortedByName Prod.fst
      [(some "b", 0), (some "", 1), (none, 2), (some "B", 3), (some "b", 4), (none, 5)] =
      [(none, 2), (none, 5), (some "", 1), (some "B", 3), (some "b", 0), (some "b", 4)] := by
  decide +kernel

theorem rel_map_sortedByName (name : α → Option String) (entries : Option (List α)) :
    Option.Rel (ListsByName name) entries (entries.map (sortedByName name)) := by
  cases entries with
  | none => exact .none
  | some list => exact .some (listsByName_sortedByName name list)

end

/-! ### Tables -/

/-- **Tables list members by name.** Sorting entries by name puts those without a name first, then
those with the empty name, then the others by the code points of their names, and leaves entries
that share a name, or have none, in their order; there is no other list of the entries of which this
is true. The tables for the fields, inputs and values of a type and for the arguments of a field
have one row for each entry of such a list. -/
theorem tables_list_by_name (entry : TypeEntry) (field : Field) :
    (∀ {α : Type} (name : α → Option String) (entries sorted : List α),
      ListsByName name entries sorted ↔ sorted = sortedByName name entries) ∧
    (∃ fields inputs values,
      Option.Rel (ListsByName Field.name) entry.fields fields ∧
      Option.Rel (ListsByName Input.name) entry.inputs inputs ∧
      Option.Rel (ListsByName EnumValue.name) entry.enumValues values ∧
      typeSection entry =
        shown entry.name (fun name => Markdown.heading 2 (Markdown.anchored name)) ++
        shown entry.description Markdown.blockQuote ++
        shown fields (fun fields => Markdown.heading 3 "Fields" ++
          Markdown.table fieldHeaders (fields.map fieldCells)) ++
        shown inputs (fun inputs => Markdown.heading 3 "Inputs" ++
          Markdown.table inputHeaders (inputs.map inputCells)) ++
        shown values (fun values => Markdown.heading 3 "Values" ++
          Markdown.table enumValueHeaders (values.map enumValueCells)) ++
        shown entry.possibleTypes (fun types =>
          Markdown.heading 3 "Implemented by" ++ implementations types)) ∧
    ∃ args, ListsByName Input.name (field.args.getD []) args ∧
      operationField field =
        shown field.name (Markdown.heading 2) ++
        (if field.isDeprecated then Markdown.notice "Deprecated" else "") ++
        shown field.description Markdown.blockQuote ++
        shown field.type (fun type => Markdown.label "Type" (linkedType (some type))) ++
        if args = [] then ""
        else Markdown.heading 3 "Arguments" ++
          Markdown.table inputHeaders (args.map inputCells) := by
  refine ⟨fun _ _ _ => listsByName_iff, ?_, ?_⟩
  · refine ⟨_, _, _, rel_map_sortedByName Field.name entry.fields,
      rel_map_sortedByName Input.name entry.inputs,
      rel_map_sortedByName EnumValue.name entry.enumValues, ?_⟩
    rw [shown_map (fun _ => rfl) entry.fields, shown_map (fun _ => rfl) entry.inputs,
      shown_map (fun _ => rfl) entry.enumValues]
    rfl
  · refine ⟨_, listsByName_sortedByName Input.name (field.args.getD []), ?_⟩
    rw [operationField]
    rcases field.args with _ | _ | ⟨arg, args⟩
    · rfl
    · rfl
    · have hne : sortedByName Input.name (arg :: args) ≠ [] :=
        List.ne_nil_of_mem (mem_sortedBy.mpr List.mem_cons_self)
      rw [Option.getD_some, if_neg hne]
      rfl

end SchemaPages.Pages
