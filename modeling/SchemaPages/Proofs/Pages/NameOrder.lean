import Mathlib.Data.List.Nodup
import SchemaPages.Pages.Document

/-!
# Sorted lists

Where an order is total and transitive, `sortedBy` puts every entry in front of all those that must
not stand before it (`pairwise_sortedBy`). If only equal entries may stand in either order, there is
one such list for the same entries, so the order before sorting does not matter
(`sortedBy_eq_of_perm`); entries with distinct names and texts are sorted in this way. Documents
with different names stand in strictly ascending order (`pairwise_names_inNameOrder`), and leaving
out some of them keeps that order.
-/

namespace SchemaPages.Pages

section

variable {α : Type} {le : α → α → Bool} {entry : α} {entries : List α}

/-- Whether any two entries may stand in one order or the other, and the order goes on through a
third entry. -/
structure IsOrder (le : α → α → Bool) : Prop where
  total : ∀ a b, le a b = true ∨ le b a = true
  trans : ∀ {a b c}, le a b = true → le b c = true → le a c = true

/-- An order of images. -/
theorem IsOrder.comap {β : Type} (hle : IsOrder le) (f : β → α) :
    IsOrder (fun a b => le (f a) (f b)) :=
  ⟨fun a b => hle.total (f a) (f b), hle.trans⟩

theorem isOrder_texts : IsOrder (fun a b : String => decide (a ≤ b)) where
  total a b := by simpa only [decide_eq_true_eq] using String.le_total a b
  trans hab hbc := by
    simp only [decide_eq_true_eq] at hab hbc ⊢
    exact String.le_trans hab hbc

theorem pairwise_insertBy (hle : IsOrder le) (h : entries.Pairwise (le · ·)) :
    (insertBy le entry entries).Pairwise (le · ·) := by
  induction entries with
  | nil => exact List.pairwise_singleton _ entry
  | cons other rest ih =>
    obtain ⟨hother, hrest⟩ := List.pairwise_cons.mp h
    rw [insertBy]
    split
    case isTrue hentry =>
      refine List.pairwise_cons.mpr ⟨fun x hx => ?_, h⟩
      rcases List.mem_cons.mp hx with rfl | hx
      · exact hentry
      · exact hle.trans hentry (hother x hx)
    case isFalse hentry =>
      refine List.pairwise_cons.mpr ⟨fun x hx => ?_, ih hrest⟩
      rcases mem_insertBy.mp hx with rfl | hx
      · exact (hle.total other x).resolve_right hentry
      · exact hother x hx

/-- In a sorted list every entry may stand before all that follow. -/
theorem pairwise_sortedBy (hle : IsOrder le) (entries : List α) :
    (sortedBy le entries).Pairwise (le · ·) := by
  induction entries with
  | nil => exact List.Pairwise.nil
  | cons entry rest ih =>
    rw [sortedBy]
    exact pairwise_insertBy hle ih

/-- Where only equal entries may stand in either order, the sorted list depends on the entries
alone. -/
theorem sortedBy_eq_of_perm {others : List α} (hle : IsOrder le)
    (hanti : ∀ a ∈ entries, ∀ b ∈ entries, le a b = true → le b a = true → a = b)
    (hperm : entries.Perm others) : sortedBy le entries = sortedBy le others := by
  have hsorted : (sortedBy le entries).Perm (sortedBy le others) :=
    (sortedBy_perm le entries).trans (hperm.trans (sortedBy_perm le others).symm)
  refine hsorted.eq_of_pairwise (fun a b ha hb => ?_) (pairwise_sortedBy hle entries)
    (pairwise_sortedBy hle others)
  exact hanti a (mem_sortedBy.mp ha) b (hperm.mem_iff.mpr (mem_sortedBy.mp hb))

/-- Where an entry may stand before all that are kept with it, it becomes the first of them. -/
theorem filter_insertBy {keep : α → Bool}
    (h : ∀ other, keep entry → keep other → le entry other = true) (entries : List α) :
    (insertBy le entry entries).filter keep = (entry :: entries).filter keep := by
  induction entries with
  | nil => rfl
  | cons other rest ih =>
    rw [insertBy]
    split
    case isTrue => rfl
    case isFalse hpassed =>
      by_cases hentry : keep entry
      · -- An entry that is passed may not follow, so it is not kept.
        have hother : ¬ keep other := fun hother => hpassed (h other hentry hother)
        rw [List.filter_cons_of_neg hother, ih, List.filter_cons_of_pos hentry,
          List.filter_cons_of_pos hentry, List.filter_cons_of_neg hother]
      · rw [List.filter_cons_of_neg hentry] at ih ⊢
        rw [List.filter_cons, List.filter_cons, ih]

/-- Entries of which any two may stand in either order keep the order they come in. -/
theorem filter_sortedBy {keep : α → Bool} (h : ∀ a b, keep a → keep b → le a b = true)
    (entries : List α) : (sortedBy le entries).filter keep = entries.filter keep := by
  induction entries with
  | nil => rfl
  | cons entry rest ih =>
    rw [sortedBy, filter_insertBy (h entry), List.filter_cons, List.filter_cons, ih]

/-- If entries that may stand in either order share a key, a sorted list is determined by its
entries and by the order of those with the same key. -/
theorem eq_of_pairwise_of_filter_eq {κ : Type} [DecidableEq κ] {key : α → κ} {others : List α}
    (hanti : ∀ a b, le a b = true → le b a = true → key a = key b)
    (hentries : entries.Pairwise (le · ·)) (hothers : others.Pairwise (le · ·))
    (hperm : entries.Perm others)
    (hkept : ∀ k, entries.filter (key · = k) = others.filter (key · = k)) : entries = others := by
  induction entries generalizing others with
  | nil => exact hperm.nil_eq
  | cons first rest ih =>
    cases others with
    | nil => exact hperm.eq_nil
    | cons other remaining =>
      obtain ⟨hfirst, hrest⟩ := List.pairwise_cons.mp hentries
      obtain ⟨hother, hremaining⟩ := List.pairwise_cons.mp hothers
      -- Each of the two may stand before all entries, so they share a key, and both are the first
      -- entry with it.
      have hkey : key first = key other := by
        rcases List.mem_cons.mp (hperm.mem_iff.mp List.mem_cons_self) with heq | hmem
        · rw [heq]
        rcases List.mem_cons.mp (hperm.mem_iff.mpr List.mem_cons_self) with heq | hmem'
        · rw [heq]
        exact hanti first other (hfirst other hmem') (hother first hmem)
      have heq : first = other := by
        have hboth := hkept (key first)
        rw [List.filter_cons_of_pos (by simp), List.filter_cons_of_pos (by simp [hkey])] at hboth
        exact (List.cons.inj hboth).1
      subst heq
      refine congrArg (first :: ·) (ih hrest hremaining hperm.cons_inv fun k => ?_)
      have hboth := hkept k
      by_cases hk : key first = k
      · rw [List.filter_cons_of_pos (by simpa using hk),
          List.filter_cons_of_pos (by simpa using hk)] at hboth
        exact (List.cons.inj hboth).2
      · rwa [List.filter_cons_of_neg (by simpa using hk),
          List.filter_cons_of_neg (by simpa using hk)] at hboth

variable {β : Type}

theorem map_insertBy (f : β → α) (entry : β) (entries : List β) :
    (insertBy (fun a b => le (f a) (f b)) entry entries).map f =
      insertBy le (f entry) (entries.map f) := by
  induction entries with
  | nil => rfl
  | cons other rest ih =>
    rw [List.map_cons, insertBy, insertBy]
    split
    · rfl
    · rw [List.map_cons, ih]

/-- Images can be taken before sorting if the order looks at the images only. -/
theorem map_sortedBy (f : β → α) (entries : List β) :
    (sortedBy (fun a b => le (f a) (f b)) entries).map f = sortedBy le (entries.map f) := by
  induction entries with
  | nil => rfl
  | cons entry rest ih => rw [List.map_cons, sortedBy, sortedBy, map_insertBy, ih]

end

/-! ### Entries in the order of their names -/

section

variable {α : Type} {name : α → Option String} {entries others : List α}

theorem isOrder_nameLe : IsOrder nameLe where
  total a b := by
    cases a with
    | none => exact .inl rfl
    | some first =>
      cases b with
      | none => exact .inr rfl
      | some second => exact isOrder_texts.total first second
  trans {a b c} hab hbc := by
    cases a with
    | none => rfl
    | some first =>
      cases b with
      | none => simp [nameLe] at hab
      | some second =>
        cases c with
        | none => simp [nameLe] at hbc
        | some third => exact isOrder_texts.trans hab hbc

theorem nameLe_antisymm {a b : Option String} (hab : nameLe a b = true)
    (hba : nameLe b a = true) : a = b := by
  cases a <;> cases b <;> simp only [nameLe, decide_eq_true_eq, Bool.false_eq_true] at hab hba
  · rfl
  · exact congrArg some (String.le_antisymm hab hba)

/-- Entries with distinct names, of which one may be missing, are sorted in one way only. -/
theorem sortedByName_eq_of_perm (hnodup : (entries.map name).Nodup) (hperm : entries.Perm others) :
    sortedByName name entries = sortedByName name others := by
  refine sortedBy_eq_of_perm (isOrder_nameLe.comap name) (fun a ha b hb hab hba => ?_) hperm
  exact List.inj_on_of_nodup_map hnodup ha hb (nameLe_antisymm hab hba)

/-- Entries that are sorted and shown count only by their names and by what is shown of them. -/
theorem map_sortedByName_eq {β : Type} (name : α → Option String) (f : α → β) (entries : List α) :
    (sortedByName name entries).map f =
      (sortedByName Prod.fst (entries.map fun entry => (name entry, f entry))).map Prod.snd := by
  rw [sortedByName, sortedByName, ← map_sortedBy, List.map_map]
  rfl

/-- Sorting entries and showing each of them gives the same after a change that affects neither the
names nor what is shown. -/
theorem map_sortedByName_map {β : Type} {change : α → α} {f : α → β}
    (hname : ∀ entry, name (change entry) = name entry) (hf : ∀ entry, f (change entry) = f entry)
    (entries : List α) :
    (sortedByName name (entries.map change)).map f = (sortedByName name entries).map f := by
  have hpairs : (entries.map change).map (fun entry => (name entry, f entry)) =
      entries.map fun entry => (name entry, f entry) := by
    rw [List.map_map]
    exact List.map_congr_left fun entry _ => Prod.ext (hname entry) (hf entry)
  rw [map_sortedByName_eq, hpairs, ← map_sortedByName_eq]

end

theorem sortedTexts_eq_of_perm {texts others : List String} (hperm : texts.Perm others) :
    sortedTexts texts = sortedTexts others := by
  refine sortedBy_eq_of_perm isOrder_texts (fun a _ b _ hab hba => ?_) hperm
  exact String.le_antisymm (of_decide_eq_true hab) (of_decide_eq_true hba)

/-! ### Documents in the order of their names -/

variable {documents : Documents}

theorem nodup_names_inNameOrder (h : (documents.map Prod.fst).Nodup) :
    ((inNameOrder documents).map Prod.fst).Nodup :=
  ((sortedBy_perm _ documents).map Prod.fst).nodup_iff.mpr h

/-- Documents with different names stand in strictly ascending order. -/
theorem pairwise_names_inNameOrder (h : (documents.map Prod.fst).Nodup) :
    ((inNameOrder documents).map Prod.fst).Pairwise (· < ·) := by
  have hsorted : ((inNameOrder documents).map Prod.fst).Pairwise (· ≤ ·) := by
    have hpairwise := pairwise_sortedBy (isOrder_texts.comap Prod.fst) documents
    refine List.pairwise_map.mpr (hpairwise.imp fun hle => ?_)
    exact of_decide_eq_true hle
  refine (hsorted.and (nodup_names_inNameOrder h)).imp fun ⟨hle, hne⟩ => ?_
  exact String.not_le.mp fun hge => hne (String.le_antisymm hle hge)

/-- Leaving out documents without content keeps the order. -/
theorem pairwise_names_nonEmpty (h : (documents.map Prod.fst).Nodup) :
    ((nonEmpty (inNameOrder documents)).map Prod.fst).Pairwise (· < ·) :=
  (pairwise_names_inNameOrder h).sublist (List.filter_sublist.map Prod.fst)

end SchemaPages.Pages
