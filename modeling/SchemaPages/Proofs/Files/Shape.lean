import SchemaPages.Proofs.Files.Directories

/-!
# Trees of the same shape

Two trees have the same shape if they have a file, a directory or nothing at the same places,
whatever is in the files. Paths lead to the same places in both, and every operation that changes a
tree succeeds in both or fails in both for the same reason (`newPlace_eq`, `filePlace_eq`). So an
operation changes both in the same way: at each place either both are as they were, or both are the
same afterwards (`ChangedAlike`).
-/

namespace SchemaPages.Files.Tree

variable {tree other before after : Tree} {working location : Location} {path : Path}

/-- Whether two trees have the same kinds of entries at the same places. -/
def SameShape (tree other : Tree) : Prop :=
  ∀ location, (tree.at? location).map Entry.kind = (other.at? location).map Entry.kind

theorem SameShape.refl (tree : Tree) : SameShape tree tree :=
  fun _ => rfl

theorem at?_put (tree : Tree) (location place : Location) (entry : Entry) :
    (tree.put place entry).at? location =
      if location = [] then some .directory else if location = place then some entry
      else tree.at? location := by
  split
  · next hroot => rw [at?, if_pos hroot]
  · next hroot =>
    split
    · next hplace =>
      subst hplace
      exact at?_put_self tree hroot entry
    · next hne => exact at?_put_of_ne tree hne entry

/-- Entries of the same kind may be put at the same place. -/
theorem SameShape.put (h : SameShape tree other) (place : Location) {first second : Entry}
    (hkind : first.kind = second.kind) :
    SameShape (tree.put place first) (other.put place second) := by
  intro location
  rw [at?_put, at?_put]
  split
  · rfl
  · split
    · exact congrArg some hkind
    · exact h location

namespace SameShape

/-- At each place there is nothing, a file, or a directory in both trees. -/
theorem cases (h : SameShape tree other) (location : Location) :
    (tree.at? location = none ∧ other.at? location = none) ∨
      (∃ content content', tree.at? location = some (.file content) ∧
        other.at? location = some (.file content')) ∨
      (tree.at? location = some .directory ∧ other.at? location = some .directory) := by
  have hkind := h location
  rcases htree : tree.at? location with _ | _ | _ <;>
    rcases hother : other.at? location with _ | _ | _ <;>
    simp [htree, hother, Entry.kind] at hkind ⊢

/-- Segments lead to the same place, or fail for the same reason. -/
theorem follow_eq (h : SameShape tree other) (start : Location) (segments : List String) :
    tree.follow start segments = other.follow start segments := by
  induction segments generalizing start with
  | nil => rfl
  | cons segment rest ih =>
    rw [follow, follow, ih]
    rcases h.cases start with ⟨htree, hother⟩ | ⟨_, _, htree, hother⟩ | ⟨htree, hother⟩ <;>
      simp only [htree, hother]

theorem locate_eq (h : SameShape tree other) (working : Location) (path : Path) :
    tree.locate working path = other.locate working path := by
  rw [locate, locate, h.follow_eq]

theorem status_eq (h : SameShape tree other) (working : Location) (path : Path) :
    tree.status working path = other.status working path := by
  rw [status, status, entry, entry, h.locate_eq]
  rcases other.locate working path with cause | place
  · rfl
  · simp only [bind, Except.bind]
    rcases h.cases place with ⟨htree, hother⟩ | ⟨_, _, htree, hother⟩ | ⟨htree, hother⟩ <;>
      simp only [htree, hother]
    -- Two files are left, of which only the kind is asked for.
    rfl

theorem isDirectory_eq (h : SameShape tree other) (working : Location) (path : Path) :
    tree.isDirectory working path = other.isDirectory working path := by
  rw [isDirectory, isDirectory, h.status_eq]

end SameShape

/-! ### Where an operation puts something -/

/-- Where a new directory goes. -/
def newPlace (tree : Tree) (working : Location) (path : Path) : Except Cause Location := do
  let location ← tree.locate working path
  match tree.at? location with
  | some _ => throw .exists
  | none => return location

/-- Where the content of a file goes. -/
def filePlace (tree : Tree) (working : Location) (path : Path) : Except Cause Location := do
  let location ← tree.locate working path
  match tree.at? location with
  | some .directory => throw .isDirectory
  | _ => return location

theorem makeDirectory_eq (tree : Tree) (working : Location) (path : Path) :
    tree.makeDirectory working path =
      (tree.newPlace working path).map fun place => tree.put place .directory := by
  rw [makeDirectory, newPlace]
  rcases tree.locate working path with cause | place
  · rfl
  · simp only [bind, Except.bind]
    cases tree.at? place <;> rfl

theorem write_eq (tree : Tree) (working : Location) (path : Path) (content : Text.Bytes) :
    tree.write working path content =
      (tree.filePlace working path).map fun place => tree.put place (.file content) := by
  rw [write, filePlace]
  rcases tree.locate working path with cause | place
  · rfl
  · simp only [bind, Except.bind]
    rcases tree.at? place with _ | _ | _ <;> rfl

namespace SameShape

theorem newPlace_eq (h : SameShape tree other) (working : Location) (path : Path) :
    tree.newPlace working path = other.newPlace working path := by
  rw [newPlace, newPlace, h.locate_eq]
  rcases other.locate working path with cause | place
  · rfl
  · simp only [bind, Except.bind]
    rcases h.cases place with ⟨htree, hother⟩ | ⟨_, _, htree, hother⟩ | ⟨htree, hother⟩ <;>
      simp only [htree, hother]

theorem filePlace_eq (h : SameShape tree other) (working : Location) (path : Path) :
    tree.filePlace working path = other.filePlace working path := by
  rw [filePlace, filePlace, h.locate_eq]
  rcases other.locate working path with cause | place
  · rfl
  · simp only [bind, Except.bind]
    rcases h.cases place with ⟨htree, hother⟩ | ⟨_, _, htree, hother⟩ | ⟨htree, hother⟩ <;>
      simp only [htree, hother]

end SameShape

/-! ### Changes to both trees -/

/-- Whether two trees of the same shape have come from two others by the same changes: each place is
as before in both of them or the same in both. -/
structure ChangedAlike (before before' after after' : Tree) : Prop where
  shape : SameShape after after'
  places : ∀ location, after.at? location = before.at? location ∧
    after'.at? location = before'.at? location ∨ after.at? location = after'.at? location

namespace ChangedAlike

variable {before' after' : Tree}

theorem refl (h : SameShape before before') : ChangedAlike before before' before before' :=
  ⟨h, fun _ => .inl ⟨rfl, rfl⟩⟩

/-- The same may be put at the same place. -/
theorem put (h : ChangedAlike before before' after after') (place : Location) (entry : Entry) :
    ChangedAlike before before' (after.put place entry) (after'.put place entry) where
  shape := h.shape.put place rfl
  places location := by
    rw [at?_put, at?_put]
    split
    · exact .inr rfl
    · split
      · exact .inr rfl
      · exact h.places location

/-- A file with the same content is written in both, or in neither of them. -/
theorem write (h : ChangedAlike before before' after after') (working : Location) (path : Path)
    (content : Text.Bytes) :
    (∃ cause, after.write working path content = .error cause ∧
        after'.write working path content = .error cause) ∨
      ∃ files files', after.write working path content = .ok files ∧
        after'.write working path content = .ok files' ∧
        ChangedAlike before before' files files' := by
  rw [write_eq, write_eq, h.shape.filePlace_eq]
  cases after'.filePlace working path with
  | error cause => exact .inl ⟨cause, rfl, rfl⟩
  | ok place => exact .inr ⟨_, _, rfl, rfl, h.put place _⟩

/-- One directory is made in both, or in neither of them. -/
theorem makeDirectory (h : ChangedAlike before before' after after') (working : Location)
    (path : Path) :
    (∃ cause, after.makeDirectory working path = .error cause ∧
        after'.makeDirectory working path = .error cause) ∨
      ∃ files files', after.makeDirectory working path = .ok files ∧
        after'.makeDirectory working path = .ok files' ∧
        ChangedAlike before before' files files' := by
  rw [makeDirectory_eq, makeDirectory_eq, h.shape.newPlace_eq]
  cases after'.newPlace working path with
  | error cause => exact .inl ⟨cause, rfl, rfl⟩
  | ok place => exact .inr ⟨_, _, rfl, rfl, h.put place _⟩

theorem orThere (h : ChangedAlike before before' after after') (working : Location) (path : Path) :
    (after.orThere working path (after.makeDirectory working path)).2 =
        (after'.orThere working path (after'.makeDirectory working path)).2 ∧
      ChangedAlike before before'
        (after.orThere working path (after.makeDirectory working path)).1
        (after'.orThere working path (after'.makeDirectory working path)).1 := by
  rcases h.makeDirectory working path with
    ⟨cause, hafter, hafter'⟩ | ⟨files, files', hafter, hafter', hmade⟩ <;> rw [hafter, hafter']
  · simp only [Tree.orThere, h.shape.isDirectory_eq]
    split <;> exact ⟨rfl, h⟩
  · exact ⟨rfl, hmade⟩

theorem makeFrom (h : ChangedAlike before before' after after') (working : Location)
    (origin : Origin) (segments : List String) :
    (Tree.makeFrom working origin segments after).2 =
        (Tree.makeFrom working origin segments after').2 ∧
      ChangedAlike before before' (Tree.makeFrom working origin segments after).1
        (Tree.makeFrom working origin segments after').1 := by
  induction segments with
  | nil => exact h.orThere working ⟨origin, []⟩
  | cons last above ih =>
    have hlast := h.orThere working ⟨origin, (last :: above).reverse⟩
    rw [Tree.makeFrom, Tree.makeFrom]
    rcases h.makeDirectory working ⟨origin, (last :: above).reverse⟩ with
      ⟨cause, hafter, hafter'⟩ | ⟨files, files', hafter, hafter', -⟩ <;>
      simp only [hafter, hafter'] at hlast ⊢
    · cases cause
      case missing =>
        obtain ⟨houtcome, habove⟩ := ih
        rcases hmade : Tree.makeFrom working origin above after with ⟨made, failure | _⟩ <;>
          rcases hmade' : Tree.makeFrom working origin above after' with ⟨made', failure' | _⟩ <;>
          rw [hmade, hmade'] at houtcome habove <;> cases houtcome
        · exact ⟨rfl, habove⟩
        · exact habove.orThere working ⟨origin, (last :: above).reverse⟩
      all_goals exact hlast
    · exact hlast

/-- A directory is made in both of them with the same ancestors, also if that fails. -/
theorem makeDirectories (h : ChangedAlike before before' after after') (working : Location)
    (path : Path) :
    (after.makeDirectories working path).2 = (after'.makeDirectories working path).2 ∧
      ChangedAlike before before' (after.makeDirectories working path).1
        (after'.makeDirectories working path).1 :=
  h.makeFrom working path.origin path.segments.reverse

end ChangedAlike

end SchemaPages.Files.Tree
