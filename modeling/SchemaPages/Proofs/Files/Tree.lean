import SchemaPages.Files.Tree

/-!
# Reading after writing

A path is followed through directories only, so where it leads depends on nothing else in the tree
(`follow_of_keeps`), and the place is the one that the segments alone determine (`locate_eq`).
Writing a file replaces no directory. So every path leads where it led before, a file reads back
what has been written to it (`read_write_self`), and a file at another place reads as before
(`at?_write_of_ne`, `read_of_keeps`). Writing what a file holds already changes nothing at all
(`write_of_read`).
-/

namespace SchemaPages.Files.Tree

variable {tree before after : Tree} {working start location : Location} {path other : Path}
  {segments : List String} {content : Text.Bytes}

/-- Every directory of the first tree is a directory of the second. -/
def KeepsDirectories (before after : Tree) : Prop :=
  ∀ location, before.at? location = some .directory → after.at? location = some .directory

theorem KeepsDirectories.refl (tree : Tree) : KeepsDirectories tree tree :=
  fun _ h => h

theorem KeepsDirectories.trans {middle : Tree} (h : KeepsDirectories before middle)
    (h' : KeepsDirectories middle after) : KeepsDirectories before after :=
  fun location hlocation => h' location (h location hlocation)

/-- Only a place that is no directory is replaced by a file. -/
theorem keepsDirectories_put (h : tree.at? location ≠ some .directory) :
    KeepsDirectories tree (tree.put location (.file content)) := by
  intro place hplace
  have hne : place ≠ location := fun heq => h (heq ▸ hplace)
  rw [at?_put_of_ne tree hne]
  exact hplace

/-! ### Following a path -/

/-- A step succeeds from a directory along a name that is not too long. -/
theorem follow_cons_eq_ok_iff {segment : String} :
    tree.follow start (segment :: segments) = .ok location ↔
      tree.at? start = some .directory ∧ (Text.Utf8.encode segment).length ≤ maxNameLength ∧
        tree.follow (Path.step start segment) segments = .ok location := by
  rw [follow]
  rcases tree.at? start with _ | _ | _
  · simp
  · simp
  · by_cases hlong : maxNameLength < (Text.Utf8.encode segment).length
    · simp [hlong, Nat.not_le.mpr hlong]
    · simp [hlong, Nat.not_lt.mp hlong]

theorem follow_eq (h : tree.follow start segments = .ok location) :
    segments.foldl Path.step start = location := by
  induction segments generalizing start with
  | nil => exact Except.ok.inj h
  | cons segment rest ih => exact ih (follow_cons_eq_ok_iff.mp h).2.2

/-- Segments lead to the same place where all directories are still there. -/
theorem follow_of_keeps (hkeeps : KeepsDirectories before after)
    (h : before.follow start segments = .ok location) :
    after.follow start segments = .ok location := by
  induction segments generalizing start with
  | nil => exact h
  | cons segment rest ih =>
    obtain ⟨hstart, hlength, hrest⟩ := follow_cons_eq_ok_iff.mp h
    exact follow_cons_eq_ok_iff.mpr ⟨hkeeps start hstart, hlength, ih hrest⟩

theorem locate_eq_ok_iff :
    tree.locate working path = .ok location ↔
      isTooLong path.text = false ∧
        tree.follow (if path.isAbsolute then [] else working) path.segments = .ok location := by
  rw [locate]
  cases isTooLong path.text <;> simp

/-- A path that can be followed leads where its segments say. -/
theorem locate_eq (h : tree.locate working path = .ok location) :
    path.locate working = location :=
  follow_eq (locate_eq_ok_iff.mp h).2

theorem locate_of_keeps (hkeeps : KeepsDirectories before after)
    (h : before.locate working path = .ok location) : after.locate working path = .ok location := by
  obtain ⟨hlength, hfollow⟩ := locate_eq_ok_iff.mp h
  exact locate_eq_ok_iff.mpr ⟨hlength, follow_of_keeps hkeeps hfollow⟩

/-! ### Reading and writing -/

theorem read_eq_ok_iff :
    tree.read working path = .ok content ↔
      ∃ location, tree.locate working path = .ok location ∧
        tree.at? location = some (.file content) := by
  rw [read, entry]
  rcases tree.locate working path with cause | location
  · simp [bind, Except.bind]
  · rcases hentry : tree.at? location with _ | _ | _ <;>
      simp [bind, Except.bind, pure, Except.pure, throw, throwThe, MonadExceptOf.throw, hentry]

/-- What can be read is a file. -/
theorem status_of_read (h : tree.read working path = .ok content) :
    tree.status working path = .ok .file := by
  obtain ⟨location, hlocate, hfile⟩ := read_eq_ok_iff.mp h
  rw [status, entry, hlocate]
  simp only [bind, Except.bind, hfile]
  rfl

/-- A file can be read. -/
theorem exists_read_of_status (h : tree.status working path = .ok .file) :
    ∃ content, tree.read working path = .ok content := by
  rw [status] at h
  rcases hentry : tree.entry working path with cause | content | _ <;> rw [hentry] at h <;> cases h
  exact ⟨content, by rw [read, hentry]; rfl⟩

/-- A directory cannot be read. -/
theorem read_of_status_directory (h : tree.status working path = .ok .directory) :
    tree.read working path = .error .isDirectory := by
  rw [status] at h
  rcases hentry : tree.entry working path with cause | content | _ <;> rw [hentry] at h <;> cases h
  rw [read, hentry]
  rfl

theorem write_eq_ok_iff :
    before.write working path content = .ok after ↔
      ∃ location, before.locate working path = .ok location ∧
        before.at? location ≠ some .directory ∧ after = before.put location (.file content) := by
  rw [write]
  rcases before.locate working path with cause | location
  · simp [bind, Except.bind]
  · rcases hentry : before.at? location with _ | _ | _ <;>
      simp [bind, Except.bind, pure, Except.pure, throw, throwThe, MonadExceptOf.throw, hentry,
        eq_comm]

theorem keepsDirectories_write (h : before.write working path content = .ok after) :
    KeepsDirectories before after := by
  obtain ⟨location, -, hfree, rfl⟩ := write_eq_ok_iff.mp h
  exact keepsDirectories_put hfree

/-- A file reads back what has been written to it. -/
theorem read_write_self (h : before.write working path content = .ok after) :
    after.read working path = .ok content := by
  have hkeeps := keepsDirectories_write h
  obtain ⟨location, hlocate, hfree, rfl⟩ := write_eq_ok_iff.mp h
  have hroot : location ≠ [] := fun heq => hfree (by simp [heq, at?])
  exact read_eq_ok_iff.mpr
    ⟨location, locate_of_keeps hkeeps hlocate, at?_put_self before hroot _⟩

/-- Writing a file changes nothing at another place. -/
theorem at?_write_of_ne (h : before.write working path content = .ok after)
    (hne : location ≠ path.locate working) : after.at? location = before.at? location := by
  obtain ⟨written, hlocate, -, rfl⟩ := write_eq_ok_iff.mp h
  rw [locate_eq hlocate] at hne
  exact at?_put_of_ne before hne _

/-- A file reads as before as long as nothing else is written at its place. -/
theorem read_of_keeps (hkeeps : KeepsDirectories before after)
    (hplace : after.at? (path.locate working) = before.at? (path.locate working))
    (h : before.read working path = .ok content) : after.read working path = .ok content := by
  obtain ⟨location, hlocate, hfile⟩ := read_eq_ok_iff.mp h
  rw [locate_eq hlocate] at hplace
  exact read_eq_ok_iff.mpr ⟨location, locate_of_keeps hkeeps hlocate, hplace.trans hfile⟩

/-! ### A new file -/

/-- Whether the only difference between two trees is a file that is new in the second one. -/
structure AddsFile (before after : Tree) (location : Location) (content : Text.Bytes) : Prop where
  missing : before.at? location = none
  file : after.at? location = some (.file content)
  others : ∀ other, other ≠ location → after.at? other = before.at? other

/-- A new file leaves alone what is there. -/
theorem AddsFile.kept (h : AddsFile before after location content) {entry : Entry}
    {place : Location} (hplace : before.at? place = some entry) :
    after.at? place = some entry := by
  have hne : place ≠ location := by
    rintro rfl
    rw [h.missing] at hplace
    cases hplace
  rw [h.others place hne, hplace]

/-- Writing where nothing is adds a file. -/
theorem addsFile_write (h : before.write working path content = .ok after)
    (hmissing : ∀ kind, before.status working path ≠ .ok kind) :
    AddsFile before after (path.locate working) content := by
  obtain ⟨location, hlocate, hfree, rfl⟩ := write_eq_ok_iff.mp h
  rw [locate_eq hlocate]
  have hnone : before.at? location = none := by
    rcases hentry : before.at? location with _ | entry
    · rfl
    · refine absurd ?_ (hmissing entry.kind)
      rw [status, Tree.entry, hlocate]
      simp only [bind, Except.bind, hentry]
      rfl
  have hroot : location ≠ [] := fun heq => hfree (by simp [heq, at?])
  exact ⟨hnone, at?_put_self before hroot _, fun other hne => at?_put_of_ne before hne _⟩

/-! ### Writing what is there -/

/-- Putting what is there already changes nothing. -/
theorem put_of_at? {entry : Entry} (hroot : location ≠ []) (h : tree.at? location = some entry) :
    tree.put location entry = tree := by
  rw [at?, if_neg hroot] at h
  rw [put, Pairs.insert_of_lookup h]

/-- Writing what a file holds already changes nothing. -/
theorem write_of_read (h : tree.read working path = .ok content) :
    tree.write working path content = .ok tree := by
  obtain ⟨location, hlocate, hfile⟩ := read_eq_ok_iff.mp h
  have hroot : location ≠ [] := fun heq => by simp [heq, at?] at hfile
  refine write_eq_ok_iff.mpr ⟨location, hlocate, ?_, (put_of_at? hroot hfile).symm⟩
  rw [hfile]
  rintro ⟨⟩

end SchemaPages.Files.Tree
