import SchemaPages.Proofs.Files.Tree

/-!
# Making directories

Making a directory with all that is missing above it changes nothing but places where nothing was:
places on the way of the path, which are directories afterwards. That holds whether the operation
succeeds or fails half-way (`madeAlong_makeDirectories`). If it succeeds, the path and all its
ancestors are directories (`directory_of_makeDirectories`), and from then on making it changes
nothing (`makeDirectories_of_isDirectory`). The induction is on the segments, the last one first, as
the operation tries them.
-/

namespace SchemaPages.Files

/-- Whether a place is that of a path or of an ancestor of it, reached by its first segments. -/
def Path.LeadsThrough (path : Path) (working location : Location) : Prop :=
  ∃ above, above <+: path.segments ∧ location = Path.locate working ⟨path.origin, above⟩

theorem Path.leadsThrough_self (path : Path) (working : Location) :
    path.LeadsThrough working (path.locate working) :=
  ⟨path.segments, List.prefix_rfl, rfl⟩

/-- What leads through an ancestor leads through the path. -/
theorem Path.LeadsThrough.of_prefix {origin : Origin} {above segments : List String}
    {working location : Location} (hstart : above <+: segments)
    (h : Path.LeadsThrough ⟨origin, above⟩ working location) :
    Path.LeadsThrough ⟨origin, segments⟩ working location := by
  obtain ⟨first, hfirst, hlocation⟩ := h
  exact ⟨first, hfirst.trans hstart, hlocation⟩

namespace Tree

variable {tree before middle after : Tree} {working start location : Location} {path : Path}

/-- Whether two trees differ only in places on the way of a path, where there was nothing and is a
directory now. -/
def MadeAlong (working : Location) (path : Path) (before after : Tree) : Prop :=
  ∀ location, after.at? location ≠ before.at? location →
    before.at? location = none ∧ after.at? location = some .directory ∧
      path.LeadsThrough working location

theorem MadeAlong.refl (working : Location) (path : Path) (tree : Tree) :
    MadeAlong working path tree tree :=
  fun _ h => absurd rfl h

theorem MadeAlong.trans (h : MadeAlong working path before middle)
    (h' : MadeAlong working path middle after) : MadeAlong working path before after := by
  intro location hchanged
  by_cases hmiddle : middle.at? location = before.at? location
  · obtain ⟨hnone, hmade⟩ := h' location (hmiddle ▸ hchanged)
    exact ⟨hmiddle ▸ hnone, hmade⟩
  · obtain ⟨hnone, hdirectory, hthrough⟩ := h location hmiddle
    -- A directory that has been made is not made again.
    have hkept : after.at? location = middle.at? location :=
      Decidable.byContradiction fun hagain => nomatch (h' location hagain).1.symm.trans hdirectory
    exact ⟨hnone, hkept.trans hdirectory, hthrough⟩

theorem MadeAlong.of_prefix {origin : Origin} {above segments : List String}
    (hstart : above <+: segments) (h : MadeAlong working ⟨origin, above⟩ before after) :
    MadeAlong working ⟨origin, segments⟩ before after := by
  intro location hchanged
  obtain ⟨hnone, hmade, hthrough⟩ := h location hchanged
  exact ⟨hnone, hmade, hthrough.of_prefix hstart⟩

theorem MadeAlong.keepsDirectories (h : MadeAlong working path before after) :
    KeepsDirectories before after := by
  intro location hdirectory
  by_cases hsame : after.at? location = before.at? location
  · rw [hsame, hdirectory]
  · exact (h location hsame).2.1

/-! ### One directory -/

theorem isDirectory_iff :
    tree.isDirectory working path = true ↔
      ∃ location, tree.locate working path = .ok location ∧
        tree.at? location = some .directory := by
  rw [isDirectory, status, entry]
  rcases tree.locate working path with cause | location
  · simp [bind, Except.bind, Except.map]
  · rcases hentry : tree.at? location with _ | _ | _ <;>
      simp [bind, Except.bind, pure, Except.pure, throw, throwThe, MonadExceptOf.throw, hentry,
        Except.map, Entry.kind]

theorem makeDirectory_eq_ok_iff :
    before.makeDirectory working path = .ok after ↔
      ∃ location, before.locate working path = .ok location ∧ before.at? location = none ∧
        after = before.put location .directory := by
  rw [makeDirectory]
  rcases before.locate working path with cause | location
  · simp [bind, Except.bind]
  · rcases hentry : before.at? location with _ | _ <;>
      simp [bind, Except.bind, pure, Except.pure, throw, throwThe, MonadExceptOf.throw, hentry,
        eq_comm]

theorem ne_nil_of_at?_eq_none (h : tree.at? location = none) : location ≠ [] := by
  rintro rfl
  simp [at?] at h

/-- A directory is made at the place of its path. -/
theorem madeAlong_makeDirectory (h : before.makeDirectory working path = .ok after) :
    MadeAlong working path before after := by
  obtain ⟨place, hlocate, hnone, rfl⟩ := makeDirectory_eq_ok_iff.mp h
  intro location hchanged
  have hplace : location = place :=
    Decidable.byContradiction fun hne => hchanged (at?_put_of_ne before hne _)
  subst hplace
  refine ⟨hnone, at?_put_self before (ne_nil_of_at?_eq_none hnone) _, ?_⟩
  exact locate_eq hlocate ▸ path.leadsThrough_self working

/-- A directory that has been made is there. -/
theorem isDirectory_makeDirectory (h : before.makeDirectory working path = .ok after) :
    after.isDirectory working path = true := by
  have hkeeps := (madeAlong_makeDirectory h).keepsDirectories
  obtain ⟨place, hlocate, hnone, rfl⟩ := makeDirectory_eq_ok_iff.mp h
  exact isDirectory_iff.mpr ⟨place, locate_of_keeps hkeeps hlocate,
    at?_put_self before (ne_nil_of_at?_eq_none hnone) _⟩

/-- What comes of making one directory that may be there already: nothing is changed elsewhere, and
after a success the directory is there. -/
theorem madeAlong_orThere (tree : Tree) (working : Location) (path : Path) :
    MadeAlong working path tree
        (tree.orThere working path (tree.makeDirectory working path)).1 ∧
      ((tree.orThere working path (tree.makeDirectory working path)).2 = .ok () →
        (tree.orThere working path (tree.makeDirectory working path)).1.isDirectory working path =
          true) := by
  rcases hmake : tree.makeDirectory working path with cause | made
  · rw [orThere]
    split
    · next hthere => exact ⟨.refl _ _ _, fun _ => (Bool.and_eq_true_iff.mp hthere).2⟩
    · exact ⟨.refl _ _ _, fun h => nomatch h⟩
  · exact ⟨madeAlong_makeDirectory hmake, fun _ => isDirectory_makeDirectory hmake⟩

/-! ### A directory and its ancestors -/

/-- What comes of making a directory with what is missing above it. -/
theorem madeAlong_makeFrom (working : Location) (origin : Origin) (segments : List String)
    (tree : Tree) :
    MadeAlong working ⟨origin, segments.reverse⟩ tree (makeFrom working origin segments tree).1 ∧
      ((makeFrom working origin segments tree).2 = .ok () →
        (makeFrom working origin segments tree).1.isDirectory working ⟨origin, segments.reverse⟩ =
          true) := by
  induction segments generalizing tree with
  | nil => exact madeAlong_orThere tree working ⟨origin, []⟩
  | cons last above ih =>
    have hstart : above.reverse <+: (last :: above).reverse := by
      rw [List.reverse_cons]
      exact List.prefix_append _ _
    rw [makeFrom]
    split
    · next hmissing =>
      obtain ⟨habove, -⟩ := ih tree
      rcases hmake : makeFrom working origin above tree with ⟨made, failure | _⟩ <;>
        rw [hmake] at habove
      · exact ⟨habove.of_prefix hstart, fun h => nomatch h⟩
      · obtain ⟨hlast, hthere⟩ := madeAlong_orThere made working ⟨origin, (last :: above).reverse⟩
        exact ⟨(habove.of_prefix hstart).trans hlast, hthere⟩
    · exact madeAlong_orThere tree working ⟨origin, (last :: above).reverse⟩

/-- Making a directory changes only what is missing on its way, also if it fails. -/
theorem madeAlong_makeDirectories (tree : Tree) (working : Location) (path : Path) :
    MadeAlong working path tree (tree.makeDirectories working path).1 := by
  have hmade := (madeAlong_makeFrom working path.origin path.segments.reverse tree).1
  rwa [List.reverse_reverse] at hmade

/-- Segments lead through directories to the last place. -/
theorem directory_of_follow {front back : List String}
    (h : tree.follow start (front ++ back) = .ok location)
    (hlocation : tree.at? location = some .directory) :
    tree.at? (front.foldl Path.step start) = some .directory := by
  induction front generalizing start with
  | nil =>
    cases back with
    | nil => exact Except.ok.inj h ▸ hlocation
    | cons segment rest => exact (follow_cons_eq_ok_iff.mp h).1
  | cons segment rest ih => exact ih (follow_cons_eq_ok_iff.mp h).2.2

/-- A directory has directories only above it. -/
theorem directory_of_isDirectory (h : tree.isDirectory working path = true)
    (hthrough : path.LeadsThrough working location) : tree.at? location = some .directory := by
  obtain ⟨place, hlocate, hplace⟩ := isDirectory_iff.mp h
  obtain ⟨origin, segments⟩ := path
  obtain ⟨above, ⟨below, rfl⟩, rfl⟩ := hthrough
  exact directory_of_follow (locate_eq_ok_iff.mp hlocate).2 hplace

/-- After a success the path is a directory. -/
theorem isDirectory_of_makeDirectories (h : (tree.makeDirectories working path).2 = .ok ()) :
    (tree.makeDirectories working path).1.isDirectory working path = true := by
  have hthere := (madeAlong_makeFrom working path.origin path.segments.reverse tree).2 h
  rwa [List.reverse_reverse] at hthere

/-- After a success the path and all its ancestors are directories. -/
theorem directory_of_makeDirectories (h : (tree.makeDirectories working path).2 = .ok ())
    (hthrough : path.LeadsThrough working location) :
    (tree.makeDirectories working path).1.at? location = some .directory :=
  directory_of_isDirectory (isDirectory_of_makeDirectories h) hthrough

/-! ### A directory that is there -/

theorem isDirectory_of_keeps (hkeeps : KeepsDirectories before after)
    (h : before.isDirectory working path = true) : after.isDirectory working path = true := by
  obtain ⟨location, hlocate, hplace⟩ := isDirectory_iff.mp h
  exact isDirectory_iff.mpr ⟨location, locate_of_keeps hkeeps hlocate, hkeeps location hplace⟩

theorem orThere_of_isDirectory (h : tree.isDirectory working path = true) :
    tree.orThere working path (tree.makeDirectory working path) = (tree, .ok ()) := by
  obtain ⟨location, hlocate, hplace⟩ := isDirectory_iff.mp h
  have hexists : tree.makeDirectory working path = .error .exists := by
    rw [makeDirectory, hlocate]
    simp only [bind, Except.bind, hplace]
    rfl
  rw [hexists, orThere]
  simp [h]

theorem makeFrom_of_isDirectory {origin : Origin} {segments : List String}
    (h : tree.isDirectory working ⟨origin, segments.reverse⟩ = true) :
    makeFrom working origin segments tree = (tree, .ok ()) := by
  have hthere := orThere_of_isDirectory h
  cases segments with
  | nil => exact hthere
  | cons last above =>
    rw [makeFrom]
    split
    · next hmissing =>
      rw [hmissing, orThere] at hthere
      cases hthere
    · exact hthere

/-- Making a directory that is there already succeeds and changes nothing. -/
theorem makeDirectories_of_isDirectory (h : tree.isDirectory working path = true) :
    tree.makeDirectories working path = (tree, .ok ()) := by
  rw [makeDirectories]
  refine makeFrom_of_isDirectory ?_
  rwa [List.reverse_reverse]

end Tree

end SchemaPages.Files
