import SchemaPages.Proofs.Files.Tree

/-!
# Resolving paths

A path is resolved by its segments alone, so going on from a path and resolving then is the same as
resolving from where the path leads (`Path.resolve_join`), and from a directory without segments of
two dots no such segment is left (`Path.parentSegment_notMem_resolve`).

Dropping the last segment of a path is something else than going to the parent of the place: behind
two dots, or with no segments at all, it leads elsewhere. But then the path leads to a directory. So
the path of a *file*, however it is written, leads to the directory of the file without its last
segment (`Tree.locate_parent_of_status`), as long as whatever is there lies in directories
(`Tree.Rooted`).
-/

namespace SchemaPages.Files

variable {working start : Location} {path other : Path} {segments : List String}

/-! ### Segments -/

namespace Path

/-- Steps from a place without two dots lead to places without them. -/
theorem parentSegment_notMem_foldl (hstart : parentSegment ∉ start) (segments : List String) :
    parentSegment ∉ segments.foldl step start := by
  induction segments generalizing start with
  | nil => exact hstart
  | cons segment rest ih =>
    refine ih ?_
    rw [step]
    split
    · exact fun hmem => hstart (List.dropLast_subset start hmem)
    · next hsegment =>
      rw [List.mem_append, List.mem_singleton]
      exact not_or.mpr ⟨hstart, fun heq => hsegment heq.symm⟩

theorem parentSegment_notMem_resolve (hworking : parentSegment ∉ working) (path : Path) :
    parentSegment ∉ (path.resolve working).segments := by
  refine parentSegment_notMem_foldl ?_ path.segments
  split
  · exact List.not_mem_nil
  · exact hworking

/-- Going on from a path and resolving is resolving from where it leads. -/
theorem resolve_join (hother : other.isAbsolute = false) (working : Location) (path : Path) :
    (path.join other).resolve working = other.resolve (path.locate working) := by
  have horigin : (path.join other).isAbsolute = path.isAbsolute := by
    rw [join, hother]
    rfl
  have hsegments : (path.join other).segments = path.segments ++ other.segments := by
    rw [join, hother]
    rfl
  rw [resolve, resolve, locate, locate, locate, horigin, hsegments, List.foldl_append, hother]
  rfl

/-- Two paths that resolve to the same path lead to the same place. -/
theorem resolve_eq_iff :
    path.resolve working = other.resolve working ↔ path.locate working = other.locate working := by
  rw [resolve, resolve, ofLocation, ofLocation]
  simp

end Path

/-! ### The directory of a file -/

namespace Tree

variable {tree : Tree} {location : Location} {content : Text.Bytes}

/-- Whether a tree can be that of a host that works in a directory: whatever is there is in a
directory, and the working directory is one, named without segments of two dots. -/
structure Rooted (tree : Tree) (working : Location) : Prop where
  parents : ∀ entry ∈ tree.entries, tree.at? entry.1.dropLast = some .directory
  directory : tree.at? working = some .directory
  names : Path.parentSegment ∉ working

instance (tree : Tree) (working : Location) : Decidable (tree.Rooted working) :=
  decidable_of_iff ((∀ entry ∈ tree.entries, tree.at? entry.1.dropLast = some .directory) ∧
      tree.at? working = some .directory ∧ Path.parentSegment ∉ working)
    ⟨fun ⟨hparents, hdirectory, hnames⟩ => ⟨hparents, hdirectory, hnames⟩,
      fun h => ⟨h.parents, h.directory, h.names⟩⟩

theorem Rooted.at?_dropLast (h : tree.Rooted working) {entry : Entry}
    (hentry : tree.at? location = some entry) : tree.at? location.dropLast = some .directory := by
  rw [at?] at hentry
  split at hentry
  · next hroot =>
    rw [hroot]
    rfl
  · exact h.parents (location, entry) (Pairs.mem_of_lookup hentry)

/-- Where a path starts there is a directory. -/
theorem Rooted.at?_start (h : tree.Rooted working) (path : Path) :
    tree.at? (if path.isAbsolute then [] else working) = some .directory := by
  split
  · rfl
  · exact h.directory

/-- Segments are followed one part after the other. -/
theorem follow_append (tree : Tree) (start : Location) (first rest : List String) :
    tree.follow start (first ++ rest) = tree.follow start first >>= (tree.follow · rest) := by
  induction first generalizing start with
  | nil => rfl
  | cons segment first ih =>
    rw [List.cons_append, follow, follow]
    rcases tree.at? start with _ | _ | _
    · rfl
    · rfl
    · dsimp only
      split
      · rfl
      · exact ih _

/-- What two paths to the same place hold is the same. -/
theorem read_of_locate_eq (hpath : tree.read working path = .ok content)
    (hother : tree.status working other = .ok .file)
    (hsame : path.locate working = other.locate working) :
    tree.read working other = .ok content := by
  obtain ⟨content', hread⟩ := exists_read_of_status hother
  obtain ⟨place, hlocate, hfile⟩ := read_eq_ok_iff.mp hpath
  obtain ⟨place', hlocate', hfile'⟩ := read_eq_ok_iff.mp hread
  rw [locate_eq hlocate, locate_eq hlocate'] at hsame
  rw [← hsame, hfile] at hfile'
  cases hfile'
  exact hread

/-- The path of a file leads to the directory of the file if its last segment is dropped. -/
theorem locate_parent_of_status (hrooted : tree.Rooted working)
    (h : tree.status working path = .ok .file) :
    path.parent.locate working = (path.locate working).dropLast := by
  obtain ⟨content, hread⟩ := exists_read_of_status h
  obtain ⟨place, hlocate, hfile⟩ := read_eq_ok_iff.mp hread
  have hfollow := (locate_eq_ok_iff.mp hlocate).2
  have hstart := hrooted.at?_start path
  rw [Path.locate, Path.locate, Path.parent]
  change path.segments.dropLast.foldl Path.step (if path.isAbsolute then [] else working) = _
  rcases List.eq_nil_or_concat path.segments with hnil | ⟨above, last, hconcat⟩
  · -- Without segments the path leads to where it starts, and there is no file.
    rw [hnil] at hfollow
    cases hfollow
    cases hstart.symm.trans hfile
  · rw [List.concat_eq_append] at hconcat
    rw [hconcat, follow_append] at hfollow
    rcases hmiddle : tree.follow (if path.isAbsolute then [] else working) above with cause | middle
    · rw [hmiddle] at hfollow
      cases hfollow
    rw [hmiddle] at hfollow
    obtain ⟨hdirectory, -, hlast⟩ := follow_cons_eq_ok_iff.mp hfollow
    have hplace : Path.step middle last = place := Except.ok.inj hlast
    have hname : last ≠ Path.parentSegment := by
      rintro rfl
      -- Two dots lead to a directory, as they lead to what a directory is in.
      have hparent : tree.at? middle.dropLast = some .directory := hrooted.at?_dropLast hdirectory
      rw [← hplace, Path.step, if_pos rfl] at hfile
      cases hparent.symm.trans hfile
    rw [hconcat, List.dropLast_concat, List.foldl_append, follow_eq hmiddle, List.foldl_cons,
      List.foldl_nil, Path.step, if_neg hname, List.dropLast_concat]

end Tree

end SchemaPages.Files
