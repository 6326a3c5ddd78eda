import SchemaPages.Text.Split

/-!
# Paths

A path is a way through the directories of a file system, in the notation with slashes: relative
to the working directory, or from the root. Repeated slashes and segments of one dot mean nothing
and are dropped; segments of two dots are kept, as they lead to the parent of what stands in front
of them. Two slashes at the start are kept too.

A `Location` is where a path leads: the names of the directories from the root on. `Path.resolve`
finds the location by the segments alone.
-/

namespace SchemaPages.Files

/-- Where a path starts. -/
inductive Origin where
  | working
  | root
  | doubleRoot
  deriving DecidableEq, Repr

/-- A way through the directories. -/
structure Path where
  origin : Origin
  segments : List String
  deriving DecidableEq, Repr

/-- A place in a file system: the names from the root on. -/
abbrev Location := List String

namespace Path

/-- The segment that leads to the parent. -/
def parentSegment : String := ".."

/-- The segment that leads nowhere. -/
def selfSegment : String := "."

/-- The start of a text. -/
def originOf : List Char → Origin
  | '/' :: '/' :: '/' :: _ => .root
  | '/' :: '/' :: _ => .doubleRoot
  | '/' :: _ => .root
  | _ => .working

/-- The segments of a text that mean something. -/
def segmentsOf (text : List Char) : List String :=
  ((Text.splitAtChar '/' text).map String.ofList).filter fun segment =>
    segment ≠ "" && segment ≠ selfSegment

/-- The path that a text writes. -/
def ofString (text : String) : Path :=
  ⟨originOf text.toList, segmentsOf text.toList⟩

/-- The start of the text of a path. -/
def Origin.text : Origin → String
  | .working => ""
  | .root => "/"
  | .doubleRoot => "//"

/-- The text of a path. -/
def text (path : Path) : String :=
  match path.origin, path.segments with
  | .working, [] => selfSegment
  | origin, segments => Origin.text origin ++ "/".intercalate segments

/-- Whether a path starts at the root. -/
def isAbsolute (path : Path) : Bool :=
  path.origin ≠ .working

/-- Goes on from a path along another one; one from the root starts there. -/
def join (path other : Path) : Path :=
  if other.isAbsolute then other else { path with segments := path.segments ++ other.segments }

/-- The path without its last segment. -/
def parent (path : Path) : Path :=
  { path with segments := path.segments.dropLast }

/-- Takes a step along a segment. -/
def step (location : Location) (segment : String) : Location :=
  if segment = parentSegment then location.dropLast else location ++ [segment]

/-- Where a path leads from a working directory, by its segments alone. -/
def locate (working : Location) (path : Path) : Location :=
  path.segments.foldl step (if path.isAbsolute then [] else working)

/-- The path of a location. -/
def ofLocation (location : Location) : Path :=
  ⟨.root, location⟩

/-- The path from the root that leads to the same place. -/
def resolve (working : Location) (path : Path) : Path :=
  ofLocation (path.locate working)

end Path

end SchemaPages.Files
