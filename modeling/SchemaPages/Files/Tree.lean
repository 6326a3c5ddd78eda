import SchemaPages.Files.Path
import SchemaPages.Pairs
import SchemaPages.Text.Quoted
import SchemaPages.Text.Utf8

/-!
# A tree of files

The state of a file system: which locations are files, with their content, and which are
directories. An operation follows its path through the directories, so that each of them must be
there, and reports the cause when it cannot be done. Reading changes nothing; writing changes one
location; `makeDirectories` makes a directory with all that is missing above it.

Some of what a file system knows is left out: there are no links and no permissions, a file is
written as a whole or not at all, as no room is ever short, and a name may hold any character but
the slash, NUL as well.
-/

namespace SchemaPages.Files

/-- What is at a location. -/
inductive Entry where
  | file (content : Text.Bytes)
  | directory
  deriving DecidableEq, Repr

/-- Whether there is a file or a directory. -/
inductive Kind where
  | file
  | directory
  deriving DecidableEq, Repr

/-- Which of both an entry is. -/
def Entry.kind : Entry → Kind
  | .file _ => .file
  | .directory => .directory

/-- Why an operation on files fails. -/
inductive Cause where
  | missing
  | exists
  | notDirectory
  | isDirectory
  | nameTooLong
  deriving DecidableEq, Repr

/-- A failed operation: why it failed, and on which path. -/
structure Failure where
  cause : Cause
  path : String
  deriving DecidableEq, Repr

/-- The number of a cause. -/
def Cause.number : Cause → Nat
  | .missing => 2
  | .exists => 17
  | .notDirectory => 20
  | .isDirectory => 21
  | .nameTooLong => 36

/-- The text of a cause. -/
def Cause.text : Cause → String
  | .missing => "No such file or directory"
  | .exists => "File exists"
  | .notDirectory => "Not a directory"
  | .isDirectory => "Is a directory"
  | .nameTooLong => "File name too long"

/-- The text of a failure. -/
def Failure.message (failure : Failure) : String :=
  "[Errno " ++ toString failure.cause.number ++ "] " ++ failure.cause.text ++ ": " ++
    Text.quoted failure.path

/-- The files and directories by their locations. The root is a directory that is not listed. -/
structure Tree where
  entries : List (Location × Entry)
  deriving DecidableEq, Repr

namespace Tree

/-- What is at a location. -/
def at? (tree : Tree) (location : Location) : Option Entry :=
  if location = [] then some .directory else tree.entries.lookup location

/-- Puts something at a location. -/
def put (tree : Tree) (location : Location) (entry : Entry) : Tree :=
  ⟨Pairs.insert location entry tree.entries⟩

/-- The greatest length of a name, in bytes. -/
def maxNameLength : Nat := 255

/-- Follows segments from a location through directories. What is at the end may be missing. -/
def follow (tree : Tree) (location : Location) : List String → Except Cause Location
  | [] => .ok location
  | segment :: rest =>
    match tree.at? location with
    | none => .error .missing
    | some (.file _) => .error .notDirectory
    | some .directory =>
      if maxNameLength < (Text.Utf8.encode segment).length then .error .nameTooLong
      else tree.follow (Path.step location segment) rest

/-- The greatest length of the text of a path, in bytes. -/
def maxPathLength : Nat := 4095

/-- Whether a text is too long for a path that is to be followed. -/
def isTooLong (text : String) : Bool :=
  maxPathLength < (Text.Utf8.encode text).length

/-- Where a path leads in the tree. -/
def locate (tree : Tree) (working : Location) (path : Path) : Except Cause Location :=
  if isTooLong path.text then .error .nameTooLong
  else tree.follow (if path.isAbsolute then [] else working) path.segments

/-- What is at a path. -/
def entry (tree : Tree) (working : Location) (path : Path) : Except Cause Entry := do
  match tree.at? (← tree.locate working path) with
  | some entry => return entry
  | none => throw .missing

/-- Whether there is a file or a directory at a path. -/
def status (tree : Tree) (working : Location) (path : Path) : Except Cause Kind :=
  (tree.entry working path).map Entry.kind

/-- Whether a path leads to a directory. -/
def isDirectory (tree : Tree) (working : Location) (path : Path) : Bool :=
  match tree.status working path with
  | .ok .directory => true
  | _ => false

/-- The content of the file at a path. -/
def read (tree : Tree) (working : Location) (path : Path) : Except Cause Text.Bytes := do
  match ← tree.entry working path with
  | .file content => return content
  | .directory => throw .isDirectory

/-- Sets the content of the file at a path. The file may be new; the directory that it is in is one
that the path has been followed through. -/
def write (tree : Tree) (working : Location) (path : Path) (content : Text.Bytes) :
    Except Cause Tree := do
  let location ← tree.locate working path
  match tree.at? location with
  | some .directory => throw .isDirectory
  | _ => return tree.put location (.file content)

/-- Makes one directory, which must not be there, in one that is there. -/
def makeDirectory (tree : Tree) (working : Location) (path : Path) : Except Cause Tree := do
  let location ← tree.locate working path
  match tree.at? location with
  | some _ => throw .exists
  | none => return tree.put location .directory

/-- The outcome of an attempt to make a directory, where one that is already there is as good. -/
def orThere (tree : Tree) (working : Location) (path : Path) (attempt : Except Cause Tree) :
    Tree × Except Failure Unit :=
  match attempt with
  | .ok tree => (tree, .ok ())
  | .error cause =>
    if cause ≠ .missing && tree.isDirectory working path then (tree, .ok ())
    else (tree, .error ⟨cause, path.text⟩)

/-- Makes the directory with the given segments, last one first, and what is missing above it. What
has been made stays even if the operation fails further down. -/
def makeFrom (working : Location) (origin : Origin) :
    List String → Tree → Tree × Except Failure Unit
  | [], tree =>
    let path := ⟨origin, []⟩
    tree.orThere working path (tree.makeDirectory working path)
  | last :: above, tree =>
    let path := ⟨origin, (last :: above).reverse⟩
    match tree.makeDirectory working path with
    | .error .missing =>
      match makeFrom working origin above tree with
      | (tree, .ok ()) => tree.orThere working path (tree.makeDirectory working path)
      | failed => failed
    | attempt => tree.orThere working path attempt

/-- Makes a directory and what is missing above it; a directory that is there is left alone. -/
def makeDirectories (tree : Tree) (working : Location) (path : Path) :
    Tree × Except Failure Unit :=
  makeFrom working path.origin path.segments.reverse tree

/-! ### What writing changes -/

/-- What has been put at a location is found there. -/
theorem at?_put_self (tree : Tree) {location : Location} (h : location ≠ []) (entry : Entry) :
    (tree.put location entry).at? location = some entry := by
  simp [at?, h, put, Pairs.lookup_insert_self]

/-- Every other location is as before. -/
theorem at?_put_of_ne (tree : Tree) {location other : Location} (h : other ≠ location)
    (entry : Entry) : (tree.put location entry).at? other = tree.at? other := by
  simp [at?, put, Pairs.lookup_insert_of_ne h]

end Tree

end SchemaPages.Files
