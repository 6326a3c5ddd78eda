/-!
# References to types

A field, an argument or an input field refers to a type through a chain of levels: list and
non-null wrappers around the level that names the type. Every level may carry a name and a kind,
and either may be missing.

Three questions are asked of a reference: which type it leads to (`actualName`), of which kind the
innermost level is (`actualKind`), and how it is written (`decoratedName`, as in `[ID!]!`). All
three look at `maxLevels` levels at most, as many as the introspection query asks for, and answer
with the empty text when that is not enough.
-/

namespace SchemaPages

/-- One level of a reference. -/
structure Level where
  name : Option String
  kind : Option String
  deriving DecidableEq, Repr, Inhabited

/-- The kind of a wrapper that excludes null. -/
def nonNullKind : String := "NON_NULL"

/-- The kind of a wrapper that stands for a list. -/
def listKind : String := "LIST"

namespace Level

/-- Whether the level excludes null. -/
def isRequired (level : Level) : Bool :=
  level.kind == some nonNullKind

/-- Whether the level stands for a list. -/
def isList (level : Level) : Bool :=
  level.kind == some listKind

/-- The name of the level, unless it is missing or empty. -/
def properName? (level : Level) : Option String :=
  level.name.filter (· ≠ "")

/-- Writes a level around what it wraps: brackets for a list, then a mark for non-null. -/
def wrap (level : Level) (inner : String) : String :=
  let listed := if level.isList then "[" ++ inner ++ "]" else inner
  if level.isRequired then listed ++ "!" else listed

end Level

/-- A reference to a type, from the outermost level inwards. -/
inductive TypeRef where
  /-- The level where the chain ends. -/
  | leaf (level : Level)
  /-- A level around another reference. -/
  | wrapped (level : Level) (inner : TypeRef)
  deriving DecidableEq, Repr

namespace TypeRef

/-- The levels of a reference, outermost first. -/
def levels : TypeRef → List Level
  | .leaf level => [level]
  | .wrapped level inner => level :: inner.levels

/-- The reference with these levels around the last one. -/
def ofLevels (last : Level) : List Level → TypeRef
  | [] => .leaf last
  | level :: rest => .wrapped level (ofLevels last rest)

/-- The outermost level. -/
def outermost : TypeRef → Level
  | .leaf level => level
  | .wrapped level _ => level

/-- How many levels are looked at. -/
def maxLevels : Nat := 8

/-- The first proper name within the given count of levels. -/
def nameWithin : Nat → TypeRef → String
  | 0, _ => ""
  | _ + 1, .leaf level => level.properName?.getD ""
  | n + 1, .wrapped level inner => level.properName?.getD (inner.nameWithin n)

/-- The name of the type that the reference leads to. -/
def actualName (ref : TypeRef) : String :=
  ref.nameWithin maxLevels

/-- The kind of the innermost level, if it lies within the given count of levels. -/
def kindWithin : Nat → TypeRef → String
  | 0, _ => ""
  | _ + 1, .leaf level => level.kind.getD ""
  | n + 1, .wrapped _ inner => inner.kindWithin n

/-- The kind of the innermost level. -/
def actualKind (ref : TypeRef) : String :=
  ref.kindWithin maxLevels

/-- The notation of the reference, if the first proper name or the innermost level lies within the
given count of levels. What a named level wraps is not written. -/
def decoratedWithin : Nat → TypeRef → Option String
  | 0, _ => none
  | _ + 1, .leaf level => some (level.wrap (level.properName?.getD ""))
  | n + 1, .wrapped level inner =>
    match level.properName? with
    | some name => some (level.wrap name)
    | none => (inner.decoratedWithin n).map level.wrap

/-- The notation of the reference. -/
def decoratedName (ref : TypeRef) : String :=
  (ref.decoratedWithin maxLevels).getD ""

/-! ### Levels as a view -/

theorem levels_ne_nil (ref : TypeRef) : ref.levels ≠ [] := by
  cases ref <;> simp [levels]

end TypeRef

end SchemaPages
