/-!
# Places in an introspection answer

A place is the way from the schema section of an answer to one of its values: names of members
and indices of items. Messages write it like `types[2].fields[0].name`, and the section itself by
its own name.
-/

namespace SchemaPages

/-- One step from a value to a part of it. -/
inductive Step where
  | member (name : String)
  | item (index : Nat)
  deriving DecidableEq, Repr

/-- The steps that lead to a value, the first step first. -/
abbrev Place := List Step

namespace Place

/-- The place of a member. -/
def member (place : Place) (name : String) : Place :=
  place ++ [.member name]

/-- The place of an item. -/
def item (place : Place) (index : Nat) : Place :=
  place ++ [.item index]

/-- The name of the member that holds the schema. -/
def sectionName : String := "__schema"

/-- A step after others. -/
def stepText : Step → String
  | .member name => "." ++ name
  | .item index => "[" ++ toString index ++ "]"

/-- The text of a place. -/
def text : Place → String
  | [] => sectionName
  | .member name :: rest => name ++ String.join (rest.map stepText)
  | steps => String.join (steps.map stepText)

end Place

end SchemaPages
