/-!
# JSON values

A JSON value is a tree. The members of an object are an ordered map. Integers and other numbers
are told apart, as the settings of a run do.
-/

namespace SchemaPages

/-- A JSON value. -/
inductive Json where
  | null
  | bool (value : Bool)
  | integer (value : Int)
  | float (value : Float)
  | string (value : String)
  | array (items : List Json)
  | object (members : List (String × Json))
deriving Inhabited

namespace Json

/-- The value of the member with this name. -/
def member? (name : String) (members : List (String × Json)) : Option Json :=
  members.lookup name

/-- Whether the value is `null`. -/
def isNull : Json → Bool
  | .null => true
  | _ => false

end Json

end SchemaPages
