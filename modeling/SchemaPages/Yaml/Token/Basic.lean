import SchemaPages.Number.Literal
import SchemaPages.Yaml.Cursor

/-!
# The tokens of a document

The tokens are the marks and scalars of a document in their order. The beginning and the end of a
block are tokens too, which indentation makes visible.
-/

namespace SchemaPages.Yaml

/-- What keeps a text from being a document. -/
inductive Fault where
  /-- The text breaks the rules of the notation. -/
  | malformed
  /-- A scalar is said to be a value that does not exist. -/
  | noValue (message : String)
  /-- A number is too large. -/
  | tooLarge (message : String)
  /-- A mapping is read as a scalar, and its default value leads back to it. -/
  | endless
  deriving DecidableEq, Repr

/-- An instruction in front of a document. -/
inductive Directive where
  | version (major minor : Nat)
  | handle (name expansion : String)
  | unknown
  deriving DecidableEq, Repr

/-- A token. -/
inductive Token where
  | directive (content : Directive)
  | documentStart
  | documentEnd
  | blockSequenceStart
  | blockMappingStart
  | blockEnd
  | flowSequenceStart
  | flowSequenceEnd
  | flowMappingStart
  | flowMappingEnd
  | blockEntry
  | flowEntry
  | key
  | value
  | alias (name : String)
  | anchor (name : String)
  | tag (handle : Option String) (suffix : String)
  | scalar (text : String) (isPlain : Bool)
  deriving DecidableEq, Repr

/-- The tokens of a text, up to its end or to a fault. Whoever reads the tokens meets the fault only
behind the last one of them. -/
structure Tokens where
  list : List Token
  fault : Option Fault := none
  deriving DecidableEq, Repr

/-- What a reader of scalars returns. -/
abbrev Lexing (α : Type) := Except Fault (α × Cursor)

/-- The text breaks the rules. -/
def malformed {α : Type} : Except Fault α :=
  .error .malformed

/-- An integer has too many decimal digits. -/
def digitsFault (count : Nat) : Fault :=
  .noValue (Number.tooManyDigits count)

end SchemaPages.Yaml
