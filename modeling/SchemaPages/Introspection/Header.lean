import SchemaPages.Text.Blank
import SchemaPages.Text.Split

/-!
# Headers

A header of a request is defined by a text with a name and a value around its first colon, both of
which are trimmed. The name must not be empty.
-/

namespace SchemaPages.Introspection

/-- A name and a value that are sent with a request. -/
abbrev Header := String × String

/-- A text that defines no header. -/
structure MalformedHeader where
  text : String
  deriving DecidableEq, Repr

/-- The header that a text defines. -/
def Header.parse (text : String) : Except MalformedHeader Header :=
  match Text.cutFirst ':' text.toList with
  | none => .error ⟨text⟩
  | some (name, value) =>
    match Text.trimChars name with
    | [] => .error ⟨text⟩
    | name => .ok (String.ofList name, String.ofList (Text.trimChars value))

/-- The text of an error. -/
def MalformedHeader.message (error : MalformedHeader) : String :=
  "Header must use name:value format: " ++ error.text

end SchemaPages.Introspection
