import SchemaPages.Text.Blank
import SchemaPages.Text.Split

/-!
# Front matter definitions

Front matter is defined by a text such as `layout:page;title:{title}`: entries between
semicolons, each with a key and a value around its first colon. Blank parts between semicolons are
skipped, and keys and values are trimmed. A key must not be empty; a value may be, and may hold
colons.
-/

namespace SchemaPages.FrontMatter

/-- Keys with their values, in the order in which they are written. -/
abbrev Entries := List (String × String)

/-- A part of a definition that is no entry. -/
structure Malformed where
  segment : String
  deriving DecidableEq, Repr

/-- The entry in a part of a definition. -/
def entry? (segment : List Char) : Option (String × String) :=
  match Text.cutFirst ':' segment with
  | none => none
  | some (key, value) =>
    match Text.trimChars key with
    | [] => none
    | key => some (String.ofList key, String.ofList (Text.trimChars value))

/-- The entries in the parts of a definition. -/
def ofSegments : List (List Char) → Except Malformed Entries
  | [] => .ok []
  | segment :: rest =>
    if segment.all Text.isBlank then ofSegments rest
    else
      match entry? segment with
      | none => .error ⟨String.ofList segment⟩
      | some entry => (entry :: ·) <$> ofSegments rest

/-- The entries of a definition. -/
def parse (text : String) : Except Malformed Entries :=
  ofSegments (Text.splitAtChar ';' text.toList)

/-- The text of an error. -/
def Malformed.message (error : Malformed) : String :=
  "Front matter entries must use key:value format: " ++ error.segment

end SchemaPages.FrontMatter
