import SchemaPages.Text.Utf8
import SchemaPages.Yaml.Timestamp
import SchemaPages.Yaml.Token.Quoted

/-!
# Anchors, tags and directives

The properties in front of a node, and the instructions in front of a document: names, handles and
resource identifiers. An identifier may hold percent escapes, which are the bytes of characters.
-/

namespace SchemaPages.Yaml

/-- Whether a character may occur in a name. -/
def isNameChar (c : Char) : Bool :=
  ('0' ≤ c && c ≤ '9') || ('A' ≤ c && c ≤ 'Z') || ('a' ≤ c && c ≤ 'z') || c = '-' || c = '_'

/-- Whether a character may occur in a resource identifier. -/
def isIdentifierChar (c : Char) : Bool :=
  isNameChar c || ";/?:@&=+$,.!~*'()[]%".toList.contains c

/-- Whether a character is a space or ends a line. -/
def isSpaceOrBreak (c : Char) : Bool :=
  c = ' ' || isBreak c

/-- A name that is not empty. -/
def nameAt (c : Cursor) : Lexing String :=
  match c.span isNameChar with
  | ([], _) => malformed
  | (name, c) => .ok (String.ofList name, c)

/-- The name of an anchor or an alias, from its mark on. -/
def anchorName (c : Cursor) : Except Fault (String × Cursor) := do
  let (name, c) ← nameAt c.next
  if startsOrEnds (fun d => isGapOrBreak d || "?:,]\x7d%@`".toList.contains d) c.rest then
    return (name, c)
  else malformed

/-! ### Tags -/

/-- The bytes of percent escapes that follow each other. -/
def escapedBytes : Nat → Cursor → Lexing Text.Bytes
  | 0, _ => malformed
  | fuel + 1, c =>
    match c.rest with
    | '%' :: a :: b :: _ =>
      match Json.hexNumber? [a, b] with
      | some n => (escapedBytes fuel (c.advance 3)).map fun (bytes, c) => (n.toUInt8 :: bytes, c)
      | none => malformed
    | '%' :: _ => malformed
    | _ => .ok ([], c)

/-- The rest of a resource identifier. -/
def identifierChars : Nat → Cursor → Except Fault (List Char × Cursor)
  | 0, _ => malformed
  | fuel + 1, c =>
    match c.peek with
    | some '%' => do
      let (bytes, c) ← escapedBytes fuel c
      match Text.Utf8.decode bytes with
      | .ok text =>
        let (more, c) ← identifierChars fuel c
        return (text.toList ++ more, c)
      | .error _ => malformed
    | some char =>
      if isIdentifierChar char then
        (identifierChars fuel c.next).map fun (chars, c) => (char :: chars, c)
      else .ok ([], c)
    | none => .ok ([], c)

/-- A resource identifier that is not empty. -/
def identifier (c : Cursor) : Except Fault (String × Cursor) := do
  match ← identifierChars c.fuel c with
  | ([], _) => malformed
  | (chars, c) => return (String.ofList chars, c)

/-- A handle: one exclamation mark in front of a space, or two with a name or nothing between
them. -/
def handle (c : Cursor) : Lexing String :=
  match c.rest with
  | '!' :: ' ' :: _ => .ok ("!", c.next)
  | '!' :: rest =>
    let name := rest.takeWhile isNameChar
    let c := c.advance (name.length + 1)
    if c.peek = some '!' then .ok (String.ofList ('!' :: name ++ ['!']), c.next) else malformed
  | _ => malformed

/-- A tag: an identifier in angle brackets, a lone mark, or a handle with a suffix. -/
def tagAt (c : Cursor) : Except Fault (Token × Cursor) := do
  let (token, c) ← match c.rest with
    | '!' :: '<' :: _ => do
      let (suffix, c) ← identifier (c.advance 2)
      if c.peek = some '>' then pure (Token.tag none suffix, c.next) else malformed
    | '!' :: rest =>
      if startsOrEnds isGapOrBreak rest then pure (Token.tag none "!", c.next)
      else if (rest.takeWhile (!isSpaceOrBreak ·)).contains '!' then do
        let (handle, c) ← handle c
        let (suffix, c) ← identifier c
        pure (Token.tag (some handle) suffix, c)
      else do
        let (suffix, c) ← identifier c.next
        pure (Token.tag (some "!") suffix, c)
    | _ => malformed
  if startsOrEnds isSpaceOrBreak c.rest then return (token, c) else malformed

/-! ### Directives -/

/-- A number of a version. -/
def versionNumber (c : Cursor) : Lexing Nat :=
  match c.span Char.isDigit with
  | ([], _) => malformed
  | (digits, c) =>
    if Number.digitLimit < digits.length then .error (digitsFault digits.length)
    else .ok (digitsValue digits, c)

/-- Passes the rest of the line of a directive. -/
def directiveEnd (c : Cursor) : Except Fault Cursor :=
  let c := c.skip (· = ' ')
  let c := if c.peek = some '#' then c.skip (!isBreak ·) else c
  match c.lineBreak? with
  | some (_, c) => .ok c
  | none => if c.rest.isEmpty then .ok c else malformed

/-- A directive, from its mark on. -/
def directiveAt (c : Cursor) : Except Fault (Directive × Cursor) := do
  let (name, c) ← nameAt c.next
  if !startsOrEnds isSpaceOrBreak c.rest then malformed
  else if name = "YAML" then
    let (major, c) ← versionNumber (c.skip (· = ' '))
    if c.peek ≠ some '.' then malformed
    else
      let (minor, c) ← versionNumber c.next
      if startsOrEnds isSpaceOrBreak c.rest then
        return (.version major minor, ← directiveEnd c)
      else malformed
  else if name = "TAG" then
    let (handle, c) ← handle (c.skip (· = ' '))
    if c.peek ≠ some ' ' then malformed
    else
      let (expansion, c) ← identifier (c.skip (· = ' '))
      if startsOrEnds isSpaceOrBreak c.rest then
        return (.handle handle expansion, ← directiveEnd c)
      else malformed
  else return (.unknown, ← directiveEnd (c.skip (!isBreak ·)))

end SchemaPages.Yaml
