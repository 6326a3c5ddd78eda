import SchemaPages.Text.Split

/-!
# A cursor in a text

Reading a document needs more than the text that is left: blocks are formed by columns, and a key
must stay on its line. A `Cursor` carries both along. A byte order mark has no width.
-/

namespace SchemaPages.Yaml

/-- Whether a character ends a line of a document. -/
def isBreak (c : Char) : Bool :=
  c = '\n' || c = '\r' || c = '\x85' || c = '\u2028' || c = '\u2029'

/-- Whether a character is a space, a tab or the end of a line. -/
def isGapOrBreak (c : Char) : Bool :=
  c = ' ' || c = '\t' || isBreak c

/-- Whether a text is over, or its first character belongs to a class. -/
def startsOrEnds (p : Char → Bool) (rest : List Char) : Bool :=
  rest.head?.all p

/-- A text that is partly read: what is left, and where it starts. -/
structure Cursor where
  rest : List Char
  /-- How many characters have been read. -/
  index : Nat
  line : Nat
  column : Nat
  /-- How many characters the whole text has. -/
  size : Nat
  deriving Repr

namespace Cursor

/-- The start of a text. -/
def start (text : List Char) : Cursor :=
  { rest := text, index := 0, line := 0, column := 0, size := text.length }

/-- More steps than there are characters to pass. -/
def fuel (c : Cursor) : Nat :=
  c.size + 1

/-- The next character. -/
def peek (c : Cursor) : Option Char :=
  c.rest.head?

/-- Passes one character. A carriage return in front of a line feed does not end a line. -/
def next (c : Cursor) : Cursor :=
  match c.rest with
  | [] => c
  | char :: rest =>
    let endsLine := isBreak char && !(char = '\r' && rest.head? = some '\n')
    if endsLine then { c with rest, index := c.index + 1, line := c.line + 1, column := 0 }
    else
      let column := if char = '\uFEFF' then c.column else c.column + 1
      { c with rest, index := c.index + 1, column }

/-- Passes several characters. -/
def advance (c : Cursor) : Nat → Cursor
  | 0 => c
  | n + 1 => c.next.advance n

/-- Passes the characters of a class. -/
def skip (c : Cursor) (p : Char → Bool) : Cursor :=
  c.advance (c.rest.takeWhile p).length

/-- The characters of a class at the cursor, and the cursor after them. -/
def span (c : Cursor) (p : Char → Bool) : List Char × Cursor :=
  let found := c.rest.takeWhile p
  (found, c.advance found.length)

/-- Passes an end of line, if there is one, and tells how it is read: as a line feed, unless it is
one of the separators that stand for themselves. -/
def lineBreak? (c : Cursor) : Option (Char × Cursor) :=
  match c.rest with
  | '\r' :: '\n' :: _ => some ('\n', c.advance 2)
  | char :: _ =>
    if char = '\u2028' || char = '\u2029' then some (char, c.next)
    else if isBreak char then some ('\n', c.next)
    else none
  | [] => none

/-- Whether the three marks of a document boundary stand here, followed by a gap. -/
def atBoundary (c : Cursor) (mark : Char) : Bool :=
  match c.rest with
  | x :: y :: z :: rest => x = mark && y = mark && z = mark && startsOrEnds isGapOrBreak rest
  | _ => false

/-- Whether a document boundary stands here. -/
def atAnyBoundary (c : Cursor) : Bool :=
  c.atBoundary '-' || c.atBoundary '.'

end Cursor

end SchemaPages.Yaml
