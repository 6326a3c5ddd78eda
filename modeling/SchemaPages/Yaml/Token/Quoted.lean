import SchemaPages.Yaml.Token.Basic
import SchemaPages.Json.Reader

/-!
# Quoted scalars

Between single quotes, two quotes stand for one. Between double quotes, a backslash starts an
escape, and one at the end of a line joins the lines. In both, an end of line with the blank
characters around it is read as a space, and further empty lines are kept.

Each escape is a character of its own. Unlike in JSON, the two halves of a pair are not put
together, and half of a pair, which no text of characters can hold, is shown as the replacement
character.
-/

namespace SchemaPages.Yaml.Quoted

/-- Whether a character is a space or a tab. -/
def isGap (c : Char) : Bool :=
  c = ' ' || c = '\t'

/-- Passes the empty lines after an end of line and the blank characters of the next line, and
returns the ends of the empty lines. A document boundary must not follow. -/
def emptyLines : Nat → Cursor → Lexing (List Char)
  | 0, _ => malformed
  | fuel + 1, c =>
    if c.atAnyBoundary then malformed
    else
      let c := c.skip isGap
      match c.lineBreak? with
      | some (char, c) => (emptyLines fuel c).map fun (chars, c) => (char :: chars, c)
      | none => .ok ([], c)

/-- What an end of line followed by empty lines is read as. -/
def folded (lineBreak : Char) (breaks : List Char) : List Char :=
  if lineBreak ≠ '\n' then lineBreak :: breaks
  else if breaks.isEmpty then [' ']
  else breaks

/-- Reads blank characters inside the quotes, and the ends of lines among them. -/
def gap (fuel : Nat) (c : Cursor) : Lexing (List Char) :=
  let (blanks, c) := c.span isGap
  match c.lineBreak? with
  | some (char, c) => (emptyLines fuel c).map fun (breaks, c) => (folded char breaks, c)
  | none => .ok (blanks, c)

/-- The escapes of one letter. -/
def letterEscapes : List (Char × Char) :=
  [('0', '\x00'), ('a', '\x07'), ('b', '\x08'), ('t', '\t'), ('\t', '\t'), ('n', '\n'),
   ('v', '\x0b'), ('f', '\x0c'), ('r', '\r'), ('e', '\x1b'), (' ', ' '), ('"', '"'),
   ('\\', '\\'), ('/', '/'), ('N', '\x85'), ('_', '\xa0'), ('L', '\u2028'), ('P', '\u2029')]

/-- How many hexadecimal digits follow the letter of a code escape. -/
def codeEscapes : List (Char × Nat) :=
  [('x', 2), ('u', 4), ('U', 8)]

/-- Why a code is no character. -/
def codeFault (code : Nat) : Fault :=
  if code < 0x80000000 then .noValue "chr() arg not in range(0x110000)"
  else .tooLarge "Python int too large to convert to C int"

/-- Reads the digits of a code escape. -/
def code (digits : Nat) (c : Cursor) : Lexing Nat :=
  let found := c.rest.take digits
  match if found.length = digits then Json.hexNumber? found else none with
  | none => malformed
  | some n => if n < 0x110000 then .ok (n, c.advance digits) else .error (codeFault n)

/-- Reads an escape after its backslash, as codes of characters. -/
def escape (fuel : Nat) (c : Cursor) : Lexing (List Nat) :=
  match c.peek with
  | none => malformed
  | some letter =>
    match letterEscapes.lookup letter with
    | some char => .ok ([char.toNat], c.next)
    | none =>
      match codeEscapes.lookup letter with
      | some digits => (code digits c.next).map fun (n, c) => ([n], c)
      | none =>
        match c.lineBreak? with
        | some (_, c) => (emptyLines fuel c).map fun (breaks, c) => (breaks.map Char.toNat, c)
        | none => malformed

/-- Reads the text up to the closing double quote, as codes of characters. -/
def doubleCodes : Nat → Cursor → Except Fault (List Nat × Cursor)
  | 0, _ => malformed
  | fuel + 1, c =>
    match c.peek with
    | none => malformed
    | some '"' => .ok ([], c.next)
    | some char => do
      let (codes, c) ←
        if char = '\\' then escape fuel c.next
        else if isGapOrBreak char then (gap fuel c).map fun (chars, c) => (chars.map Char.toNat, c)
        else .ok ([char.toNat], c.next)
      let (more, c) ← doubleCodes fuel c
      return (codes ++ more, c)

/-- Reads the text up to the closing single quote. -/
def singleChars : Nat → Cursor → Except Fault (List Char × Cursor)
  | 0, _ => malformed
  | fuel + 1, c =>
    match c.rest with
    | [] => malformed
    | '\'' :: '\'' :: _ =>
      (singleChars fuel (c.advance 2)).map fun (chars, c) => ('\'' :: chars, c)
    | '\'' :: _ => .ok ([], c.next)
    | char :: _ => do
      let (chars, c) ← if isGapOrBreak char then gap fuel c else .ok ([char], c.next)
      let (more, c) ← singleChars fuel c
      return (chars ++ more, c)

/-- Reads a scalar from its opening quote on. -/
def scalar (c : Cursor) : Lexing Token :=
  let fuel := c.fuel
  if c.peek = some '"' then
    (doubleCodes fuel c.next).map fun (codes, c) =>
      (.scalar (String.ofList (codes.map Json.charOfCode)) false, c)
  else
    (singleChars fuel c.next).map fun (chars, c) => (.scalar (String.ofList chars) false, c)

end SchemaPages.Yaml.Quoted
