import SchemaPages.Yaml.Token.Basic

/-!
# Block scalars

After a bar the lines of a block are kept, and after a greater-than sign they are folded: an end of
line between two lines of text is read as a space. The indentation of the block is that of its
first line, or is given by a digit after the mark; a sign there tells what becomes of the line
ends after the text.
-/

namespace SchemaPages.Yaml.Block

/-- What becomes of the ends of lines after the text: the first is kept, or none, or all. -/
inductive Chomping where
  | clip
  | strip
  | keep
  deriving DecidableEq, Repr

/-- What stands after the mark. -/
structure Header where
  chomping : Chomping
  /-- How much further the block is indented than what is around it. -/
  increment : Option Nat
  deriving DecidableEq, Repr

/-- The chomping of a sign. -/
def chomping? : Char → Option Chomping
  | '+' => some .keep
  | '-' => some .strip
  | _ => none

/-- The increment of a digit. -/
def increment? (c : Char) : Option Nat :=
  if c.isDigit then some (c.toNat - '0'.toNat) else none

/-- Reads a character of a class, if one follows. -/
def optional {α : Type} (read : Char → Option α) (c : Cursor) : Option α × Cursor :=
  match c.peek.bind read with
  | some found => (some found, c.next)
  | none => (none, c)

/-- Reads the signs after the mark, in either order. -/
def header (c : Cursor) : Lexing Header :=
  let (sign, c) := optional chomping? c
  let (increment, c) := optional increment? c
  let (sign, c) := if sign.isNone then optional chomping? c else (sign, c)
  if increment = some 0 then malformed
  else if startsOrEnds (fun d => d = ' ' || isBreak d) c.rest then
    .ok (⟨sign.getD .clip, increment⟩, c)
  else malformed

/-- Passes the rest of a line, which holds at most a comment. -/
def restOfLine (c : Cursor) : Except Fault Cursor :=
  let c := c.skip (· = ' ')
  let c := if c.peek = some '#' then c.skip (!isBreak ·) else c
  match c.lineBreak? with
  | some (_, c) => .ok c
  | none => if c.rest.isEmpty then .ok c else malformed

/-- Passes at most `n` spaces. -/
def skipIndent (n : Nat) (c : Cursor) : Cursor :=
  c.advance ((c.rest.take n).takeWhile (· = ' ')).length

/-- Passes the lines without text, indented by less than `indent` columns, and returns their
ends. -/
def emptyLines (indent : Nat) : Nat → Cursor → List Char × Cursor
  | 0, c => ([], c)
  | fuel + 1, c =>
    let c := skipIndent (indent - c.column) c
    match c.lineBreak? with
    | some (char, c) =>
      let (more, c) := emptyLines indent fuel c
      (char :: more, c)
    | none => ([], c)

/-- Passes the lines of spaces in front of the text, and returns their ends and the greatest
column. -/
def leadingLines : Nat → Nat → Cursor → List Char × Nat × Cursor
  | 0, widest, c => ([], widest, c)
  | fuel + 1, widest, c =>
    let c := c.skip (· = ' ')
    let widest := max widest c.column
    match c.lineBreak? with
    | some (char, c) =>
      let (more, widest, c) := leadingLines fuel widest c
      (char :: more, widest, c)
    | none => ([], widest, c)

/-- Whether a line starts with a blank character, which keeps it from being folded. -/
def startsBlank (c : Cursor) : Bool :=
  c.peek = some ' ' || c.peek = some '\t'

/-- What the end of a line followed by empty lines and then by a line of text is read as. -/
def joined (folds : Bool) (lineBreak : List Char) (breaks : List Char) (bothText : Bool) :
    List Char :=
  if folds && lineBreak = ['\n'] && bothText then
    if breaks.isEmpty then [' '] else breaks
  else lineBreak ++ breaks

/-- Reads the lines of the text: what they stand for, the end of the last one, and the ends of the
empty lines after it. -/
def lines (folds : Bool) (indent : Nat) : Nat → Cursor →
    List Char × List Char × List Char × Cursor
  | 0, c => ([], [], [], c)
  | fuel + 1, c =>
    let startsWithText := !startsBlank c
    let (text, c) := c.span (!isBreak ·)
    let (lineBreak, c) := match c.lineBreak? with
      | some (char, c) => ([char], c)
      | none => ([], c)
    let (breaks, c) := emptyLines indent fuel c
    if c.column = indent && !c.rest.isEmpty then
      let between := joined folds lineBreak breaks (startsWithText && !startsBlank c)
      let (more, last, trailing, c) := lines folds indent fuel c
      (text ++ between ++ more, last, trailing, c)
    else (text, lineBreak, breaks, c)

/-- Reads a block scalar from its mark on, in a block indented by `parent` columns (-1 outside of
all blocks). -/
def scalar (parent : Int) (c : Cursor) : Except Fault (Token × Cursor) := do
  let folds := c.peek = some '>'
  let fuel := c.fuel
  let (header, c) ← header c.next
  let c ← restOfLine c
  let least := max (parent + 1).toNat 1
  let (leading, indent, c) := match header.increment with
    | none =>
      let (leading, widest, c) := leadingLines fuel 0 c
      (leading, max least widest, c)
    | some increment =>
      let indent := least + increment - 1
      let (leading, c) := emptyLines indent fuel c
      (leading, indent, c)
  let (text, lineBreak, trailing, c) :=
    if c.column = indent && !c.rest.isEmpty then
      let (text, lineBreak, trailing, c) := lines folds indent fuel c
      (leading ++ text, lineBreak, trailing, c)
    else ([], [], leading, c)
  let ending := match header.chomping with
    | .strip => []
    | .clip => lineBreak
    | .keep => lineBreak ++ trailing
  return (.scalar (String.ofList (text ++ ending)) false, c)

end SchemaPages.Yaml.Block
