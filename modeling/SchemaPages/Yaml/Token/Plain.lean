import SchemaPages.Yaml.Token.Quoted

/-!
# Plain scalars

A plain scalar ends at a comment, at a colon in front of a gap, and inside brackets also at the
marks of the bracket notation. It may go on over several lines as long as these are indented
further than the block around it.
-/

namespace SchemaPages.Yaml.Plain

/-- The marks of the bracket notation. -/
def isFlowMark (c : Char) : Bool :=
  c = ',' || c = '[' || c = ']' || c = '{' || c = '}'

/-- Whether a plain scalar ends in front of a character. -/
def endsBefore (inFlow : Bool) (c : Char) (rest : List Char) : Bool :=
  isGapOrBreak c ||
    (c = ':' && startsOrEnds (fun d => isGapOrBreak d || (inFlow && isFlowMark d)) rest) ||
    (inFlow && (c = '?' || isFlowMark c))

/-- The part of a plain scalar without gaps at the start of a text. -/
def word (inFlow : Bool) : List Char → List Char
  | [] => []
  | c :: rest => if endsBefore inFlow c rest then [] else c :: word inFlow rest

/-- Passes spaces and the ends of empty lines from the start of a line on, and returns the latter;
`none` in front of a document boundary. -/
def emptyLines : Nat → Cursor → Option (List Char) × Cursor
  | 0, c => (none, c)
  | fuel + 1, c =>
    if c.atAnyBoundary then (none, c)
    else
      let c := c.skip (· = ' ')
      match c.lineBreak? with
      | some (char, c) =>
        let (more, c) := emptyLines fuel c
        (more.map (char :: ·), c)
      | none => (some [], c)

/-- Reads what separates two words of a plain scalar: the text that it stands for, or `none` if the
scalar cannot go on after it, and whether it ends a line. -/
def gap (fuel : Nat) (c : Cursor) : Option (List Char) × Bool × Cursor :=
  let (spaces, c) := c.span (· = ' ')
  match c.lineBreak? with
  | some (char, c) =>
    let (breaks, c) := emptyLines fuel c
    (breaks.map (Quoted.folded char), true, c)
  | none => (if spaces.isEmpty then none else some spaces, false, c)

/-- Reads the words of a plain scalar from here on. The flag that comes back tells whether the last
thing read was the end of a line. -/
def words (inFlow : Bool) (indent : Nat) : Nat → Cursor → List Char × Bool × Cursor
  | 0, c => ([], false, c)
  | fuel + 1, c =>
    let first := word inFlow c.rest
    let (space, lineEnded, after) := gap fuel (c.advance first.length)
    match space with
    | none => (first, lineEnded, after)
    | some space =>
      if after.peek = some '#' || (!inFlow && after.column < indent) ||
          (word inFlow after.rest).isEmpty then
        (first, lineEnded, after)
      else
        let (more, lineEnded, last) := words inFlow indent fuel after
        (first ++ space ++ more, lineEnded, last)

/-- Reads a plain scalar, which must be indented at least to a column if it goes on. -/
def scalar (inFlow : Bool) (indent : Nat) (c : Cursor) : Token × Bool × Cursor :=
  let (chars, lineEnded, c) := words inFlow indent c.fuel c
  (.scalar (String.ofList chars) true, lineEnded, c)

end SchemaPages.Yaml.Plain
