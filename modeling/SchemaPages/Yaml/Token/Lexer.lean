import SchemaPages.Yaml.Token.Block
import SchemaPages.Yaml.Token.Plain
import SchemaPages.Yaml.Token.Property

/-!
# Dividing a document into tokens

`Tokens.ofText` turns a text into tokens. Two things are only known later than they are read. A
scalar may turn out to be a key when a colon follows it, so the place in front of a possible key is
remembered for each level of brackets; the key must stay on one line and within `keyLimit`
characters. And a block ends when a line is indented less than it is.

A text may be divided up to a fault. The tokens in front of it count as far as they are settled,
which those behind the place of a possible key are not.
-/

namespace SchemaPages.Yaml

/-- How far a colon may be from the start of its key. -/
def keyLimit : Nat := 1024

/-- Something that will be a key if a colon follows it. -/
structure PossibleKey where
  /-- How many tokens stand in front of it. -/
  place : Nat
  /-- Whether nothing but a key may stand there. -/
  required : Bool
  index : Nat
  line : Nat
  column : Nat
  deriving Repr

/-- A text that is partly divided into tokens. -/
structure Lexer where
  cursor : Cursor
  /-- The tokens so far, the last one first. -/
  tokens : List Token
  count : Nat
  /-- The indentation of the innermost block, -1 outside of all blocks. -/
  indent : Int
  /-- The indentations of the blocks around it, the inner ones first. -/
  outer : List Int
  /-- Whether a key may start here. -/
  keyAllowed : Bool
  /-- The possible key of each level of brackets, the inner ones first; the last one belongs to
  the blocks outside of all brackets. -/
  keys : List (Option PossibleKey)
  deriving Repr

namespace Lexer

/-- The start of a text. A byte order mark in front of it is passed. -/
def start (text : List Char) : Lexer :=
  { cursor := (Cursor.start text).advance (if text.head? = some '\uFEFF' then 1 else 0)
    tokens := [], count := 0, indent := -1, outer := [], keyAllowed := true, keys := [none] }

/-- Whether the cursor is inside brackets. -/
def inFlow (s : Lexer) : Bool :=
  1 < s.keys.length

/-- Appends a token. -/
def push (s : Lexer) (token : Token) : Lexer :=
  { s with tokens := token :: s.tokens, count := s.count + 1 }

/-- Inserts a token behind the first `place` tokens. -/
def insertAt (s : Lexer) (place : Nat) (token : Token) : Lexer :=
  let later := s.count - place
  { s with
    tokens := s.tokens.take later ++ token :: s.tokens.drop later
    count := s.count + 1 }

/-- Moves the cursor. -/
def moveTo (s : Lexer) (cursor : Cursor) : Lexer :=
  { s with cursor }

/-- Allows or forbids keys from here on. -/
def allowKey (s : Lexer) (keyAllowed : Bool) : Lexer :=
  { s with keyAllowed }

/-! ### Possible keys -/

/-- Whether a key at this place would have to end by now. -/
def isStale (s : Lexer) (key : PossibleKey) : Bool :=
  key.line ≠ s.cursor.line || keyLimit < s.cursor.index - key.index

/-- Forgets the possible keys whose colon can no longer follow; a required one must not be
forgotten. -/
def forgetStale (s : Lexer) : Except Fault Lexer :=
  if s.keys.any (·.any fun key => s.isStale key && key.required) then malformed
  else .ok { s with keys := s.keys.map (·.filter fun key => !s.isStale key) }

/-- The possible key of the innermost level. -/
def currentKey (s : Lexer) : Option PossibleKey :=
  s.keys.head?.join

/-- Sets the possible key of the innermost level. -/
def setKey (s : Lexer) (key : Option PossibleKey) : Lexer :=
  { s with keys := key :: s.keys.tail }

/-- Forgets the possible key of the innermost level, which must not be required. -/
def forgetKey (s : Lexer) : Except Fault Lexer :=
  if s.currentKey.any (·.required) then malformed else .ok (s.setKey none)

/-- Remembers the cursor as the place of a possible key. -/
def saveKey (s : Lexer) : Except Fault Lexer :=
  if s.keyAllowed then do
    let required := !s.inFlow && s.indent = s.cursor.column
    let s ← s.forgetKey
    return s.setKey (some ⟨s.count, required, s.cursor.index, s.cursor.line, s.cursor.column⟩)
  else .ok s

/-! ### Indentation -/

/-- Ends the blocks that are indented further than a column. -/
def closeBlocks (column : Int) (indent : Int) (outer : List Int) (s : Lexer) : Lexer :=
  match outer with
  | [] => { s with indent, outer := [] }
  | next :: rest =>
    if column < indent then closeBlocks column next rest (s.push .blockEnd)
    else { s with indent, outer := next :: rest }

/-- Ends the blocks that are indented further than a column; inside brackets indentation does not
count. -/
def unwind (s : Lexer) (column : Int) : Lexer :=
  if s.inFlow then s else closeBlocks column s.indent s.outer s

/-- Begins a block at a column, if it is indented further than the innermost one. -/
def beginBlock (s : Lexer) (column : Nat) : Option Lexer :=
  if s.indent < column then some { s with indent := column, outer := s.indent :: s.outer }
  else none

/-- Begins a block at the cursor, and marks it by a token. -/
def openBlock (s : Lexer) (token : Token) : Lexer :=
  match s.beginBlock s.cursor.column with
  | some s => s.push token
  | none => s

/-! ### Tokens -/

/-- Passes spaces, comments and ends of lines. After the end of a line a key may start. -/
def skipToToken : Nat → Lexer → Lexer
  | 0, s => s
  | fuel + 1, s =>
    let c := s.cursor.skip (· = ' ')
    let c := if c.peek = some '#' then c.skip (!isBreak ·) else c
    match c.lineBreak? with
    | some (_, c) => skipToToken fuel ((s.moveTo c).allowKey (s.keyAllowed || !s.inFlow))
    | none => s.moveTo c

/-- A document boundary or a directive ends all blocks. -/
def atMargin (s : Lexer) : Except Fault Lexer := do
  return (← (s.unwind (-1)).forgetKey).allowKey false

/-- Reads a mark of one character. -/
def mark (s : Lexer) (token : Token) : Lexer :=
  (s.push token).moveTo s.cursor.next

/-- Reads an opening bracket. -/
def openFlow (s : Lexer) (token : Token) : Except Fault Lexer := do
  let s ← s.saveKey
  return ({ s with keys := none :: s.keys }.allowKey true).mark token

/-- Reads a closing bracket. -/
def closeFlow (s : Lexer) (token : Token) : Except Fault Lexer := do
  let s ← s.forgetKey
  if s.inFlow then return ({ s with keys := s.keys.tail }.allowKey false).mark token
  else malformed

/-- Reads a mark that begins an entry or a key of a block, or of what is in brackets. -/
def entryMark (s : Lexer) (opening token : Token) (keyAllowed : Bool) : Except Fault Lexer := do
  if !s.inFlow && !s.keyAllowed then malformed
  else
    let s := if s.inFlow then s else s.openBlock opening
    return (← (s.allowKey keyAllowed).forgetKey).mark token

/-- Reads the colon between a key and its value. -/
def valueMark (s : Lexer) : Except Fault Lexer :=
  match s.currentKey with
  | some key =>
    let s := (s.setKey none).insertAt key.place .key
    let s := if s.inFlow then s else
      match s.beginBlock key.column with
      | some s => s.insertAt key.place .blockMappingStart
      | none => s
    .ok ((s.allowKey false).mark .value)
  | none => s.entryMark .blockMappingStart .value (!s.inFlow)

/-- Reads something that may be a key and after which no key may start. -/
def content (s : Lexer) (read : Cursor → Lexing Token) : Except Fault Lexer := do
  let s ← s.saveKey
  let (token, c) ← read s.cursor
  return ((s.allowKey false).push token).moveTo c

/-- Whether a plain scalar may start with these characters. -/
def startsPlain (inFlow : Bool) (c : Char) (rest : List Char) : Bool :=
  (!isGapOrBreak c && !"-?:,[]\x7b\x7d#&*!|>'\"%@`".toList.contains c) ||
    (!startsOrEnds isGapOrBreak rest && (c = '-' || (!inFlow && (c = '?' || c = ':'))))

/-- Reads a plain scalar. -/
def plain (s : Lexer) : Except Fault Lexer := do
  let s ← s.saveKey
  let (token, lineEnded, c) := Plain.scalar s.inFlow (s.indent + 1).toNat s.cursor
  return ((s.allowKey lineEnded).push token).moveTo c

/-- Reads the token that starts with a character. -/
def token (s : Lexer) (c : Char) (rest : List Char) : Except Fault Lexer :=
  let alone := startsOrEnds isGapOrBreak rest
  if c = '%' && s.cursor.column = 0 then do
    let s ← s.atMargin
    let (content, c) ← directiveAt s.cursor
    return (s.push (.directive content)).moveTo c
  else if s.cursor.column = 0 && s.cursor.atBoundary '-' then do
    return ((← s.atMargin).push .documentStart).moveTo (s.cursor.advance 3)
  else if s.cursor.column = 0 && s.cursor.atBoundary '.' then do
    return ((← s.atMargin).push .documentEnd).moveTo (s.cursor.advance 3)
  else if c = '[' then s.openFlow .flowSequenceStart
  else if c = '{' then s.openFlow .flowMappingStart
  else if c = ']' then s.closeFlow .flowSequenceEnd
  else if c = '}' then s.closeFlow .flowMappingEnd
  else if c = ',' then do
    return (← (s.allowKey true).forgetKey).mark .flowEntry
  else if c = '-' && alone then
    s.entryMark .blockSequenceStart .blockEntry true
  else if c = '?' && (s.inFlow || alone) then
    s.entryMark .blockMappingStart .key (!s.inFlow)
  else if c = ':' && (s.inFlow || alone) then s.valueMark
  else if c = '*' then s.content fun c => (anchorName c).map fun (name, c) => (.alias name, c)
  else if c = '&' then s.content fun c => (anchorName c).map fun (name, c) => (.anchor name, c)
  else if c = '!' then s.content tagAt
  else if (c = '|' || c = '>') && !s.inFlow then do
    let s ← (s.allowKey true).forgetKey
    let (token, c) ← Block.scalar s.indent s.cursor
    return (s.push token).moveTo c
  else if c = '\'' || c = '"' then s.content Quoted.scalar
  else if startsPlain s.inFlow c rest then s.plain
  else malformed

/-- Reads the next token. The flag tells whether the text is over; then all blocks end. -/
def step (s : Lexer) : Except Fault (Lexer × Bool) := do
  let s ← (skipToToken s.cursor.fuel s).forgetStale
  let s := s.unwind s.cursor.column
  match s.cursor.rest with
  | [] => return (← (s.unwind (-1)).forgetKey, true)
  | c :: rest => return (← s.token c rest, false)

/-- How many tokens are settled: those in front of every possible key. -/
def settledCount (s : Lexer) : Nat :=
  s.keys.foldl (fun count key =>
    match key.filter fun key => !s.isStale key with
    | some key => min count key.place
    | none => count) s.count

/-- The tokens that are settled. -/
def settled (s : Lexer) : List Token :=
  s.tokens.reverse.take s.settledCount

/-- Reads all tokens from the cursor on, as far as there is no fault. -/
def run (s : Lexer) : Nat → Tokens
  | 0 => ⟨s.settled, some .malformed⟩
  | fuel + 1 =>
    match s.step with
    | .error fault => ⟨s.settled, some fault⟩
    | .ok (s, finished) => if finished then ⟨s.tokens.reverse, none⟩ else s.run fuel

end Lexer

/-- Whether a character may occur in a document. -/
def isAllowed (c : Char) : Bool :=
  let n := c.toNat
  n = 0x9 || n = 0xA || n = 0xD || (0x20 ≤ n && n ≤ 0x7E) || n = 0x85 ||
    (0xA0 ≤ n && n ≤ 0xD7FF) || (0xE000 ≤ n && n ≤ 0xFFFD) || 0x10000 ≤ n

/-- The tokens of a text. -/
def Tokens.ofText (text : List Char) : Tokens :=
  let start := Lexer.start text
  if text.all isAllowed then start.run start.cursor.fuel
  else ⟨[], some .malformed⟩

end SchemaPages.Yaml
