import SchemaPages.Yaml.Tag

/-!
# Writing a mapping of texts

`blockMapping` writes texts under keys, one entry after the other. Each text is written plainly if
it is read back that way, between single quotes if nothing in it needs an escape, and between
double quotes otherwise. Values are folded at single spaces once a line is wider than eighty
characters, and the next line is indented by two. A key is followed by a colon on its line; one
that is empty, long or on several lines is announced by a question mark instead.
-/

namespace SchemaPages.Yaml

/-! ### How a text can be written -/

/-- How a text is written. -/
inductive Style where
  | plain
  | single
  | double
  deriving DecidableEq, Repr

/-- Whether a character ends a line. -/
def isLineEnd (c : Char) : Bool :=
  c = '\n' || c = '\x85' || c = '\u2028' || c = '\u2029'

/-- Whether a character separates a mark from what follows it. -/
def isMarkEnd (c : Char) : Bool :=
  c = '\x00' || c = ' ' || c = '\t' || c = '\r' || isLineEnd c

/-- Whether a character can stand in a text without an escape. -/
def isUnescaped (c : Char) : Bool :=
  let n := c.toNat
  c = '\n' || (0x20 ≤ n && n ≤ 0x7E) ||
    (c ≠ '\uFEFF' && (n = 0x85 || (0xA0 ≤ n && n ≤ 0xD7FF) || (0xE000 ≤ n && n ≤ 0xFFFD) ||
      (0x10000 ≤ n && n < 0x10FFFF)))

/-- Whether two neighbours of these classes occur in a text. -/
def hasNeighbours (first second : Char → Bool) (text : List Char) : Bool :=
  (text.zip text.tail).any fun (c, d) => first c && second d

/-- Whether the text after a character, if there is any, starts with a separator. -/
def endsMark (rest : List Char) : Bool :=
  rest.head?.all isMarkEnd

/-- Whether a mark inside a text gives it another meaning: a colon at the end of a word, or a
number sign at the start of one. -/
def hasInnerMark : List Char → Bool
  | [] => false
  | c :: rest =>
    (rest.head? = some '#' && isMarkEnd c) ||
      (rest.head? = some ':' && endsMark rest.tail) || hasInnerMark rest

/-- Whether the start of a text gives it another meaning. -/
def hasLeadingMark : List Char → Bool
  | [] => false
  | c :: rest =>
    "#,[]\x7b\x7d&*!|>'\"%@`".toList.contains c ||
      ((c = '?' || c = ':' || c = '-') && endsMark rest) ||
      "---".toList.isPrefixOf (c :: rest) || "...".toList.isPrefixOf (c :: rest)

/-- Whether a character is a space or ends a line. -/
def isSpaceOrLineEnd (c : Char) : Bool :=
  c = ' ' || isLineEnd c

/-- Whether a text can be written plainly in a block. -/
def allowsPlain (text : List Char) : Bool :=
  !text.any isLineEnd && text.all isUnescaped &&
    !text.head?.any isSpaceOrLineEnd && !text.getLast?.any isSpaceOrLineEnd &&
    !hasLeadingMark text && !hasInnerMark text

/-- Whether a text can be written between single quotes. -/
def allowsSingle (text : List Char) : Bool :=
  text.all isUnescaped && !hasNeighbours isLineEnd (· = ' ') text &&
    !hasNeighbours (· = ' ') isLineEnd text

/-- The style of a text. -/
def styleOf (text : List Char) : Style :=
  if Tag.ofPlain (String.ofList text) = .text && allowsPlain text then .plain
  else if allowsSingle text then .single
  else .double

/-! ### Writing one text -/

/-- The width that a line may have before it is folded. -/
def lineWidth : Nat := 80

/-- The start of a line that continues a text. -/
def continuation : List Char := "  ".toList

/-- The column after the start of such a line. -/
def continuationColumn : Nat := 2

/-- Writes the rest of a text between single quotes or plainly, from a column on. `before` is the
character in front of the rest. A line may be folded at a space that is alone between two words;
an end of line is written twice if it is a line feed, as a single one would be read as a
space. -/
def writeSingle (folds : Bool) (column : Nat) (before : Option Char) : List Char → List Char
  | [] => []
  | c :: rest =>
    if c = ' ' then
      if folds && lineWidth < column && before.any (· ≠ ' ') && rest.head?.any (· ≠ ' ') then
        '\n' :: continuation ++ writeSingle folds continuationColumn (some c) rest
      else c :: writeSingle folds (column + 1) (some c) rest
    else if isLineEnd c then
      let doubled := if c = '\n' && !before.any isLineEnd then ['\n'] else []
      let indent := if rest.head?.any isLineEnd then [] else continuation
      doubled ++ c :: indent ++ writeSingle folds continuationColumn (some c) rest
    else if c = '\'' then
      '\'' :: '\'' :: writeSingle folds (column + 2) (some c) rest
    else c :: writeSingle folds (column + 1) (some c) rest

/-- Writes a text plainly; it has no line ends, and its quotes mean nothing. -/
def writePlain (folds : Bool) (column : Nat) (before : Option Char) : List Char → List Char
  | [] => []
  | c :: rest =>
    if c = ' ' && folds && lineWidth < column && before.any (· ≠ ' ') &&
        rest.head?.any (· ≠ ' ') then
      '\n' :: continuation ++ writePlain folds continuationColumn (some c) rest
    else c :: writePlain folds (column + 1) (some c) rest

/-- The last `width` hexadecimal digits of a number, in capitals. -/
def capitalHexDigits (width n : Nat) : List Char :=
  match width with
  | 0 => []
  | width + 1 => capitalHexDigits width (n / 16) ++ [(Nat.digitChar (n % 16)).toUpper]

/-- The characters that have an escape of one letter. -/
def letterEscapes : List (Char × Char) :=
  [('\x00', '0'), ('\x07', 'a'), ('\x08', 'b'), ('\t', 't'), ('\n', 'n'), ('\x0b', 'v'),
   ('\x0c', 'f'), ('\r', 'r'), ('\x1b', 'e'), ('"', '"'), ('\\', '\\'), ('\x85', 'N'),
   ('\xa0', '_'), ('\u2028', 'L'), ('\u2029', 'P')]

/-- The escape of a character. -/
def escapeOf (c : Char) : List Char :=
  match letterEscapes.lookup c with
  | some letter => ['\\', letter]
  | none =>
    if c.toNat < 0x100 then '\\' :: 'x' :: capitalHexDigits 2 c.toNat
    else if c.toNat < 0x10000 then '\\' :: 'u' :: capitalHexDigits 4 c.toNat
    else '\\' :: 'U' :: capitalHexDigits 8 c.toNat

/-- Whether a character is written as it is between double quotes. -/
def isBareInDouble (c : Char) : Bool :=
  let n := c.toNat
  c ≠ '"' && c ≠ '\\' && !isLineEnd c && c ≠ '\uFEFF' &&
    ((0x20 ≤ n && n ≤ 0x7E) || (0xA0 ≤ n && n ≤ 0xD7FF) || (0xE000 ≤ n && n ≤ 0xFFFD))

/-- The backslash that keeps a space at the start of a line. -/
def spaceGuard (next : Option Char) : List Char :=
  if next = some ' ' then ['\\'] else []

/-- Writes the rest of a text between double quotes, from a column on. `afterEscape` tells whether
the character in front of the rest was escaped, `inside` whether there is one. A line that has
become too wide is broken with a backslash: after an escape, whose last character does not count
for the width, or in front of a character that is a space or follows an escape; not in front of the
first or last character. -/
def writeDouble (folds inside afterEscape : Bool) (column : Nat) : List Char → List Char
  | [] => []
  | c :: rest =>
    let mayBreak := folds && inside && !rest.isEmpty
    if isBareInDouble c then
      if mayBreak && (c = ' ' || afterEscape) && lineWidth < column then
        let opening := spaceGuard (some c)
        '\\' :: '\n' :: continuation ++ opening ++
          c :: writeDouble folds true false (continuationColumn + opening.length + 1) rest
      else c :: writeDouble folds true false (column + 1) rest
    else
      let escape := escapeOf c
      let column := column + escape.length
      if mayBreak && lineWidth + 1 < column then
        let opening := spaceGuard rest.head?
        escape ++ '\\' :: '\n' :: continuation ++ opening ++
          writeDouble folds true true (continuationColumn + opening.length) rest
      else escape ++ writeDouble folds true true column rest

/-- Writes a text from a column on. -/
def writeText (folds : Bool) (column : Nat) (text : List Char) : List Char :=
  match styleOf text with
  | .plain => writePlain folds column none text
  | .single => '\'' :: writeSingle folds (column + 1) none text ++ ['\'']
  | .double => '"' :: writeDouble folds false false (column + 1) text ++ ['"']

/-! ### Entries -/

/-- The length from which on a key is announced by a question mark. -/
def longKey : Nat := 123

/-- Whether a key stands on one line with its value. -/
def isSimpleKey (key : List Char) : Bool :=
  !key.isEmpty && key.length < longKey && !key.any isLineEnd

/-- Writes a key with its value. -/
def blockEntry (key value : String) : String :=
  let key := key.toList
  let value := value.toList
  String.ofList <|
    if isSimpleKey key then
      let written := writeText false 0 key
      written ++ ':' :: ' ' :: writeText true (written.length + 2) value ++ ['\n']
    else
      '?' :: ' ' :: writeText true 2 key ++ '\n' :: ':' :: ' ' :: writeText true 2 value ++ ['\n']

/-- Writes a mapping of texts. -/
def blockMapping (entries : List (String × String)) : String :=
  String.join (entries.map fun (key, value) => blockEntry key value)

end SchemaPages.Yaml
