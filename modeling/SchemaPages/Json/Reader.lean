import SchemaPages.Json.Basic
import SchemaPages.Number.Literal
import SchemaPages.Pairs

/-!
# Reading JSON text

`Json.read` reads one value with blank characters around it, or reports the first fault with its
place. Beyond the standard it knows the numbers `NaN`, `Infinity` and `-Infinity`; a number with
a fraction or an exponent is a float and any other an integer; of the members of an object with
the same name the last one counts.

Every reader takes the text that is left and returns what is left after it. A fault remembers how
many characters were left at its place, from which the position in the whole text follows.
-/

namespace SchemaPages.Json

/-- What is wrong with a text. -/
inductive Flaw where
  | byteOrderMark
  | expectedValue
  | expectedName
  | expectedColon
  | expectedComma
  | extraData
  | unterminatedText
  | controlCharacter
  | badEscape
  | badCodeEscape
  deriving DecidableEq, Repr

/-- A flaw with the number of characters that are left at its place. -/
structure Stop where
  flaw : Flaw
  left : Nat
  deriving DecidableEq, Repr

/-- The outcome of a reader: a value and the text after it. -/
abbrev Read (α : Type) := Except Stop (α × List Char)

/-- Stops in front of a text. -/
def stopAt {α : Type} (flaw : Flaw) (rest : List Char) : Read α :=
  .error ⟨flaw, rest.length⟩

/-- The characters that may stand between the parts of a JSON text. -/
def isSpace (c : Char) : Bool :=
  c = ' ' || c = '\t' || c = '\n' || c = '\r'

/-- The text without the blank characters at its start. -/
def skipSpace (text : List Char) : List Char :=
  text.dropWhile isSpace

/-! ### Texts -/

/-- The value of a hexadecimal digit. -/
def hexDigit? (c : Char) : Option Nat :=
  if '0' ≤ c && c ≤ '9' then some (c.toNat - '0'.toNat)
  else if 'a' ≤ c && c ≤ 'f' then some (c.toNat - 'a'.toNat + 10)
  else if 'A' ≤ c && c ≤ 'F' then some (c.toNat - 'A'.toNat + 10)
  else none

/-- The value of hexadecimal digits. -/
def hexNumber? (digits : List Char) : Option Nat :=
  digits.foldlM (fun n c => (hexDigit? c).map (16 * n + ·)) 0

/-- The character that a backslash and this character stand for. -/
def escaped? : Char → Option Char
  | '"' => some '"'
  | '\\' => some '\\'
  | '/' => some '/'
  | 'b' => some '\x08'
  | 'f' => some '\x0c'
  | 'n' => some '\n'
  | 'r' => some '\r'
  | 't' => some '\t'
  | _ => none

/-- Puts a code in front of what a reader returns. -/
def addCode (code : Nat) (rest : Read (List Nat)) : Read (List Nat) :=
  rest.map fun (codes, left) => (code :: codes, left)

/-- Reads the codes of a text up to its closing quote; `opening` is the text from the opening quote
on. A code escape is only taken when a character follows its four digits. -/
def readCodes (opening : List Char) : List Char → Read (List Nat)
  | [] => stopAt .unterminatedText opening
  | c :: rest =>
    if c = '"' then .ok ([], rest)
    else if c = '\\' then
      match rest with
      | [] => stopAt .unterminatedText opening
      | 'u' :: a :: b :: d :: e :: more =>
        match (if more.isEmpty then none else hexNumber? [a, b, d, e]) with
        | some code => addCode code (readCodes opening more)
        | none => stopAt .badCodeEscape rest
      | 'u' :: _ => stopAt .badCodeEscape rest
      | e :: more =>
        match escaped? e with
        | some char => addCode char.toNat (readCodes opening more)
        | none => stopAt .badEscape (c :: rest)
    else if c < ' ' then stopAt .controlCharacter (c :: rest)
    else addCode c.toNat (readCodes opening rest)

/-- Whether a code is the first half of a pair that stands for one character. -/
def isHighHalf (code : Nat) : Bool :=
  0xD800 ≤ code && code < 0xDC00

/-- Whether a code is the second half of a pair that stands for one character. -/
def isLowHalf (code : Nat) : Bool :=
  0xDC00 ≤ code && code < 0xE000

/-- The character of a code; half of a pair alone stands for no character. -/
def charOfCode (code : Nat) : Char :=
  if isHighHalf code || isLowHalf code then '\uFFFD' else Char.ofNat code

/-- The characters of codes, where two halves that follow each other form one character. -/
def charsOfCodes : List Nat → List Char
  | [] => []
  | high :: rest =>
    if isHighHalf high then
      match rest with
      | low :: more =>
        if isLowHalf low then
          Char.ofNat (0x10000 + (high - 0xD800) * 0x400 + (low - 0xDC00)) :: charsOfCodes more
        else '\uFFFD' :: charsOfCodes (low :: more)
      | [] => ['\uFFFD']
    else charOfCode high :: charsOfCodes rest

/-- Reads a text after its opening quote. -/
def readText (rest : List Char) : Read String :=
  (readCodes ('"' :: rest) rest).map fun (codes, left) =>
    (String.ofList (charsOfCodes codes), left)

/-! ### Numbers -/

/-- The decimal digits at the start of a text, and what follows them. -/
def spanDigits (text : List Char) : List Char × List Char :=
  (text.takeWhile Char.isDigit, text.dropWhile Char.isDigit)

/-- Reads the fraction of a number, if one follows. -/
def readFraction : List Char → List Char × List Char
  | '.' :: rest =>
    match spanDigits rest with
    | ([], _) => ([], '.' :: rest)
    | found => found
  | rest => ([], rest)

/-- Reads the exponent of a number, if one follows. -/
def readExponent (text : List Char) : Option Int × List Char :=
  match text with
  | e :: rest =>
    if e = 'e' || e = 'E' then
      let (negative, digits) := match rest with
        | '-' :: digits => (true, digits)
        | '+' :: digits => (false, digits)
        | digits => (false, digits)
      match spanDigits digits with
      | ([], _) => (none, text)
      | (found, left) =>
        let n := Number.ofDigits (found.map fun c => c.toNat - '0'.toNat)
        (some (if negative then -(n : Int) else n), left)
    else (none, text)
  | [] => (none, text)

/-- Reads the digits in front of a fraction: a zero alone, or digits that do not start with
zero. -/
def readWhole : List Char → List Char × List Char
  | '0' :: rest => (['0'], rest)
  | rest => spanDigits rest

/-- Reads a number. -/
def readNumber (text : List Char) : Read Json :=
  let (negative, unsigned) := match text with
    | '-' :: rest => (true, rest)
    | rest => (false, rest)
  match readWhole unsigned with
  | ([], _) => stopAt .expectedValue text
  | (whole, rest) =>
    let (fraction, rest) := readFraction rest
    let (exponent, rest) := readExponent rest
    let digits := Number.ofDigits ((whole ++ fraction).map fun c => c.toNat - '0'.toNat)
    if fraction.isEmpty && exponent.isNone then
      .ok (.integer (if negative then -(digits : Int) else digits), rest)
    else
      let x := Number.nearestFloat digits (exponent.getD 0 - fraction.length)
      .ok (.float (if negative then -x else x), rest)

/-! ### Values -/

/-- The values that are written as a word. -/
def wordValues : List (String × Json) :=
  [("null", .null), ("true", .bool true), ("false", .bool false), ("NaN", .float (0.0 / 0.0)),
   ("Infinity", .float (1.0 / 0.0)), ("-Infinity", .float (-1.0 / 0.0))]

/-- Reads a value that is written as a word, if there is one. -/
def readWord? (text : List Char) : Option (Json × List Char) :=
  (wordValues.find? fun (word, _) => word.toList.isPrefixOf text).map fun (word, value) =>
    (value, text.drop word.length)

mutual

/-- Reads a value. The first argument bounds the steps; every step passes a character or goes
from a bracket to what is inside. -/
def readValue : Nat → List Char → Read Json
  | 0, text => stopAt .expectedValue text
  | fuel + 1, text =>
    match text with
    | '"' :: rest => (readText rest).map fun (value, left) => (.string value, left)
    | '[' :: rest =>
      match skipSpace rest with
      | ']' :: left => .ok (.array [], left)
      | items => (readItems fuel items).map fun (found, left) => (.array found, left)
    | '{' :: rest =>
      match skipSpace rest with
      | '}' :: left => .ok (.object [], left)
      | members => (readMembers fuel [] members).map fun (found, left) => (.object found, left)
    | _ =>
      match readWord? text with
      | some found => .ok found
      | none => readNumber text

/-- Reads the items of an array and its closing bracket. -/
def readItems : Nat → List Char → Read (List Json)
  | 0, text => stopAt .expectedValue text
  | fuel + 1, text =>
    match readValue fuel text with
    | .error stop => .error stop
    | .ok (item, rest) =>
      match skipSpace rest with
      | ']' :: left => .ok ([item], left)
      | ',' :: more =>
        (readItems fuel (skipSpace more)).map fun (items, left) => (item :: items, left)
      | other => stopAt .expectedComma other

/-- Reads the members of an object and its closing brace, after the members `found`. -/
def readMembers : Nat → List (String × Json) → List Char → Read (List (String × Json))
  | 0, _, text => stopAt .expectedName text
  | fuel + 1, found, text =>
    match text with
    | '"' :: rest =>
      match readText rest with
      | .error stop => .error stop
      | .ok (name, rest) =>
        match skipSpace rest with
        | ':' :: rest =>
          match readValue fuel (skipSpace rest) with
          | .error stop => .error stop
          | .ok (value, rest) =>
            let found := Pairs.insert name value found
            match skipSpace rest with
            | '}' :: left => .ok (found, left)
            | ',' :: more => readMembers fuel found (skipSpace more)
            | other => stopAt .expectedComma other
        | other => stopAt .expectedColon other
    | other => stopAt .expectedName other

end

/-! ### Whole texts -/

/-- A flaw and where it is: the position counts characters from zero, line and column count from
one. -/
structure Fault where
  flaw : Flaw
  position : Nat
  line : Nat
  column : Nat
  deriving DecidableEq, Repr

/-- The fault at a position of a text. -/
def Fault.at (text : List Char) (flaw : Flaw) (position : Nat) : Fault :=
  let before := text.take position
  { flaw
    position
    line := before.count '\n' + 1
    column := (before.reverse.takeWhile (· != '\n')).length + 1 }

/-- Reads a text that holds one value. -/
def readChars (text : List Char) : Except Stop Json :=
  match text with
  | '\uFEFF' :: _ => .error ⟨.byteOrderMark, text.length⟩
  | _ =>
    match readValue (2 * text.length + 2) (skipSpace text) with
    | .error stop => .error stop
    | .ok (value, rest) =>
      match skipSpace rest with
      | [] => .ok value
      | extra => .error ⟨.extraData, extra.length⟩

/-- Reads a text that holds one value, or says what is wrong and where. -/
def read (text : String) : Except Fault Json :=
  let chars := text.toList
  (readChars chars).mapError fun stop => Fault.at chars stop.flaw (chars.length - stop.left)

/-- The text of a flaw. -/
def Flaw.message : Flaw → String
  | .byteOrderMark => "Unexpected UTF-8 BOM (decode using utf-8-sig)"
  | .expectedValue => "Expecting value"
  | .expectedName => "Expecting property name enclosed in double quotes"
  | .expectedColon => "Expecting ':' delimiter"
  | .expectedComma => "Expecting ',' delimiter"
  | .extraData => "Extra data"
  | .unterminatedText => "Unterminated string starting at"
  | .controlCharacter => "Invalid control character at"
  | .badEscape => "Invalid \\escape"
  | .badCodeEscape => "Invalid \\uXXXX escape"

/-- The text of a fault. -/
def Fault.message (fault : Fault) : String :=
  fault.flaw.message ++ ": line " ++ toString fault.line ++ " column " ++ toString fault.column ++
    " (char " ++ toString fault.position ++ ")"

end SchemaPages.Json
