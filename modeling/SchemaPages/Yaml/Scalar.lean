import SchemaPages.Text.LetterCase
import SchemaPages.Text.Quoted
import SchemaPages.Text.Utf8
import SchemaPages.Yaml.Tag
import SchemaPages.Yaml.Token.Basic

/-!
# Scalar values

What the text of a scalar stands for under its tag. Underscores in numbers do not count, and a
number may be written in groups of base sixty. A text that has no value under its tag is a fault:
bytes and unknown tags break the rules, while a truth value, a number or a timestamp does not
exist.
-/

namespace SchemaPages.Yaml

/-- A value without parts. -/
inductive Scalar where
  | null
  | bool (value : Bool)
  | integer (value : Int)
  | float (value : Float)
  | text (value : String)
  | bytes (content : Text.Bytes)
  | moment (value : Timestamp)
  deriving BEq

namespace Scalar

/-! ### Numbers -/

/-- How much of a text a message about an integer shows. -/
def shownLength : Nat := 200

/-- A text that is no integer in some base. -/
def integerFault (base : Nat) (text : String) : Fault :=
  .noValue ("invalid literal for int() with base " ++ toString base ++ ": " ++
    String.ofList ((Text.quoted text).toList.take shownLength))

/-- A text that is no float. -/
def floatFault (text : String) : Fault :=
  .noValue ("could not convert string to float: " ++ Text.quoted text)

/-- A number of which nothing is left without its underscores and its sign. -/
def emptyNumberFault : Fault :=
  .noValue "string index out of range"

/-- The sign in front of a number, and what follows it. -/
def splitSign : List Char → Bool × List Char
  | '-' :: rest => (true, rest)
  | '+' :: rest => (false, rest)
  | digits => (false, digits)

/-- How many decimal digits a text starts with, behind its padding and its sign. -/
def decimalCount (text : String) : Nat :=
  (Number.leadingDigits (splitSign (Number.dropPadding text.toList)).2).1.length

/-- Reads an integer in some base. The number of its digits is limited in base ten only, and they
are counted before anything else is looked at. -/
def integerIn (base : Nat) (text : String) : Except Fault Int :=
  if base = 10 ∧ Number.digitLimit < decimalCount text then
    .error (digitsFault (decimalCount text))
  else
    match Number.readInt base text with
    | some n => .ok n
    | none => .error (integerFault base text)

/-- Reads a float. -/
def floatIn (text : String) : Except Fault Float :=
  match Number.readFloat text with
  | some x => .ok x
  | none => .error (floatFault text)

/-- The texts of the groups of a number. -/
def groups (text : List Char) : List String :=
  (Text.splitAtChar ':' text).map String.ofList

/-- The integer with these groups of base sixty. -/
def ofGroups (digits : List Int) : Int :=
  digits.foldl (fun n d => 60 * n + d) 0

/-- The sum of groups of base sixty, the last group first; the group at hand is worth `weight`. A
group whose worth has no float makes the number too large. -/
def sumGroups (weight : Nat) (sum : Float) : List Float → Except Fault Float
  | [] => .ok sum
  | x :: rest =>
    match Number.floatOfInt weight with
    | some factor => sumGroups (60 * weight) (sum + x * factor) rest
    | none => .error (.tooLarge Number.tooLargeForFloat)

/-- Reads an integer without a sign; a leading zero makes it octal. -/
def unsignedInteger (text : List Char) : Except Fault Int :=
  match text with
  | [] => .error emptyNumberFault
  | ['0'] => .ok 0
  | '0' :: 'b' :: digits => integerIn 2 (String.ofList digits)
  | '0' :: 'x' :: digits => integerIn 16 (String.ofList digits)
  | '0' :: _ => integerIn 8 (String.ofList text)
  | _ =>
    if text.contains ':' then ofGroups <$> (groups text).mapM (integerIn 10)
    else integerIn 10 (String.ofList text)

/-- Reads an integer. -/
def readInteger (text : String) : Except Fault Int :=
  let (negative, digits) := splitSign (text.toList.filter (· ≠ '_'))
  (unsignedInteger digits).map fun n => if negative then -n else n

/-- Reads a float without a sign. -/
def unsignedFloat (text : List Char) : Except Fault Float :=
  let word := String.ofList text
  if word = ".inf" then .ok (1.0 / 0.0)
  else if word = ".nan" then .ok (0.0 / 0.0)
  else if text.contains ':' then do sumGroups 1 0.0 (← (groups text).mapM floatIn).reverse
  else floatIn word

/-- Reads a float. -/
def readFloat (text : String) : Except Fault Float :=
  match (Text.lower text).toList.filter (· ≠ '_') with
  | [] => .error emptyNumberFault
  | chars =>
    let (negative, digits) := splitSign chars
    (unsignedFloat digits).map fun x => if negative then -x else x

/-! ### Bytes -/

/-- The value of a digit of base sixty-four. -/
def sixBits? (c : Char) : Option Nat :=
  if 'A' ≤ c && c ≤ 'Z' then some (c.toNat - 'A'.toNat)
  else if 'a' ≤ c && c ≤ 'z' then some (c.toNat - 'a'.toNat + 26)
  else if '0' ≤ c && c ≤ '9' then some (c.toNat - '0'.toNat + 52)
  else if c = '+' then some 62
  else if c = '/' then some 63
  else none

/-- Reads bytes in base sixty-four, in groups of four digits. `count` digits of the current group,
worth `bits`, have been read, and `pads` equals signs after them. Other characters are passed;
what follows a group that is filled up with equals signs does not count. -/
def bytesFrom (count bits pads : Nat) : List Char → Except Fault Text.Bytes
  | [] => if count = 0 then .ok [] else malformed
  | c :: rest =>
    if c = '=' then
      if 2 ≤ count then
        if 4 ≤ count + pads + 1 then .ok [] else bytesFrom count bits (pads + 1) rest
      else bytesFrom count bits pads rest
    else
      match sixBits? c with
      | none => bytesFrom count bits pads rest
      | some six =>
        let bits := 64 * bits + six
        match count with
        | 0 => bytesFrom 1 bits 0 rest
        | 1 => ((bits / 16).toUInt8 :: ·) <$> bytesFrom 2 (bits % 16) 0 rest
        | 2 => ((bits / 4).toUInt8 :: ·) <$> bytesFrom 3 (bits % 4) 0 rest
        | _ => (bits.toUInt8 :: ·) <$> bytesFrom 0 0 0 rest

/-- Reads bytes in base sixty-four. -/
def readBytes (text : String) : Except Fault Text.Bytes :=
  if text.toList.all (·.toNat < 128) then bytesFrom 0 0 0 text.toList else malformed

/-! ### All scalars -/

/-- A word that is no truth value. -/
def wordFault (word : String) : Fault :=
  .noValue (Text.quoted word)

/-- A text that is no timestamp. -/
def noTimestampFault : Fault :=
  .noValue "'NoneType' object has no attribute 'groupdict'"

/-- A timestamp that is not a text, but a mapping with a text as its default value. -/
def mappedTimestampFault : Fault :=
  .noValue "expected string or bytes-like object, got 'list'"

/-- Reads a truth value, in any case of letters. -/
def readBool (text : String) : Except Fault Bool :=
  let word := Text.lower text
  match boolWords.lookup word with
  | some value => .ok value
  | none => .error (wordFault word)

/-- Reads a point in time. -/
def readMoment (text : String) : Except Fault Timestamp :=
  match Timestamp.read? (dropFinalLineFeed text.toList) with
  | none => .error noTimestampFault
  | some t =>
    match t.fault? with
    | none => .ok t
    | some fault => .error (.noValue fault.message)

/-- The value of a text under a tag. -/
def ofText (tag : Tag) (value : String) : Except Fault Scalar :=
  match tag with
  | .null => .ok .null
  | .bool => .bool <$> readBool value
  | .integer => .integer <$> readInteger value
  | .float => .float <$> readFloat value
  | .binary => .bytes <$> readBytes value
  | .timestamp => .moment <$> readMoment value
  | .text => .ok (.text value)
  | _ => malformed

end Scalar

end SchemaPages.Yaml
