import SchemaPages.Text.Blank

/-!
# Numbers written as text

`readInt` reads an integer in some base and `readFloat` a decimal or one of the special floats.
Both skip blank characters around the number, other than the separators U+001C to U+001F, accept a
sign and know the decimal digits of every script. In an integer a single underscore may stand
between two digits, and a base other than ten may be announced by its letter, as in `0x1f`.

A decimal is rounded to the nearest float; one that is out of range becomes infinite or zero.
-/

namespace SchemaPages.Number

/-! ### What stands around a number -/

/-- Whether a character may stand around a number. -/
def isPadding (c : Char) : Bool :=
  Text.isBlank c && !(0x1C ≤ c.toNat && c.toNat ≤ 0x1F)

/-- Drops what may stand around a number. -/
def dropPadding (text : List Char) : List Char :=
  ((text.dropWhile isPadding).reverse.dropWhile isPadding).reverse

/-! ### Digits -/

/-- The code points of the digits zero of the scripts that have decimal digits. -/
def zeroCodes : List Nat :=
  [0x30, 0x660, 0x6F0, 0x7C0, 0x966, 0x9E6, 0xA66, 0xAE6, 0xB66, 0xBE6, 0xC66, 0xCE6, 0xD66,
   0xDE6, 0xE50, 0xED0, 0xF20, 0x1040, 0x1090, 0x17E0, 0x1810, 0x1946, 0x19D0, 0x1A80, 0x1A90,
   0x1B50, 0x1BB0, 0x1C40, 0x1C50, 0xA620, 0xA8D0, 0xA900, 0xA9D0, 0xA9F0, 0xAA50, 0xABF0, 0xFF10,
   0x104A0, 0x10D30, 0x11066, 0x110F0, 0x11136, 0x111D0, 0x112F0, 0x11450, 0x114D0, 0x11650,
   0x116C0, 0x11730, 0x118E0, 0x11950, 0x11C50, 0x11D50, 0x11DA0, 0x16A60, 0x16AC0, 0x16B50,
   0x1D7CE, 0x1D7D8, 0x1D7E2, 0x1D7EC, 0x1D7F6, 0x1E140, 0x1E2F0, 0x1E950, 0x1FBF0]

/-- The value of a decimal digit of any script. -/
def decimalDigit? (c : Char) : Option Nat :=
  (zeroCodes.find? fun z => z ≤ c.toNat && c.toNat < z + 10).map (c.toNat - ·)

/-- The value of a digit or letter as a digit of a base above ten. -/
def digitValue? (c : Char) : Option Nat :=
  if 'a' ≤ c && c ≤ 'z' then some (c.toNat - 'a'.toNat + 10)
  else if 'A' ≤ c && c ≤ 'Z' then some (c.toNat - 'A'.toNat + 10)
  else decimalDigit? c

/-- The value of a digit of this base. -/
def digitOf? (base : Nat) (c : Char) : Option Nat :=
  (digitValue? c).filter (· < base)

/-! ### Integers -/

/-- Reads the rest of an integer after the digits worth `n`. The flag tells whether an underscore
was the last character. -/
def readDigits (base n : Nat) (afterUnderscore : Bool) : List Char → Option Nat
  | [] => if afterUnderscore then none else some n
  | c :: rest =>
    if c = '_' then if afterUnderscore then none else readDigits base n true rest
    else
      match digitOf? base c with
      | some d => readDigits base (n * base + d) false rest
      | none => none

/-- The letter that announces a base. -/
def baseLetter? : Nat → Option Char
  | 2 => some 'b'
  | 8 => some 'o'
  | 16 => some 'x'
  | _ => none

/-- Drops the announcement of the base and one underscore after it. -/
def dropBasePrefix (base : Nat) : List Char → List Char
  | '0' :: c :: rest =>
    if baseLetter? base = some c.toLower then
      match rest with
      | '_' :: digits => digits
      | digits => digits
    else '0' :: c :: rest
  | text => text

/-- Reads an integer without a sign. -/
def readNat (base : Nat) (text : List Char) : Option Nat :=
  match dropBasePrefix base text with
  | [] => none
  | '_' :: _ => none
  | digits => readDigits base 0 false digits

/-- Reads an integer. -/
def readInt (base : Nat) (text : String) : Option Int :=
  match dropPadding text.toList with
  | '-' :: digits => (readNat base digits).map fun n => -(n : Int)
  | '+' :: digits => (readNat base digits).map Int.ofNat
  | digits => (readNat base digits).map Int.ofNat

/-- How many decimal digits a text that is read as an integer may have. Only the readers that are
said to keep this limit do. -/
def digitLimit : Nat := 4300

/-- What is said of a text with more decimal digits than that. -/
def tooManyDigits (count : Nat) : String :=
  "Exceeds the limit (" ++ toString digitLimit ++ " digits) for integer string conversion: " ++
    "value has " ++ toString count ++ " digits; " ++
    "use sys.set_int_max_str_digits() to increase the limit"

/-! ### Floats -/

/-- The float nearest to `digits · 10 ^ place`. -/
def nearestFloat (digits : Nat) (place : Int) : Float :=
  let size := (Nat.toDigits 10 digits).length + place
  if digits = 0 ∨ size < -330 then 0.0
  else if 310 < size then 1.0 / 0.0
  else Float.ofScientific digits (place < 0) place.natAbs

/-- The decimal digits at the start of a text, as values, and the rest. -/
def leadingDigits : List Char → List Nat × List Char
  | [] => ([], [])
  | c :: rest =>
    match decimalDigit? c with
    | some d => let (digits, more) := leadingDigits rest; (d :: digits, more)
    | none => ([], c :: rest)

/-- The number with these decimal digits. -/
def ofDigits (digits : List Nat) : Nat :=
  digits.foldl (fun n d => 10 * n + d) 0

/-- Reads the exponent of a decimal, up to the end of the text. -/
def readExponent : List Char → Option Int
  | [] => some 0
  | e :: rest =>
    if e = 'e' || e = 'E' then
      let (negative, digits) := match rest with
        | '-' :: digits => (true, digits)
        | '+' :: digits => (false, digits)
        | digits => (false, digits)
      match leadingDigits digits with
      | ([], _) => none
      | (ds, []) => some (if negative then -(ofDigits ds : Int) else ofDigits ds)
      | _ => none
    else none

/-- Reads a decimal without a sign. -/
def readDecimal (text : List Char) : Option Float :=
  let (whole, rest) := leadingDigits text
  let (fraction, rest) := match rest with
    | '.' :: more => leadingDigits more
    | more => ([], more)
  if whole.isEmpty && fraction.isEmpty then none
  else (readExponent rest).map fun e =>
    nearestFloat (ofDigits (whole ++ fraction)) (e - fraction.length)

/-- Reads a float without a sign. -/
def readUnsignedFloat (text : List Char) : Option Float :=
  let word := String.ofList (text.map Char.toLower)
  if word = "inf" || word = "infinity" then some (1.0 / 0.0)
  else if word = "nan" then some (0.0 / 0.0)
  else readDecimal text

/-- Reads a float. -/
def readFloat (text : String) : Option Float :=
  match dropPadding text.toList with
  | '-' :: rest => (readUnsignedFloat rest).map (-·)
  | '+' :: rest => readUnsignedFloat rest
  | rest => readUnsignedFloat rest

/-- The greatest float as an integer, plus half the distance to the next one: from here on an
integer is out of range. -/
def floatBound : Nat := Nat.pow 2 1024 - Nat.pow 2 970

/-- The float nearest to an integer, unless the integer is out of range. -/
def floatOfInt (n : Int) : Option Float :=
  if floatBound ≤ n.natAbs then none
  else
    let x := Float.ofScientific n.natAbs false 0
    some (if n < 0 then -x else x)

/-- What is said of an integer to which no float is near. -/
def tooLargeForFloat : String := "int too large to convert to float"

end SchemaPages.Number
