import SchemaPages.Text.Split
import SchemaPages.Yaml.Timestamp

/-!
# Tags, and the tag of a plain scalar

The tag of a node says what it stands for. Tags of the standard repertoire are told apart from
each other; all others are unknown. A scalar that is written plainly and without a tag gets its
tag from its notation: `Tag.ofPlain` recognises truth values, integers, floats, timestamps, the
missing value and two special keys, and takes everything else for text.
-/

namespace SchemaPages.Yaml

/-- What a node stands for. -/
inductive Tag where
  | null
  | bool
  | integer
  | float
  | binary
  | timestamp
  | text
  | sequence
  | mapping
  | set
  | orderedMap
  | pairs
  /-- The key that takes over the entries of other mappings. -/
  | merge
  /-- The key of the default value of a mapping. -/
  | value
  /-- A character that the notation reserves. -/
  | reserved
  | unknown (name : String)
  deriving DecidableEq, Repr

/-- The start of the names of all standard tags. -/
def standardPrefix : String := "tag:yaml.org,2002:"

/-- The standard tags by the rest of their names. -/
def standardTags : List (String × Tag) :=
  [("null", .null), ("bool", .bool), ("int", .integer), ("float", .float), ("binary", .binary),
   ("timestamp", .timestamp), ("str", .text), ("seq", .sequence), ("map", .mapping),
   ("set", .set), ("omap", .orderedMap), ("pairs", .pairs), ("merge", .merge), ("value", .value),
   ("yaml", .reserved)]

/-- The tag with this name. -/
def Tag.ofName (name : String) : Tag :=
  match standardTags.find? fun (short, _) => standardPrefix ++ short = name with
  | some (_, tag) => tag
  | none => .unknown name

/-! ### Notations of plain scalars -/

/-- The words for truth values. -/
def boolWords : List (String × Bool) :=
  [("yes", true), ("Yes", true), ("YES", true), ("no", false), ("No", false), ("NO", false),
   ("true", true), ("True", true), ("TRUE", true), ("false", false), ("False", false),
   ("FALSE", false), ("on", true), ("On", true), ("ON", true), ("off", false), ("Off", false),
   ("OFF", false)]

/-- The words for the missing value. -/
def nullWords : List String :=
  ["", "~", "null", "Null", "NULL"]

/-- Whether a character is a digit or an underscore. -/
def isDigitOrGap (c : Char) : Bool :=
  c.isDigit || c = '_'

/-- Whether a character is a hexadecimal digit. -/
def isHexDigit (c : Char) : Bool :=
  c.isDigit || ('a' ≤ c && c ≤ 'f') || ('A' ≤ c && c ≤ 'F')

/-- The text without a sign at its start. -/
def dropSign : List Char → List Char
  | c :: rest => if c = '+' || c = '-' then rest else c :: rest
  | [] => []

/-- Non-empty text of characters of one class. -/
def allOf (p : Char → Bool) (text : List Char) : Bool :=
  !text.isEmpty && text.all p

/-- A number below sixty: one digit, or two of which the first is at most five. -/
def isSixtieth : List Char → Bool
  | [d] => d.isDigit
  | [d, e] => '0' ≤ d && d ≤ '5' && e.isDigit
  | _ => false

/-- Digits and underscores that start with a digit of a class. -/
def startsWithDigit (p : Char → Bool) : List Char → Bool
  | d :: rest => p d && rest.all isDigitOrGap
  | [] => false

/-- Whether a digit is not zero. -/
def isNonZeroDigit (c : Char) : Bool :=
  c.isDigit && c ≠ '0'

/-- The notation of an integer without a sign: binary, hexadecimal, octal, decimal, or in groups
of base sixty. -/
def isUnsignedInteger (text : List Char) : Bool :=
  match text with
  | ['0'] => true
  | '0' :: 'b' :: digits => allOf (fun c => c = '0' || c = '1' || c = '_') digits
  | '0' :: 'x' :: digits => allOf (fun c => isHexDigit c || c = '_') digits
  | '0' :: digits => allOf (fun c => ('0' ≤ c && c ≤ '7') || c = '_') digits
  | _ =>
    match Text.splitAtChar ':' text with
    | first :: groups => startsWithDigit isNonZeroDigit first && groups.all isSixtieth
    | [] => false

/-- The notation of an integer. -/
def isInteger (text : List Char) : Bool :=
  isUnsignedInteger (dropSign text)

/-- The exponent of a float: nothing, or a letter, a sign and digits. -/
def isExponent : List Char → Bool
  | [] => true
  | e :: sign :: digits =>
    (e = 'e' || e = 'E') && (sign = '+' || sign = '-') && allOf Char.isDigit digits
  | _ => false

/-- A fraction with an exponent. -/
def isFraction (text : List Char) : Bool :=
  isExponent (text.dropWhile isDigitOrGap)

/-- The notation of a finite float. -/
def isFiniteFloat (text : List Char) : Bool :=
  match Text.cutFirst '.' (dropSign text) with
  | none => false
  | some ([], fraction) =>
    -- A float without digits in front of the point takes no sign.
    dropSign text = text && startsWithDigit Char.isDigit (fraction.takeWhile isDigitOrGap) &&
      isFraction fraction
  | some (whole, fraction) =>
    match Text.splitAtChar ':' whole with
    | [digits] => startsWithDigit Char.isDigit digits && isFraction fraction
    | first :: groups =>
      startsWithDigit Char.isDigit first && groups.all isSixtieth && fraction.all isDigitOrGap
    | [] => false

/-- The notation of an infinite float. -/
def isInfinity (text : List Char) : Bool :=
  (dropSign text) ∈ [".inf", ".Inf", ".INF"].map String.toList

/-- The notation of a float that is no number. -/
def isNotANumber (text : List Char) : Bool :=
  text ∈ [".nan", ".NaN", ".NAN"].map String.toList

/-- The notation of a timestamp; a date alone has two digits for month and day. -/
def isTimestamp (text : List Char) : Bool :=
  match Timestamp.read? text with
  | some t => t.clock.isSome || text.length = 10
  | none => false

/-- A text without one line feed at its end, unless that is all of it. -/
def dropFinalLineFeed (text : List Char) : List Char :=
  if 1 < text.length ∧ text.getLast? = some '\n' then text.dropLast else text

/-- The tag of a scalar that is written plainly. -/
def Tag.ofPlain (text : String) : Tag :=
  let chars := dropFinalLineFeed text.toList
  let word := String.ofList chars
  if nullWords.contains word then .null
  else if (boolWords.lookup word).isSome then .bool
  else if isInteger chars then .integer
  else if isFiniteFloat chars || isInfinity chars || isNotANumber chars then .float
  else if isTimestamp chars then .timestamp
  else if word = "<<" then .merge
  else if word = "=" then .value
  else if word = "!" || word = "&" || word = "*" then .reserved
  else .text

end SchemaPages.Yaml
