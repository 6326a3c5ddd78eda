import SchemaPages.Number.Literal

/-!
# Timestamps

A date such as `2001-12-14`, or a date with a time such as `2001-12-14t21:59:43.10-05:00`.
`Timestamp.read?` recognises the notation and `Timestamp.fault?` says what keeps a timestamp from
being a point in time, if anything does.
-/

namespace SchemaPages.Yaml

/-- A difference to universal time. -/
inductive Zone where
  | universal
  | offset (negative : Bool) (hours minutes : Nat)
  deriving DecidableEq, Repr

/-- A time of day. -/
structure Clock where
  hour : Nat
  minute : Nat
  second : Nat
  /-- The digits of the fraction of a second. -/
  fraction : List Char
  zone : Option Zone
  deriving DecidableEq, Repr

/-- A date, with a time of day or without. -/
structure Timestamp where
  year : Nat
  month : Nat
  day : Nat
  clock : Option Clock
  deriving DecidableEq, Repr

/-! ### The notation -/

/-- The value of ASCII digits. -/
def digitsValue (digits : List Char) : Nat :=
  Number.ofDigits (digits.map fun c => c.toNat - '0'.toNat)

/-- Reads between `least` and `most` digits, as many as there are. -/
def takeDigits (least most : Nat) (text : List Char) : Option (Nat × List Char) :=
  let digits := (text.take most).takeWhile Char.isDigit
  if least ≤ digits.length then some (digitsValue digits, text.drop digits.length) else none

/-- Passes a character. -/
def passChar (c : Char) : List Char → Option (List Char)
  | d :: rest => if c = d then some rest else none
  | [] => none

/-- Whether a character may separate the parts of a timestamp. -/
def isGap (c : Char) : Bool :=
  c = ' ' || c = '\t'

/-- Reads the zone at the end of a timestamp. -/
def readZone (text : List Char) : Option (Option Zone) :=
  match text with
  | [] => some none
  | _ =>
    match text.dropWhile isGap with
    | ['Z'] => some (some .universal)
    | sign :: rest =>
      if sign = '+' || sign = '-' then do
        let (hours, rest) ← takeDigits 1 2 rest
        match rest with
        | [] => some (some (.offset (sign = '-') hours 0))
        | ':' :: rest =>
          let (minutes, rest) ← takeDigits 2 2 rest
          if rest.isEmpty then some (some (.offset (sign = '-') hours minutes)) else none
        | _ => none
      else none
    | [] => none

/-- Reads a time of day up to the end of the text. -/
def readClock (text : List Char) : Option Clock := do
  let (hour, rest) ← takeDigits 1 2 text
  let (minute, rest) ← takeDigits 2 2 (← passChar ':' rest)
  let (second, rest) ← takeDigits 2 2 (← passChar ':' rest)
  let (fraction, rest) := match rest with
    | '.' :: more => (more.takeWhile Char.isDigit, more.dropWhile Char.isDigit)
    | more => ([], more)
  let zone ← readZone rest
  return { hour, minute, second, fraction, zone }

/-- Recognises a timestamp. -/
def Timestamp.read? (text : List Char) : Option Timestamp := do
  let (year, rest) ← takeDigits 4 4 text
  let (month, rest) ← takeDigits 1 2 (← passChar '-' rest)
  let (day, rest) ← takeDigits 1 2 (← passChar '-' rest)
  match rest with
  | [] => return { year, month, day, clock := none }
  | c :: more =>
    let clock ←
      if c = 'T' || c = 't' then readClock more
      else if isGap c then readClock (more.dropWhile isGap)
      else none
    return { year, month, day, clock := some clock }

/-! ### Points in time -/

/-- Why a timestamp is no point in time. -/
inductive TimeFault where
  | year (number : Nat)
  | month
  | day
  | hour
  | minute
  | second
  | zone (negative : Bool) (minutes : Nat)
  deriving DecidableEq, Repr

/-- Whether a year has a leap day. -/
def isLeapYear (year : Nat) : Bool :=
  year % 4 = 0 && (year % 100 ≠ 0 || year % 400 = 0)

/-- The days of a month. -/
def daysInMonth (year month : Nat) : Nat :=
  if month = 2 then if isLeapYear year then 29 else 28
  else if month ∈ [4, 6, 9, 11] then 30 else 31

/-- A zone must be less than a day away. -/
def Zone.fault? : Zone → Option TimeFault
  | .universal => none
  | .offset negative hours minutes =>
    if 24 * 60 ≤ 60 * hours + minutes then some (.zone negative (60 * hours + minutes)) else none

/-- What keeps a timestamp from being a point in time; the zone is looked at first. -/
def Timestamp.fault? (t : Timestamp) : Option TimeFault :=
  match (t.clock.bind (·.zone)).bind Zone.fault? with
  | some fault => some fault
  | none =>
    if t.year = 0 then some (.year t.year)
    else if t.month = 0 ∨ 12 < t.month then some .month
    else if t.day = 0 ∨ daysInMonth t.year t.month < t.day then some .day
    else
      match t.clock with
      | none => none
      | some clock =>
        if 23 < clock.hour then some .hour
        else if 59 < clock.minute then some .minute
        else if 59 < clock.second then some .second
        else none

/-- A difference of time, as days and the seconds after them. -/
def differenceText (negative : Bool) (minutes : Nat) : String :=
  let total : Int := if negative then -(minutes : Int) else minutes
  let days := total / (24 * 60)
  let seconds := total % (24 * 60) * 60
  "datetime.timedelta(days=" ++ toString days ++
    (if seconds = 0 then "" else ", seconds=" ++ toString seconds) ++ ")"

/-- The text of a fault. -/
def TimeFault.message : TimeFault → String
  | .year number => "year " ++ toString number ++ " is out of range"
  | .month => "month must be in 1..12"
  | .day => "day is out of range for month"
  | .hour => "hour must be in 0..23"
  | .minute => "minute must be in 0..59"
  | .second => "second must be in 0..59"
  | .zone negative minutes =>
    "offset must be a timedelta strictly between -timedelta(hours=24) and timedelta(hours=24), " ++
      "not " ++ differenceText negative minutes ++ "."

end SchemaPages.Yaml
