import SchemaPages.Text.Quoted
import SchemaPages.Text.Split

/-!
# Options on a command line

Arguments that start with a dash are options, until two dashes alone end them. An option has a name
of several letters after two dashes, and possibly one of a single letter after one dash. A value
follows in the next argument, behind an equals sign after the long name, or directly behind the
short one; short options without values can be joined. Everything else is positional; a command
can ask that options end at the first positional argument.
-/

namespace SchemaPages.CommandLine

/-- An option of a command, by what the command calls it. -/
structure Switch (κ : Type) where
  key : κ
  /-- The name of several letters, with its dashes. -/
  long : String
  /-- The name of one letter. -/
  short : Option Char
  takesValue : Bool

/-- Why arguments cannot be divided into options and positional arguments. -/
inductive OptionError where
  | unknown (name : String)
  | valueMissing (name : String)
  | valueNotTaken (name : String)
  deriving DecidableEq, Repr

/-- The text of an error. -/
def OptionError.message : OptionError → String
  | .unknown name => "No such option: " ++ name
  | .valueMissing name => "Option " ++ Text.quoted name ++ " requires an argument."
  | .valueNotTaken name => "Option " ++ Text.quoted name ++ " does not take a value."

/-- The options that are given, each with its value (empty if it takes none), and the positional
arguments. -/
structure Given (κ : Type) where
  options : List (κ × String)
  positional : List String

/-- An option whose value is the next argument, by the name that it is given with. -/
abbrev Pending (κ : Type) := Option (κ × String)

variable {κ : Type}

/-- Puts options in front of those that are given. -/
def Given.after (given : Given κ) (options : List (κ × String)) : Given κ :=
  { given with options := options ++ given.options }

/-- The options in an argument with short names, and the one that waits for its value. -/
def readShort (switches : List (Switch κ)) : List Char →
    Except OptionError (List (κ × String) × Pending κ)
  | [] => .ok ([], none)
  | c :: rest =>
    let name := String.ofList ['-', c]
    match switches.find? (·.short = some c) with
    | none => .error (.unknown name)
    | some switch =>
      if !switch.takesValue then
        (readShort switches rest).map fun (options, pending) =>
          ((switch.key, "") :: options, pending)
      else if rest.isEmpty then .ok ([], some (switch.key, name))
      else .ok ([(switch.key, String.ofList rest)], none)

/-- The name in an argument, and the value behind an equals sign. -/
def splitValue (argument : List Char) : String × Option String :=
  match Text.cutFirst '=' argument with
  | some (name, value) => (String.ofList name, some (String.ofList value))
  | none => (String.ofList argument, none)

/-- The options in an argument that starts with a dash. -/
def readOption (switches : List (Switch κ)) (argument : List Char) :
    Except OptionError (List (κ × String) × Pending κ) :=
  let (name, value) := splitValue argument
  match switches.find? (·.long = name) with
  | some switch =>
    match switch.takesValue, value with
    | true, some value => .ok ([(switch.key, value)], none)
    | true, none => .ok ([], some (switch.key, name))
    | false, some _ => .error (.valueNotTaken name)
    | false, none => .ok ([(switch.key, "")], none)
  | none =>
    if "--".toList.isPrefixOf argument then .error (.unknown name)
    else readShort switches argument.tail

/-- Whether an argument is an option. -/
def isOption (argument : List Char) : Bool :=
  argument.head? = some '-' && 1 < argument.length

/-- Divides arguments, where `pending` is an option that waits for its value. `interspersed` allows
options behind positional arguments. -/
def divideFrom (switches : List (Switch κ)) (interspersed : Bool) (pending : Pending κ) :
    List String → Except OptionError (Given κ)
  | [] =>
    match pending with
    | some (_, name) => .error (.valueMissing name)
    | none => .ok ⟨[], []⟩
  | argument :: rest =>
    match pending with
    | some (key, _) =>
      (divideFrom switches interspersed none rest).map (·.after [(key, argument)])
    | none =>
      if argument = "--" then .ok ⟨[], rest⟩
      else if isOption argument.toList then
        match readOption switches argument.toList with
        | .error error => .error error
        | .ok (options, pending) =>
          (divideFrom switches interspersed pending rest).map (·.after options)
      else if interspersed then
        (divideFrom switches interspersed none rest).map fun given =>
          { given with positional := argument :: given.positional }
      else .ok ⟨[], argument :: rest⟩

/-- Divides arguments into options and positional arguments. -/
def divide (switches : List (Switch κ)) (interspersed : Bool) (arguments : List String) :
    Except OptionError (Given κ) :=
  divideFrom switches interspersed none arguments

namespace Given

variable [BEq κ]

/-- Whether an option is given. -/
def has (given : Given κ) (key : κ) : Bool :=
  given.options.any (·.1 == key)

/-- All values of an option. -/
def values (given : Given κ) (key : κ) : List String :=
  (given.options.filter (·.1 == key)).map Prod.snd

/-- The last value of an option. -/
def value? (given : Given κ) (key : κ) : Option String :=
  (given.values key).getLast?

/-- The options that are given, each one once, in the order in which they come first. -/
def keys (given : Given κ) : List κ :=
  (given.options.map Prod.fst).eraseDups

end Given

end SchemaPages.CommandLine
