/-!
# Sets and maps of code points

A property of characters is a list of closed ranges of code points in ascending order, and a case
mapping is a list of runs: the characters `first`, `first + step`, … up to `last`, each of which
is moved by the same distance. Both are data of the Unicode standard (version 14); the modules
that hold the data say which property it is.
-/

namespace SchemaPages.Text

/-- A set of characters, given by the closed ranges of their code points. -/
abbrev CodeRanges := List (Nat × Nat)

/-- Whether the code point of a character lies in one of the ranges. -/
def CodeRanges.contains (ranges : CodeRanges) (c : Char) : Bool :=
  ranges.any fun (first, last) => first ≤ c.toNat && c.toNat ≤ last

/-- Every `step`-th character from `first` to `last`, each mapped `shift` code points further. -/
structure CaseRun where
  first : Nat
  last : Nat
  step : Nat
  shift : Int
  deriving DecidableEq, Repr

/-- Whether a run maps the character with this code point. -/
def CaseRun.covers (run : CaseRun) (code : Nat) : Bool :=
  run.first ≤ code && code ≤ run.last && (code - run.first) % run.step == 0

/-- The image of a character under a list of runs, if one of them maps it. -/
def CaseRun.image? (runs : List CaseRun) (c : Char) : Option Char :=
  (runs.find? (·.covers c.toNat)).map fun run => Char.ofNat (Int.toNat (c.toNat + run.shift))

/-- The image of a character under a map to texts of several characters, given by code points. -/
def image? (table : List (Nat × List Nat)) (c : Char) : Option (List Char) :=
  (table.lookup c.toNat).map (·.map Char.ofNat)

end SchemaPages.Text
