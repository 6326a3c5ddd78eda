import SchemaPages.Text.CaseTable

/-!
# Lower case and title case

`lower` maps a text to lower case. One letter depends on its neighbours: a capital sigma becomes
the final form at the end of a word, that is, after a cased letter and not before one, where the
case-ignorable characters in between do not count. `title` maps the first cased letter of every
run of cased letters to title case and the others to lower case.
-/

namespace SchemaPages.Text

/-- Whether a character has a case. -/
def isCased (c : Char) : Bool :=
  if c.toNat < 0x80 then c.isAlpha else casedRanges.contains c

/-- Whether a character is skipped in the search for a cased neighbour. -/
def isCaseIgnorable (c : Char) : Bool :=
  caseIgnorableRanges.contains c

/-- The lower case of a character that is not a capital sigma. -/
def lowerChar (c : Char) : List Char :=
  if c.toNat < 0x80 then [c.toLower]
  else (image? lowercaseTexts c).getD [(CaseRun.image? lowercaseRuns c).getD c]

/-- The title case of a character. -/
def titleChar (c : Char) : List Char :=
  if c.toNat < 0x80 then [c.toUpper]
  else (image? titlecaseTexts c).getD [(CaseRun.image? titlecaseRuns c).getD c]

/-- Whether the first character that counts is cased. -/
def startsCased : List Char → Bool
  | [] => false
  | c :: rest => if isCaseIgnorable c then startsCased rest else isCased c

/-- The capital sigma, whose lower case depends on its neighbours. -/
def capitalSigma : Char := 'Σ'

/-- The lower case of a capital sigma between the characters before it, nearest first, and those
after it. -/
def lowerSigma (before after : List Char) : Char :=
  if startsCased before && !startsCased after then 'ς' else 'σ'

/-- The lower case of a character between its neighbours. -/
def lowerBetween (before : List Char) (c : Char) (after : List Char) : List Char :=
  if c = capitalSigma then [lowerSigma before after] else lowerChar c

/-- Lower case of the rest of a text, after the characters `before` (nearest first). -/
def lowerFrom (before : List Char) : List Char → List Char
  | [] => []
  | c :: rest => lowerBetween before c rest ++ lowerFrom (c :: before) rest

/-- A text in lower case. -/
def lower (text : String) : String :=
  String.ofList (lowerFrom [] text.toList)

/-- Title case of the rest of a text, after the characters `before` (nearest first). -/
def titleFrom (before : List Char) : List Char → List Char
  | [] => []
  | c :: rest =>
    let mapped := if before.head?.any isCased then lowerBetween before c rest else titleChar c
    mapped ++ titleFrom (c :: before) rest

/-- A text in title case. -/
def title (text : String) : String :=
  String.ofList (titleFrom [] text.toList)

example : lower "QueryRoot" = "queryroot" := by decide
example : title "query_root" = "Query_Root" := by decide

end SchemaPages.Text
