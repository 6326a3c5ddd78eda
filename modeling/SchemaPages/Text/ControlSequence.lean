/-!
# Control sequences of a terminal

A terminal takes some characters for an instruction, say to change the colour: an escape character,
an opening bracket, parameters and a letter. `withoutControls` drops such sequences. It goes through
a text once, so what comes to stand side by side by that stays as it is.
-/

namespace SchemaPages.Text

/-- Whether a character may be among the parameters of a control sequence. -/
def isParameter (c : Char) : Bool :=
  c.isDigit || c = ';' || c = '?'

/-- The length of the control sequence at the start of a text; zero if there is none. -/
def controlLength : List Char → Nat
  | '\x1b' :: '[' :: rest =>
    let parameters := rest.takeWhile isParameter
    if (rest.drop parameters.length).head?.any Char.isAlpha then parameters.length + 3 else 0
  | _ => 0

/-- Passes some characters, and drops the control sequences after them. -/
def dropControls : Nat → List Char → List Char
  | _, [] => []
  | skipped + 1, _ :: rest => dropControls skipped rest
  | 0, c :: rest =>
    match controlLength (c :: rest) with
    | 0 => c :: dropControls 0 rest
    | length + 1 => dropControls length rest

/-- A text without control sequences. -/
def withoutControls (text : String) : String :=
  String.ofList (dropControls 0 text.toList)

end SchemaPages.Text
