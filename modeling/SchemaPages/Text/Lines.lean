/-!
# Line ends

Text that is read from a file or from standard input may end its lines with a line feed, with a
carriage return, or with both. Inside the program a line ends with a line feed alone.
-/

namespace SchemaPages.Text

/-- Turns every line end into a line feed. -/
def unifyLineEnds : List Char → List Char
  | [] => []
  | '\r' :: '\n' :: rest => '\n' :: unifyLineEnds rest
  | c :: rest => (if c = '\r' then '\n' else c) :: unifyLineEnds rest

end SchemaPages.Text
