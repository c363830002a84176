/-! What may stand between the parts of a TOML text: blanks, comments and line ends. -/

namespace DeviceUpdate.Toml

/-- A space or a tab. -/
def isBlank (c : Char) : Bool :=
  c == ' ' || c == '\t'

/-- A character that is no control, tabs apart. -/
def isVisible (c : Char) : Bool :=
  c == '\t' || (' ' ≤ c && c != '\x7f')

/-- The text after the blanks at its start. -/
def skipBlanks (cs : List Char) : List Char :=
  cs.dropWhile isBlank

/-- The text after the comment at its start. -/
def skipComment : List Char → List Char
  | '#' :: rest => rest.dropWhile isVisible
  | cs => cs

/-- The text after a line end. -/
def newline? : List Char → Option (List Char)
  | '\n' :: rest => some rest
  | '\r' :: '\n' :: rest => some rest
  | _ => none

/-- The text after the rest of a line on which nothing but a comment stands. -/
def endLine? (cs : List Char) : Option (List Char) :=
  match skipComment (skipBlanks cs) with
  | [] => some []
  | cs => newline? cs

/-- The text after blanks, line ends and comments; the flag tells whether it starts in a comment. -/
def skipLayout : Bool → List Char → List Char
  | _, '\n' :: rest => skipLayout false rest
  | _, '\r' :: '\n' :: rest => skipLayout false rest
  | true, c :: rest => if isVisible c then skipLayout true rest else c :: rest
  | false, '#' :: rest => skipLayout true rest
  | false, c :: rest => if isBlank c then skipLayout false rest else c :: rest
  | _, [] => []

end DeviceUpdate.Toml
