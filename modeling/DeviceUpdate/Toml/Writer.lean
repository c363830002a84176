import DeviceUpdate.Toml.Value

/-! Written TOML: tables with headers, each key on a line of its own, in the plainest quotation. -/

namespace DeviceUpdate.Toml

/-- A character that cannot stand in any quotation as it is; tabs and line ends are none. -/
def isControl (c : Char) : Bool :=
  !isVisible c && c != '\n'

/-- The length of the longest run of a mark. -/
def longestRun (mark : Char) (cs : List Char) : Nat :=
  (cs.foldl (fun (run : Nat × Nat) c =>
    if c == mark then (run.1 + 1, max run.2 (run.1 + 1)) else (0, run.2)) (0, 0)).2

/-- The quotation in which a text is written: the first that can hold it without escapes. -/
def quotationOf (cs : List Char) : Quotation :=
  let plain := !cs.any isControl
  let line := plain && !cs.contains '\n'
  -- Without need for escapes a text is quoted on one line, preferably by double marks.
  if line && !cs.contains '\\' && !cs.contains '"' then .basic
  else if line && !cs.contains '\'' then .literal
  else if plain && !cs.contains '\\' && longestRun '"' cs ≤ 2 then .multilineBasic
  else if plain && longestRun '\'' cs ≤ 2 then .multilineLiteral
  -- Whatever is left needs escapes.
  else if cs.contains '\n' then .multilineBasic
  else .basic

/-- The characters that stand for one character where there are escapes. -/
def spell (multiline : Bool) (c : Char) : List Char :=
  match c with
  | '\x08' => ['\\', 'b']
  | '\t' => ['\\', 't']
  -- Over several lines, a line break stands for itself.
  | '\n' => if multiline then ['\n'] else ['\\', 'n']
  | '\x0c' => ['\\', 'f']
  | '\r' => ['\\', 'r']
  | '\\' => ['\\', '\\']
  | c => if isVisible c then [c] else '\\' :: 'u' :: (Text.hexPadded true 4 c.toNat).toList

namespace Quotation

/-- How many marks in a row can stand in a text without escapes. -/
def freeMarks (q : Quotation) : Nat :=
  q.width - 1

/-- A text with its escapes, after a number of marks in a row. -/
def escapeFrom (q : Quotation) : Nat → List Char → List Char
  | _, [] => []
  | run, c :: rest =>
    if c == q.mark then
      if run < q.freeMarks then c :: escapeFrom q (run + 1) rest
      else '\\' :: c :: escapeFrom q 0 rest
    else spell q.multiline c ++ escapeFrom q 0 rest

/-- A text between marks; one that has line ends starts on a line of its own. -/
def write (q : Quotation) (cs : List Char) : List Char :=
  let start := if q.multiline && cs.contains '\n' then ['\n'] else []
  let body := if q.escapes then q.escapeFrom 0 cs else cs
  q.delimiter ++ start ++ body ++ q.delimiter

end Quotation

/-- A text in the quotation that suits it. -/
def writeText (s : String) : List Char :=
  (quotationOf s.toList).write s.toList

/-- One part of a key: bare if it can be, and otherwise in a quotation on one line. -/
def writeKey (s : String) : List Char :=
  let cs := s.toList
  let plain := !cs.any fun c => isControl c || c == '\n'
  if !cs.isEmpty && cs.all isKeyChar then cs
  else if plain && !cs.contains '\\' && !cs.contains '"' then Quotation.basic.write cs
  else if plain && !cs.contains '\'' then Quotation.literal.write cs
  else Quotation.basic.write cs

/-- A value that holds no others. -/
inductive Scalar where
  | text (s : String)
  | integer (n : Int)
  | flag (b : Bool)
  deriving DecidableEq, Repr

namespace Scalar

/-- The document that a value is. -/
def toJson : Scalar → Json
  | text s => .string s
  | integer n => .integer n
  | flag b => .bool b

/-- The text of a value. -/
def write : Scalar → List Char
  | text s => writeText s
  | integer n => (if n < 0 then ['-'] else []) ++ (Text.decimal n.natAbs).toList
  | flag true => "true".toList
  | flag false => "false".toList

end Scalar

/-- A table with its header. -/
structure Section where
  path : List String
  entries : List (String × Scalar)
  deriving DecidableEq, Repr

namespace Section

/-- The parts of a header with points between them. -/
def writePath : List String → List Char
  | [] => []
  | [part] => writeKey part
  | part :: rest => writeKey part ++ '.' :: writePath rest

/-- The line of a key with its value. -/
def writeEntry (entry : String × Scalar) : List Char :=
  writeKey entry.1 ++ [' ', '=', ' '] ++ entry.2.write ++ ['\n']

/-- The lines of a table. -/
def write (t : Section) : List Char :=
  '[' :: writePath t.path ++ [']', '\n'] ++ t.entries.flatMap writeEntry

/-- The lines of tables with empty lines between them. -/
def writeAll : List Section → List Char
  | [] => []
  | [t] => t.write
  | t :: rest => t.write ++ '\n' :: writeAll rest

end Section

end DeviceUpdate.Toml
