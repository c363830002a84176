import DeviceUpdate.Text.Numeral
import DeviceUpdate.Toml.Layout

/-! Quoted texts in TOML: on one line or on many, with escapes or taken literally. -/

namespace DeviceUpdate.Toml

/-- A way to quote a text. -/
structure Quotation where
  /-- The mark that stands at both ends. -/
  mark : Char
  /-- Whether a backslash spells another character. -/
  escapes : Bool
  /-- Whether the text may go over several lines; the mark then stands three times. -/
  multiline : Bool
  deriving DecidableEq, Repr

namespace Quotation

/-- A text on one line with escapes. -/
def basic : Quotation :=
  ⟨'"', true, false⟩

/-- A text on one line as it is. -/
def literal : Quotation :=
  ⟨'\'', false, false⟩

/-- A text on several lines with escapes. -/
def multilineBasic : Quotation :=
  ⟨'"', true, true⟩

/-- A text on several lines as it is. -/
def multilineLiteral : Quotation :=
  ⟨'\'', false, true⟩

/-- How often the mark stands at each end. -/
def width (q : Quotation) : Nat :=
  if q.multiline then 3 else 1

/-- The marks at an end. -/
def delimiter (q : Quotation) : List Char :=
  List.replicate q.width q.mark

/-- Where in a quoted text a reading stands. -/
inductive Cursor where
  /-- At the start of the next character. -/
  | content
  /-- After some marks in a row. -/
  | marks (n : Nat)
  /-- After a backslash. -/
  | escape
  /-- Inside a numeric escape that lacks some digits. -/
  | digits (missing value : Nat)
  /-- After a backslash at the end of a line; the flag tells whether the line has ended. -/
  | joining (ended : Bool)
  /-- Between the two characters of a line end. -/
  | lineEnd (joining : Bool)
  deriving DecidableEq, Repr

/-- The character that a one-letter escape stands for. -/
def escaped? : Char → Option Char
  | 'b' => some '\x08'
  | 't' => some '\t'
  | 'n' => some '\n'
  | 'f' => some '\x0c'
  | 'r' => some '\r'
  | '"' => some '"'
  | '\\' => some '\\'
  | _ => none

/-- Reads the start of a character: what it adds to the text, and where the reading stands then. -/
def stepContent? (q : Quotation) (c : Char) : Option (List Char × Cursor) :=
  if c == q.mark then some ([], .marks 1)
  else if q.escapes && c == '\\' then some ([], .escape)
  else if isVisible c then some ([c], .content)
  else if q.multiline && c == '\n' then some (['\n'], .content)
  else if q.multiline && c == '\r' then some ([], .lineEnd false)
  else none

/-- Reads what follows a backslash. -/
def stepEscape? (q : Quotation) (c : Char) : Option (List Char × Cursor) :=
  if c == 'u' then some ([], .digits 4 0)
  else if c == 'U' then some ([], .digits 8 0)
  else if q.multiline && isBlank c then some ([], .joining false)
  else if q.multiline && c == '\n' then some ([], .joining true)
  else if q.multiline && c == '\r' then some ([], .lineEnd true)
  else (escaped? c).map fun e => ([e], .content)

/-- Reads a digit of a numeric escape, which must spell a character. -/
def stepDigits? (missing value : Nat) (c : Char) : Option (List Char × Cursor) := do
  let value := value * 16 + (← Text.hexValue? c)
  if 1 < missing then pure ([], .digits (missing - 1) value)
  else if Nat.isValidChar value then pure ([Char.ofNat value], .content)
  else none

/-- Reads what follows a backslash at the end of a line, up to the next visible character. -/
def stepJoining? (q : Quotation) (ended : Bool) (c : Char) : Option (List Char × Cursor) :=
  if isBlank c then some ([], .joining ended)
  else if c == '\n' then some ([], .joining true)
  else if c == '\r' then some ([], .lineEnd true)
  else if ended then q.stepContent? c
  else none

/-- Reads one character: what it adds to the text, and where the reading stands then. -/
def step? (q : Quotation) (cursor : Cursor) (c : Char) : Option (List Char × Cursor) :=
  match cursor with
  | .content => q.stepContent? c
  | .marks n =>
    -- As many marks again as end a text may belong to it.
    if c == q.mark then if n + 1 < 2 * q.width then some ([], .marks (n + 1)) else none
    else (q.stepContent? c).map fun (out, cursor) => (List.replicate n q.mark ++ out, cursor)
  | .escape => q.stepEscape? c
  | .digits missing value => stepDigits? missing value c
  | .joining ended => q.stepJoining? ended c
  | .lineEnd joining =>
    if c != '\n' then none
    else if joining then some ([], .joining true)
    else some (['\n'], .content)

/-- The marks that belong to a text which ends here, if it does; the last of a row end it. -/
def end? (q : Quotation) (cursor : Cursor) (next : Option Char) : Option (List Char) :=
  match cursor with
  | .marks n =>
    if q.width ≤ n && next != some q.mark then some (List.replicate (n - q.width) q.mark) else none
  | _ => none

/-- Reads a text after its opening marks, and what follows its closing marks. -/
def readFrom (q : Quotation) : Cursor → List Char → Option (List Char × List Char)
  | cursor, [] => (q.end? cursor none).map fun out => (out, [])
  | cursor, c :: rest =>
    match q.end? cursor (some c) with
    -- The row of marks ends before this character, and the text with it.
    | some out => some (out, c :: rest)
    | none => do
      let (out, cursor) ← q.step? cursor c
      let (text, rest) ← readFrom q cursor rest
      pure (out ++ text, rest)

end Quotation

/-- The way in which a text is quoted, and what follows the opening marks. -/
def openQuotation? : List Char → Option (Quotation × List Char)
  | '"' :: '"' :: '"' :: rest => some (.multilineBasic, rest)
  | '"' :: rest => some (.basic, rest)
  | '\'' :: '\'' :: '\'' :: rest => some (.multilineLiteral, rest)
  | '\'' :: rest => some (.literal, rest)
  | _ => none

/-- Reads a quoted text; a line end right after three opening marks does not count. -/
def readText? (cs : List Char) : Option (String × List Char) := do
  let (q, rest) ← openQuotation? cs
  let start := if q.multiline then (newline? rest).getD rest else rest
  let (text, rest) ← q.readFrom .content start
  pure (String.ofList text, rest)

end DeviceUpdate.Toml
