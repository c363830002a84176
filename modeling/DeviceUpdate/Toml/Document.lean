import DeviceUpdate.Toml.Value

/-! TOML texts: the statements on their lines, and the document that the statements make. -/

namespace DeviceUpdate.Toml

/-- What a line of a text says. -/
inductive Statement where
  /-- The next pairs belong to a table. -/
  | table (key : Key)
  /-- The next pairs belong to a further table of a series. -/
  | series (key : Key)
  /-- A key has a value. -/
  | pair (key : Key) (value : Json)
  deriving Repr

namespace Statement

/-- Reads a header with its brackets, and what follows it. -/
def readHeader? (cs : List Char) : Option (Statement × List Char) :=
  match Text.dropMark? ['[', '['] cs with
  | some rest => do
    let (key, rest) ← Key.read? rest
    pure (series key, ← Text.dropMark? [']', ']'] rest)
  | none => do
    let (key, rest) ← Text.dropMark? ['['] cs >>= Key.read?
    pure (table key, ← Text.dropMark? [']'] rest)

/-- Reads what the line says whose first visible character starts a text, if it says something. -/
def read? (cs : List Char) : Option (Option Statement × List Char) :=
  match cs with
  | [] | '#' :: _ | '\n' :: _ | '\r' :: _ => some (none, cs)
  | '[' :: _ => (readHeader? cs).map fun (s, rest) => (some s, rest)
  | _ => (readPair? readValue? cs).map fun ((key, j), rest) => (some (pair key j), rest)

/-- Reads one line, and what follows it. -/
def readLine? (cs : List Char) : Option (Option Statement × List Char) := do
  let (s, rest) ← read? (skipBlanks cs)
  pure (s, ← endLine? rest)

/-- Reads at most so many lines up to the end of a text. -/
def readLines? : Nat → List Char → Option (List Statement)
  | _, [] => some []
  | 0, _ => none
  | room + 1, cs => do
    let (s, rest) ← readLine? cs
    let more ← readLines? room rest
    pure (s.toList ++ more)

/-- The statements of a text. -/
def readAll? (cs : List Char) : Option (List Statement) :=
  readLines? (cs.length + 1) cs

end Statement

/-- The tables so far, and the path of the one that the next pairs belong to. -/
structure Draft where
  entries : Entries
  header : List String
  deriving Repr

namespace Draft

/-- No table has a header yet. -/
def start : Draft :=
  ⟨[], []⟩

/-- Does what a statement says. -/
def step? (d : Draft) : Statement → Option Draft
  | .table key => (d.entries.openTable key.path key.last).map fun e => ⟨e, key.parts⟩
  | .series key => (d.entries.openSeries key.path key.last).map fun e => ⟨e, key.parts⟩
  | .pair key j =>
    (d.entries.assignUnder d.header key.path key.last j).map fun e => { d with entries := e }

end Draft

/-- The document that statements make. -/
def ofStatements? (statements : List Statement) : Option Json :=
  (statements.foldlM Draft.step? .start).map fun d => d.entries.toJson

/-- The mark that may stand at the very start of a text. -/
def byteOrderMark : Char := '\ufeff'

/-- Reads a text as a document. -/
def read? (text : String) : Option Json :=
  -- The mark is no character of the text itself.
  let cs := match text.toList with
    | c :: rest => if c == byteOrderMark then rest else c :: rest
    | [] => []
  (Statement.readAll? cs).bind ofStatements?

end DeviceUpdate.Toml
