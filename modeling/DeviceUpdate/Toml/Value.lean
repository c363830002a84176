import DeviceUpdate.Toml.Scalar
import DeviceUpdate.Toml.Tables

/-! The keys and the values of TOML: arrays, and tables written inside of a line. -/

namespace DeviceUpdate.Toml

/-- How deeply values may be nested, and of how many parts a key may be. -/
def maxNesting : Nat := 79

/-- A character of a key that is not quoted. -/
def isKeyChar (c : Char) : Bool :=
  c.isAlphanum || c == '-' || c == '_'

/-- Reads one part of a key, and what follows it. -/
def readKey? (cs : List Char) : Option (String × List Char) :=
  match cs with
  | '"' :: rest =>
    (Quotation.basic.readFrom .content rest).map fun (k, rest) => (String.ofList k, rest)
  | '\'' :: rest =>
    (Quotation.literal.readFrom .content rest).map fun (k, rest) => (String.ofList k, rest)
  -- A bare key goes as far as its characters do.
  | _ =>
    let key := cs.takeWhile isKeyChar
    if key.isEmpty then none else some (String.ofList key, cs.drop key.length)

/-- A key: the parts before the last one, and the last one. -/
structure Key where
  path : List String
  last : String
  deriving DecidableEq, Repr

namespace Key

/-- All parts of a key. -/
def parts (k : Key) : List String :=
  k.path ++ [k.last]

/-- Reads a key of at most so many parts with points between them, and what follows it. -/
def readAtMost? : Nat → List Char → Option (Key × List Char)
  | 0, _ => none
  | room + 1, cs => do
    let (part, rest) ← readKey? (skipBlanks cs)
    match skipBlanks rest with
    -- Blanks may stand on both sides of the point.
    | '.' :: rest => do
      let (key, rest) ← readAtMost? room rest
      pure ({ key with path := part :: key.path }, rest)
    | rest => pure (⟨[], part⟩, rest)

/-- Reads a key with the blanks around it, and what follows it. -/
def read? (cs : List Char) : Option (Key × List Char) :=
  readAtMost? maxNesting cs

end Key

/-- Reads a value, and what follows it. -/
abbrev ValueReader := List Char → Option (Json × List Char)

/-- Reads a key, an equals sign and a value, and what follows them and the blanks after them. -/
def readPair? (value : ValueReader) (cs : List Char) : Option ((Key × Json) × List Char) := do
  let (key, rest) ← Key.read? cs
  let rest ← Text.dropMark? ['='] rest
  let (j, rest) ← value (skipBlanks rest)
  pure ((key, j), skipBlanks rest)

/-- Reads at most so many items up to the end of an array; a comma may follow the last one. -/
def readItems? (value : ValueReader) : Nat → List Char → Option (List Json × List Char)
  | 0, _ => none
  | room + 1, cs =>
    match skipLayout false cs with
    -- A comma may stand behind the last item.
    | ']' :: rest => some ([], rest)
    | cs => do
      let (item, rest) ← value cs
      match skipLayout false rest with
      | ',' :: rest => do
        let (items, rest) ← readItems? value room rest
        pure (item :: items, rest)
      | ']' :: rest => pure ([item], rest)
      | _ => none

/-- Reads at most so many pairs up to the end of a table; no comma may follow the last one. -/
def readPairs? (value : ValueReader) : Nat → List Char → Option (List (Key × Json) × List Char)
  | 0, _ => none
  | room + 1, cs => do
    let (pair, rest) ← readPair? value cs
    match rest with
    -- Behind a comma there has to be another pair, so that none may stand at the end.
    | ',' :: rest => do
      let (pairs, rest) ← readPairs? value room rest
      pure (pair :: pairs, rest)
    | '\x7d' :: rest => pure ([pair], rest)
    | _ => none

/-- Reads the pairs of a table, of which there may be none, up to its end. -/
def readInline? (value : ValueReader) (cs : List Char) :
    Option (List (Key × Json) × List Char) :=
  match skipBlanks cs with
  | '\x7d' :: rest => some ([], rest)
  | cs => readPairs? value (cs.length + 1) cs

/-- The document of a table with these pairs. -/
def tableOf? (pairs : List (Key × Json)) : Option Json :=
  (pairs.foldlM (fun (entries : Entries) (pair : Key × Json) =>
    entries.assign pair.1.path pair.1.last pair.2) []).map Entries.toJson

/-- Reads a value in which others are nested at most so deeply, and what follows it. -/
def readNested? : Nat → ValueReader
  -- When the depth is used up, neither lists nor tables can be opened any more.
  | 0, cs => readScalar? cs
  | depth + 1, cs =>
    match cs with
    | '[' :: rest =>
      (readItems? (readNested? depth) (rest.length + 1) rest).map fun (items, rest) =>
        (.array items, rest)
    | '\x7b' :: rest => do
      let (pairs, rest) ← readInline? (readNested? depth) rest
      pure (← tableOf? pairs, rest)
    | cs => readScalar? cs

/-- Reads a value, and what follows it. -/
def readValue? : ValueReader :=
  readNested? maxNesting

end DeviceUpdate.Toml
