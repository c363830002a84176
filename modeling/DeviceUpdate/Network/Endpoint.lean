import DeviceUpdate.Text.Blank
import DeviceUpdate.Text.Numeral

/-! Network addresses with ports, read and written as text. -/

namespace DeviceUpdate.Network

/-- A network address. -/
inductive Address where
  /-- Four bytes. -/
  | v4 (bytes : List Nat)
  /-- Eight groups of 16 bits. -/
  | v6 (groups : List Nat)
  deriving DecidableEq, Repr

/-- An address with a port, and the number of the scope of a link-local address. -/
structure Endpoint where
  address : Address
  scope : Nat
  port : Nat
  deriving DecidableEq, Repr

/-- A decimal byte of up to three digits, without zeros in front. -/
def readByte? (cs : List Char) : Option (Nat × List Char) :=
  match Text.spanDigits cs with
  | ([], _) | ('0' :: _ :: _, _) => none
  | (digits, rest) =>
    let n := Text.numeralValue digits
    if digits.length ≤ 3 && n < 256 then some (n, rest) else none

/-- Four bytes with points between them. -/
def readV4? (cs : List Char) : Option (List Nat × List Char) := do
  let (a, cs) ← readByte? cs
  let (b, cs) ← Text.dropMark? ['.'] cs >>= readByte?
  let (c, cs) ← Text.dropMark? ['.'] cs >>= readByte?
  let (d, cs) ← Text.dropMark? ['.'] cs >>= readByte?
  pure ([a, b, c, d], cs)

/-- A group of up to four hexadecimal digits. -/
def readGroup? (cs : List Char) : Option (Nat × List Char) :=
  let digits := cs.takeWhile fun c => (Text.hexValue? c).isSome
  if digits.length ≤ 4 then (Text.hexNatural? digits).map fun n => (n, cs.drop digits.length)
  else none

/-- At most so many groups in front of a text; the flag tells whether they end in four bytes. -/
def readGroups (first : Bool) : Nat → List Char → List Nat × Bool × List Char
  | 0, cs => ([], false, cs)
  | room + 1, cs =>
    -- Every group but the first has a colon before it.
    let start := if first then some cs else Text.dropMark? [':'] cs
    -- Four bytes take the room of two groups.
    let bytes := if room = 0 then none else start.bind readV4?
    match bytes with
    | some ([a, b, c, d], rest) => ([a * 256 + b, c * 256 + d], true, rest)
    | _ =>
      match start.bind readGroup? with
      | none => ([], false, cs)
      | some (group, rest) =>
        let (groups, bytes, rest) := readGroups false room rest
        (group :: groups, bytes, rest)

/-- Eight groups, where two colons stand for one or more groups of zero. -/
def readV6? (cs : List Char) : Option (List Nat × List Char) :=
  let (head, bytes, rest) := readGroups true 8 cs
  if head.length = 8 then some (head, rest)
  -- Nothing may follow the bytes.
  else if bytes then none
  else do
    let rest ← Text.dropMark? [':', ':'] rest
    let (tail, _, rest) := readGroups true (7 - head.length) rest
    pure (head ++ List.replicate (8 - head.length - tail.length) 0 ++ tail, rest)

/-- A colon and a number of 16 bits, up to the end of the text. -/
def readPort? (cs : List Char) : Option Nat := do
  let digits ← Text.dropMark? [':'] cs
  (Text.natural? digits).filter (· < 65536)

/-- A percent sign and a number of 32 bits; none of them stands for zero. -/
def readScope (cs : List Char) : Nat × List Char :=
  match cs with
  | '%' :: rest =>
    let (digits, rest) := Text.spanDigits rest
    match (Text.natural? digits).filter (· < Nat.pow 2 32) with
    | some n => (n, rest)
    | none => (0, cs)
  | _ => (0, cs)

/-- Reads an address of four bytes, or one of eight groups in brackets, with its port. -/
def Endpoint.read? (text : String) : Option Endpoint :=
  match text.toList with
  -- The bracket tells the versions apart, and only the sixth has scopes.
  | '[' :: cs => do
    let (groups, cs) ← readV6? cs
    let (scope, cs) := readScope cs
    let port ← Text.dropMark? [']'] cs >>= readPort?
    pure ⟨.v6 groups, scope, port⟩
  | cs => do
    let (bytes, cs) ← readV4? cs
    pure ⟨.v4 bytes, 0, ← readPort? cs⟩

/-- The bytes in decimal with points between them. -/
def dotted (bytes : List Nat) : String :=
  Text.joinWith "." (bytes.map Text.decimal)

/-- The groups in hexadecimal with colons between them. -/
def coloned (groups : List Nat) : String :=
  Text.joinWith ":" (groups.map (Text.hexPadded false 1))

/-- The number of zeros at the start of a list. -/
def leadingZeros (groups : List Nat) : Nat :=
  (groups.takeWhile (· == 0)).length

/-- The start and the length of the first longest run of zeros. -/
def longestZeros (groups : List Nat) : Nat × Nat :=
  (List.range groups.length).foldl
    (fun best start =>
      let length := leadingZeros (groups.drop start)
      -- Of runs of the same length the first one stays.
      if best.2 < length then (start, length) else best)
    (0, 0)

/-- Writes an address in its shortest form. -/
def Address.write : Address → String
  | .v4 bytes => dotted bytes
  | .v6 [0, 0, 0, 0, 0, 0xFFFF, a, b] => "::ffff:" ++ dotted [a / 256, a % 256, b / 256, b % 256]
  | .v6 groups =>
    let (start, length) := longestZeros groups
    -- A single zero is written out.
    if length < 2 then coloned groups
    else coloned (groups.take start) ++ "::" ++ coloned (groups.drop (start + length))

/-- Writes an address with its port. -/
def Endpoint.write (e : Endpoint) : String :=
  match e.address with
  | .v4 _ => e.address.write ++ ":" ++ Text.decimal e.port
  | .v6 _ =>
    let scope := if e.scope = 0 then "" else "%" ++ Text.decimal e.scope
    "[" ++ e.address.write ++ scope ++ "]:" ++ Text.decimal e.port

end DeviceUpdate.Network
