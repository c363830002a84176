import DeviceUpdate.Json.Value
import DeviceUpdate.Decimal.Reading

/-! The tokens of JSON text, found in one pass over its characters. -/

namespace DeviceUpdate.Json

/-- A token of JSON text. -/
inductive Token where
  | openArray
  | closeArray
  | openObject
  | closeObject
  | comma
  | colon
  /-- A quoted text; none when an escape in it stands for no character. -/
  | text (s : Option String)
  /-- A number or a literal. -/
  | scalar (j : Json)
  deriving Repr

/-- What has been read of a quoted text. -/
structure Quotation where
  /-- The characters so far, last first. -/
  chars : List Char
  /-- The first half of a surrogate pair whose second half must come next. -/
  half : Option Nat
  /-- Whether every escape so far stands for a character. -/
  sound : Bool
  deriving Repr

namespace Quotation

/-- Nothing has been read. -/
def start : Quotation :=
  ⟨[], none, true⟩

/-- Takes in a character; a pending half of a pair is then lost. -/
def push (q : Quotation) (c : Char) : Quotation :=
  ⟨c :: q.chars, none, q.sound && q.half.isNone⟩

/-- Takes in the 16-bit unit of a numeric escape. -/
def pushUnit (q : Quotation) (unit : Nat) : Quotation :=
  match q.half with
  | some high =>
    -- Both halves together are one character beyond the first 65536.
    if 0xDC00 ≤ unit && unit < 0xE000 then
      ⟨Char.ofNat (0x10000 + (high - 0xD800) * 0x400 + (unit - 0xDC00)) :: q.chars, none, q.sound⟩
    else { q with half := none, sound := false }
  | none =>
    if 0xD800 ≤ unit && unit < 0xDC00 then { q with half := some unit }
    -- The second half without a first one is no character.
    else if 0xDC00 ≤ unit && unit < 0xE000 then { q with sound := false }
    else q.push (Char.ofNat unit)

/-- The text that was quoted. -/
def finish (q : Quotation) : Option String :=
  if q.sound && q.half.isNone then some (String.ofList q.chars.reverse) else none

end Quotation

/-- Where in a token a reading stands. -/
inductive Cursor where
  /-- Outside of quotations and words. -/
  | between
  /-- Inside a quotation. -/
  | quoted (q : Quotation)
  /-- After a backslash. -/
  | escaped (q : Quotation)
  /-- Inside a numeric escape, with its digits so far. -/
  | unit (q : Quotation) (digits : List Char)
  /-- Inside a number or a literal, with its characters so far, last first. -/
  | word (chars : List Char)
  deriving Repr

/-- The character that a one-letter escape stands for. -/
def escapedChar? : Char → Option Char
  | '"' => some '"'
  | '\\' => some '\\'
  | '/' => some '/'
  | 'b' => some '\x08'
  | 'f' => some '\x0c'
  | 'n' => some '\n'
  | 'r' => some '\r'
  | 't' => some '\t'
  | _ => none

/-- The four characters that may stand between tokens. -/
def isSpace (c : Char) : Bool :=
  c == ' ' || c == '\n' || c == '\t' || c == '\r'

/-- The mark that a character is by itself. -/
def mark? : Char → Option Token
  | '[' => some .openArray
  | ']' => some .closeArray
  | '\x7b' => some .openObject
  | '\x7d' => some .closeObject
  | ',' => some .comma
  | ':' => some .colon
  | _ => none

/-- The value of a word. -/
def wordValue? (cs : List Char) : Option Json :=
  match String.ofList cs with
  | "null" => some .null
  | "true" => some (.bool true)
  | "false" => some (.bool false)
  -- A number whose value has no place among the numbers is kept as a value that nothing reads.
  | _ => (Decimal.Parts.read? cs).map fun parts =>
    match parts.value? with
    | some (.integer n) => .integer n
    | some (.float x) => .float x
    | none => .valueless

/-- Whether a character continues a number or a literal. -/
def isWordChar (c : Char) : Bool :=
  c.isAlphanum || c == '+' || c == '-' || c == '.'

/-- The tokens read so far, last first, and the place inside the next one. -/
structure Scan where
  tokens : List Token
  cursor : Cursor
  deriving Repr

namespace Scan

/-- Nothing has been read. -/
def start : Scan :=
  ⟨[], .between⟩

/-- Reads a character outside of quotations and words. -/
def stepBetween? (tokens : List Token) (c : Char) : Option Scan :=
  match mark? c with
  | some mark => some ⟨mark :: tokens, .between⟩
  | none =>
    if isSpace c then some ⟨tokens, .between⟩
    else if c == '"' then some ⟨tokens, .quoted .start⟩
    else if isWordChar c then some ⟨tokens, .word [c]⟩
    else none

/-- Reads one character. -/
def step? (s : Scan) (c : Char) : Option Scan :=
  match s.cursor with
  | .between => stepBetween? s.tokens c
  | .quoted q =>
    if c == '"' then some ⟨.text q.finish :: s.tokens, .between⟩
    else if c == '\\' then some ⟨s.tokens, .escaped q⟩
    -- Control characters have to be written as escapes.
    else if c.toNat < 0x20 then none
    else some ⟨s.tokens, .quoted (q.push c)⟩
  | .escaped q =>
    if c == 'u' then some ⟨s.tokens, .unit q []⟩
    else (escapedChar? c).map fun e => ⟨s.tokens, .quoted (q.push e)⟩
  | .unit q digits =>
    if (Text.hexValue? c).isNone then none
    else
      let digits := digits ++ [c]
      -- Four digits make a unit, which may be the half of a character.
      if digits.length < 4 then some ⟨s.tokens, .unit q digits⟩
      else (Text.hexNatural? digits).map fun unit => ⟨s.tokens, .quoted (q.pushUnit unit)⟩
  | .word chars =>
    if isWordChar c then some ⟨s.tokens, .word (c :: chars)⟩
    else do
      -- The character that ends a word is itself the first one behind it.
      let value ← wordValue? chars.reverse
      stepBetween? (.scalar value :: s.tokens) c

/-- The tokens of a text that ends here. -/
def finish? (s : Scan) : Option (List Token) :=
  match s.cursor with
  | .between => some s.tokens.reverse
  | .word chars => (wordValue? chars.reverse).map fun value => (.scalar value :: s.tokens).reverse
  | _ => none

end Scan

/-- The tokens of a text. -/
def tokens? (cs : List Char) : Option (List Token) :=
  (cs.foldlM Scan.step? .start).bind Scan.finish?

end DeviceUpdate.Json
