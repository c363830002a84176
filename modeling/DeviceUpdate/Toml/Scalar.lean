import DeviceUpdate.Decimal.Nearest
import DeviceUpdate.Json.Value
import DeviceUpdate.Text.Blank
import DeviceUpdate.Time.Calendar
import DeviceUpdate.Toml.Quotation

/-! The values of TOML that hold no others: texts, numbers, truth values, dates and times. -/

namespace DeviceUpdate.Toml

/-- The digits of a number in which underscores may stand between digits. -/
def joinedDigits? (isDigit : Char → Bool) (cs : List Char) : Option (List Char) :=
  let groups := Text.splitOn '_' cs
  if groups.all fun g => !g.isEmpty && g.all isDigit then some groups.flatten else none

/-- The parts before and after the sign in front of a number, where a minus sign is true. -/
def splitSign : List Char → Bool × List Char
  | '-' :: rest => (true, rest)
  | '+' :: rest => (false, rest)
  | cs => (false, cs)

/-- The digits of a decimal number, of which the first is no zero unless it is the only one. -/
def wholeDigits? (cs : List Char) : Option (List Char) :=
  match joinedDigits? Text.isDigit cs with
  -- Only a single zero may come first.
  | some ('0' :: _ :: _) => none
  | digits => digits

/-- A whole number of 64 bits with its sign. -/
def decimal? (cs : List Char) : Option Int :=
  let (negative, digits) := splitSign cs
  (wholeDigits? digits).bind fun digits =>
    let n : Int := Text.numeralValue digits
    if negative then (if n ≤ Nat.pow 2 63 then some (-n) else none)
    else if n < Nat.pow 2 63 then some n else none

/-- The value of digits to a base of at most sixteen. -/
def radixValue? (base : Nat) (cs : List Char) : Option Nat := do
  let digits ← joinedDigits? (fun c => (Text.hexValue? c).any (· < base)) cs
  pure (digits.foldl (fun value c => value * base + (Text.hexValue? c).getD 0) 0)

/-- A whole number of 63 bits to the base that its first two characters name. -/
def radix? : List Char → Option Int
  | '0' :: c :: rest => do
    let base ← [('x', 16), ('o', 8), ('b', 2)].lookup c
    let n ← radixValue? base rest
    if n < Nat.pow 2 63 then some n else none
  | _ => none

/-- The sign and the digits of an exponent after its letter. -/
def exponent? (cs : List Char) : Option (Bool × List Char) :=
  let (negative, digits) := splitSign cs
  (joinedDigits? Text.isDigit digits).map fun digits => (negative, digits)

/-- The parts of a number with a point or an exponent. -/
def floatParts? (cs : List Char) : Option Decimal.Parts := do
  let (negative, rest) := splitSign cs
  let isLetter (c : Char) : Bool := c == 'e' || c == 'E'
  let mantissa := rest.takeWhile fun c => !isLetter c
  let exponent ← match rest.drop mantissa.length with
    | [] => some none
    | _ :: digits => (exponent? digits).map some
  match Text.splitOnce ['.'] mantissa with
  -- Without a point, only the exponent tells a float from an integer.
  | none => if exponent.isNone then none else
    pure ⟨negative, ← wholeDigits? mantissa, none, exponent⟩
  | some (whole, fraction) =>
    pure ⟨negative, ← wholeDigits? whole, some (← joinedDigits? Text.isDigit fraction), exponent⟩

/-- The value of a number; one that is too large is none, but one that is too low is infinite. -/
def floatValue? (p : Decimal.Parts) : Option Float :=
  if p.negative then some (p.nearest?.getD (-1.0 / 0.0)) else p.nearest?

/-- A number that is not whole. -/
def float? (cs : List Char) : Option Float :=
  let (negative, rest) := splitSign cs
  match String.ofList rest with
  | "inf" => some (if negative then -1.0 / 0.0 else 1.0 / 0.0)
  | "nan" => some (0.0 / 0.0)
  | _ => (floatParts? cs).bind floatValue?

/-- A field of two digits with a greatest value, and what follows. -/
def field? (greatest : Nat) : List Char → Option (Nat × List Char)
  | a :: b :: rest =>
    if Text.isDigit a && Text.isDigit b && Text.numeralValue [a, b] ≤ greatest then
      some (Text.numeralValue [a, b], rest)
    else none
  | _ => none

/-- What follows a date at the start of a text. -/
def afterDate? : List Char → Option (List Char)
  | a :: b :: c :: d :: '-' :: rest => do
    let (month, rest) ← field? 12 rest
    let (day, rest) ← Text.dropMark? ['-'] rest >>= field? 31
    let year := [a, b, c, d]
    if year.all Text.isDigit && Date.isValid ⟨Text.numeralValue year, month, day⟩ then some rest
    else none
  | _ => none

/-- What follows a fraction of a second, which may be missing. -/
def afterFraction? : List Char → Option (List Char)
  | '.' :: rest =>
    match Text.spanDigits rest with
    | ([], _) => none
    | (_, rest) => some rest
  | cs => some cs

/-- What follows a time of day at the start of a text. -/
def afterTime? (cs : List Char) : Option (List Char) := do
  let (_, cs) ← field? 23 cs
  let (_, cs) ← Text.dropMark? [':'] cs >>= field? 59
  let (_, cs) ← Text.dropMark? [':'] cs >>= field? 60
  afterFraction? cs

/-- Whether a text is an offset from universal time. -/
def isOffset : List Char → Bool
  | [c] => c == 'Z' || c == 'z'
  | c :: rest =>
    (c == '+' || c == '-') && (do
      let (_, rest) ← field? 23 rest
      let (_, rest) ← Text.dropMark? [':'] rest >>= field? 59
      pure rest.isEmpty : Option Bool) == some true
  | [] => false

/-- Whether a text is a time of day, perhaps with an offset. -/
def isTime (offset : Bool) (cs : List Char) : Bool :=
  (afterTime? cs).any fun rest => rest.isEmpty || (offset && isOffset rest)

/-- Whether a text is a date. -/
def isDate (cs : List Char) : Bool :=
  (afterDate? cs).any List.isEmpty

/-- Whether a text is a date with a time of day after the letter T. -/
def isDateTime (cs : List Char) : Bool :=
  match afterDate? cs with
  | some (c :: rest) => (c == 'T' || c == 't') && isTime true rest
  | _ => false

/-- A date, a time or both, as a document that no other value gives. -/
def moment (cs : List Char) : Json :=
  .object [("datetime", .string (String.ofList cs))]

/-- The value of a word. -/
def wordValue? (cs : List Char) : Option Json :=
  -- Dates start with digits, so they are looked for before numbers.
  if isDate cs || isDateTime cs || isTime false cs then some (moment cs)
  else
    match String.ofList cs with
    | "true" => some (.bool true)
    | "false" => some (.bool false)
    | _ => ((decimal? cs <|> radix? cs).map .integer) <|> ((float? cs).map .float)

/-- A character of the values that are not quoted. -/
def isWordChar (c : Char) : Bool :=
  c.isAlphanum || c == '+' || c == '-' || c == '_' || c == '.' || c == ':'

/-- Reads a word, and what follows it; after a date, a time may stand behind a space. -/
def readWord? (cs : List Char) : Option (Json × List Char) :=
  let word := cs.takeWhile isWordChar
  let rest := cs.drop word.length
  let time := (Text.dropMark? [' '] rest).map (·.takeWhile isWordChar)
  match time.filter fun time => isDate word && isTime true time with
  | some time => some (moment (word ++ ' ' :: time), rest.drop (time.length + 1))
  | none => (wordValue? word).map fun j => (j, rest)

/-- Reads a value that holds no others, and what follows it. -/
def readScalar? (cs : List Char) : Option (Json × List Char) :=
  match readText? cs with
  | some (text, rest) => some (.string text, rest)
  | none => readWord? cs

end DeviceUpdate.Toml
