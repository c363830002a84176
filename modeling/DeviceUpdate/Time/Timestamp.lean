import DeviceUpdate.Text.Blank
import DeviceUpdate.Text.Numeral
import DeviceUpdate.Time.Instant

/-! Timestamps: instants written as a date, a time of day and an offset. -/

namespace DeviceUpdate.Timestamp

/-- A year; more than four digits need a sign. -/
def readYear? (cs : List Char) : Option (Int × List Char) :=
  let digitsOf (cs : List Char) (width : Nat) : Option (Nat × List Char) :=
    match (cs.takeWhile Text.isDigit).take width with
    | [] => none
    | digits => some (Text.numeralValue digits, cs.drop digits.length)
  match Text.trimStart cs with
  | '-' :: rest => (digitsOf rest rest.length).map fun (n, rest) => (-(n : Int), rest)
  | '+' :: rest => (digitsOf rest rest.length).map fun (n, rest) => ((n : Int), rest)
  -- Without a sign, a year has four digits at most.
  | rest => (digitsOf rest 4).map fun (n, rest) => ((n : Int), rest)

/-- A field of one or two digits. -/
def readField? (cs : List Char) : Option (Nat × List Char) :=
  match Text.trimStart cs with
  | a :: b :: rest =>
    if !Text.isDigit a then none
    else if Text.isDigit b then some (Text.numeralValue [a, b], rest)
    else some (Text.digitValue a, b :: rest)
  | [a] => if Text.isDigit a then some (Text.digitValue a, []) else none
  | [] => none

/-- A mark with blanks before it. -/
def readMark? (mark : Char) (cs : List Char) : Option (List Char) :=
  match Text.trimStart cs with
  | c :: rest => if c == mark then some rest else none
  | [] => none

/-- A date. -/
def readDate? (cs : List Char) : Option (Date × List Char) := do
  let (year, cs) ← readYear? cs
  let (month, cs) ← readMark? '-' cs >>= readField?
  let (day, cs) ← readMark? '-' cs >>= readField?
  let date : Date := ⟨year, month, day⟩
  if date.isValid then some (date, cs) else none

/-- The nanoseconds of a fraction; digits beyond the ninth do not count. -/
def readFraction? : List Char → Option (Nat × List Char)
  | '.' :: rest =>
    match Text.spanDigits rest with
    | ([], _) => none
    | (digits, rest) =>
      -- A fraction of fewer digits is filled up with zeros.
      let kept := digits.take 9
      some (Text.numeralValue kept * Nat.pow 10 (9 - kept.length), rest)
  | cs => some (0, cs)

/-- A time of day as seconds and nanoseconds, where a sixtieth second is a leap second. -/
def readTime? (cs : List Char) : Option ((Nat × Nat) × List Char) := do
  let (hour, cs) ← readField? cs
  let (minute, cs) ← readMark? ':' cs >>= readField?
  let (second, cs) ← readMark? ':' cs >>= readField?
  let (nanos, cs) ← readFraction? cs
  if hour > 23 || minute > 59 || second > 60 then none
  else
    let start := hour * 3600 + minute * 60
    -- A leap second is kept as a second part of the last second of the minute.
    if second = 60 then some ((start + 59, nanosPerSecond + nanos), cs)
    else some ((start + second, nanos), cs)

/-- An offset from universal time in seconds. -/
def readOffset? (cs : List Char) : Option (Int × List Char) :=
  match cs with
  | [] => none
  | c :: rest =>
    if c == 'Z' || c == 'z' then some (0, rest)
    else if Text.lowerAscii (cs.take 3) == ['u', 't', 'c'] then some (0, cs.drop 3)
    -- The third sign is the minus sign of typesetting.
    else if c == '+' || c == '-' || c == '\u2212' then
      match rest with
      | h :: h' :: rest =>
        match rest.dropWhile fun c => c == ':' || Text.isBlank c with
        | m :: m' :: rest =>
          let fields := [h, h', m, m']
          if fields.all Text.isDigit && m < '6' then
            let seconds : Int :=
              (Text.numeralValue [h, h'] * 3600 + Text.numeralValue [m, m'] * 60 : Nat)
            if seconds < secondsPerDay then some (if c == '+' then seconds else -seconds, rest)
            else none
          else none
        | _ => none
      | _ => none
    else none

/-- Whether a character may stand between the date and the time. -/
def isSeparator (c : Char) : Bool :=
  c == 'T' || c == 't' || c == ' '

/-- Reads a timestamp, with blanks allowed around its parts. -/
def read? (text : String) : Option Instant := do
  let (date, cs) ← readDate? text.toList
  let cs ← match cs with
    | c :: rest => if isSeparator c then some rest else none
    | [] => none
  let ((seconds, nanos), cs) ← readTime? cs
  let (offset, cs) ← readOffset? (Text.trimStart cs)
  if cs.all Text.isBlank then
    -- The date must lie in the calendar both as it is written and in universal time.
    let wall := date.toDays * secondsPerDay + seconds
    if firstSecond ≤ wall && wall ≤ lastSecond then Instant.ofParts? (wall - offset) nanos
    else none
  else none

/-- A year with four digits, or with its sign outside of the years 0 to 9999. -/
def year (y : Int) : String :=
  if y < 0 then "-" ++ Text.padded 4 y.natAbs
  else if y ≤ 9999 then Text.padded 4 y.natAbs
  else "+" ++ Text.padded 4 y.natAbs

/-- The fraction of a second in the fewest groups of three digits. -/
def fraction (nanos : Nat) : String :=
  if nanos = 0 then ""
  else if nanos % 1000000 = 0 then "." ++ Text.padded 3 (nanos / 1000000)
  else if nanos % 1000 = 0 then "." ++ Text.padded 6 (nanos / 1000)
  else "." ++ Text.padded 9 nanos

/-- The date and the time of day of an instant up to its second. -/
def writeDateTime (t : Instant) : String :=
  let date := Date.ofDays (t.seconds / secondsPerDay)
  let second := t.secondOfDay.toNat
  let leap := if t.isLeap then 1 else 0
  year date.year ++ "-" ++ Text.padded 2 date.month ++ "-" ++ Text.padded 2 date.day ++ "T" ++
    Text.padded 2 (second / 3600) ++ ":" ++ Text.padded 2 (second % 3600 / 60) ++ ":" ++
    Text.padded 2 (second % 60 + leap)

/-- Writes an instant as a timestamp in universal time. -/
def write (t : Instant) : String :=
  writeDateTime t ++ fraction (t.nanos % nanosPerSecond) ++ "Z"

/-- Writes the second in which an instant lies. -/
def writeSeconds (t : Instant) : String :=
  writeDateTime t ++ "Z"

end DeviceUpdate.Timestamp
