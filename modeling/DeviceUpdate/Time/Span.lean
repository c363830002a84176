import DeviceUpdate.Text.Blank
import DeviceUpdate.Text.Numeral

/-! Lengths of time, and the two notations in which people write them. -/

namespace DeviceUpdate

/-- Nanoseconds in a second. -/
def nanosPerSecond : Nat := 1000000000

/-- One more than the largest number of seconds a span can count. -/
def secondLimit : Nat := Nat.pow 2 64

/-- A length of time in nanoseconds. -/
structure Span where
  /-- How many nanoseconds the span lasts. -/
  nanos : Nat
  deriving DecidableEq, Repr

namespace Span

/-- A whole number of seconds. -/
def ofSeconds (n : Nat) : Span :=
  ⟨n * nanosPerSecond⟩

/-- The whole seconds of a span. -/
def seconds (d : Span) : Nat :=
  d.nanos / nanosPerSecond

/-- The nanoseconds beyond the whole seconds of a span. -/
def subsecond (d : Span) : Nat :=
  d.nanos % nanosPerSecond

/-- The longer of two spans. -/
def max (a b : Span) : Span :=
  ⟨Nat.max a.nanos b.nanos⟩

/-- The shorter of two spans. -/
def min (a b : Span) : Span :=
  ⟨Nat.min a.nanos b.nanos⟩

/-- An equal share of a span, cut to whole nanoseconds. -/
def share (d : Span) (parts : Nat) : Span :=
  ⟨d.nanos / parts⟩

/-- What is wrong with the text of a span. -/
inductive Fault where
  /-- There are not three fields between colons. -/
  | notThreeFields
  /-- A field is empty or holds something other than digits. -/
  | notNumeric
  /-- A field is a number that is too large. -/
  | fieldTooLarge
  /-- Minutes or seconds reach sixty. -/
  | notSexagesimal
  /-- The leading letter P is missing. -/
  | noLeadingP
  /-- Nothing follows the leading letter. -/
  | empty
  /-- The letter T stands twice or after a number. -/
  | misplacedT
  /-- A unit letter has no number, or one that is too large. -/
  | noNumber
  /-- The letter is no unit, or not one of this side of the letter T. -/
  | unknownUnit
  /-- The sum is too large. -/
  | overflow
  /-- The text ends in a number, or names no unit at all. -/
  | dangling
  deriving DecidableEq, Repr

/-- The wording of a fault. -/
def Fault.message : Fault → String
  | notThreeFields => "expected HH:mm:ss"
  | notNumeric => "non-numeric field"
  | fieldTooLarge => "field out of range"
  | notSexagesimal => "minutes and seconds must be below 60"
  | noLeadingP => "missing 'P' designator"
  | empty => "empty duration"
  | misplacedT => "misplaced 'T'"
  | noNumber => "missing number"
  | unknownUnit => "unsupported designator"
  | overflow => "overflow"
  | dangling => "dangling number"

/-- The text of a span that could not be read, with its fault. -/
structure ReadError where
  /-- The text as it was given. -/
  input : String
  /-- What is wrong with it. -/
  fault : Fault
  deriving DecidableEq, Repr

/-- The wording of a failed reading. -/
def ReadError.message (e : ReadError) : String :=
  "invalid duration '" ++ e.input ++ "': " ++ e.fault.message

/-- One field between colons: digits whose value fits 64 bits. -/
def clockField (cs : List Char) : Except Fault Nat :=
  if Text.isNumeral cs then
    let value := Text.numeralValue cs
    if value < secondLimit then .ok value else .error .fieldTooLarge
  else .error .notNumeric

/-- Hours, minutes and seconds, each of them counted in 64 bits. -/
structure ClockTime where
  hours : Nat
  minutes : Nat
  seconds : Nat
  deriving DecidableEq, Repr

/-- The fields of `HH:mm:ss`, where the hours are not bounded by a day. -/
def clockFields (text : String) : Except Fault ClockTime :=
  match Text.splitOn ':' (Text.trim text.toList) with
  | [h, m, s] => do
    let hours ← clockField h
    let minutes ← clockField m
    let seconds ← clockField s
    if minutes ≥ 60 || seconds ≥ 60 then .error .notSexagesimal else .ok ⟨hours, minutes, seconds⟩
  | _ => .error .notThreeFields

/-- The seconds of hours, minutes and seconds, which 64 bits have to hold. -/
def ClockTime.total (t : ClockTime) : Except Text.Overrun Nat :=
  -- Nothing is taken away, so no product or sum on the way is greater than the last one.
  let total := t.hours * 3600 + t.minutes * 60 + t.seconds
  if total < secondLimit then .ok total else .error .overrun

/-- Reads the seconds of `HH:mm:ss`. -/
def readClock (text : String) : Except (Text.Unread Fault) Nat := do
  let time ← (clockFields text).mapError .refused
  Text.Unread.ofOverrun time.total

/-- Writes the whole seconds of a span as `HH:mm:ss`. -/
def clock (d : Span) : String :=
  let total := d.seconds
  Text.padded 2 (total / 3600) ++ ":" ++ Text.padded 2 (total % 3600 / 60) ++ ":" ++
    Text.padded 2 (total % 60)

/-- The seconds of one unit, by the side of the letter T on which it stands. -/
def unitSeconds? (timeSide : Bool) (unit : Char) : Option Nat :=
  match timeSide, unit with
  | false, 'W' => some 604800
  | false, 'D' => some 86400
  | true, 'H' => some 3600
  | true, 'M' => some 60
  | true, 'S' => some 1
  | _, _ => none

/-- How far a reading of units has come. -/
structure Progress where
  /-- Seconds of the units read so far. -/
  total : Nat
  /-- Whether the letter T has been read. -/
  timeSide : Bool
  /-- Digits read since the last letter. -/
  digits : List Char
  /-- Whether any unit has been read. -/
  anyUnit : Bool
  deriving DecidableEq, Repr

/-- Nothing has been read. -/
def Progress.start : Progress :=
  ⟨0, false, [], false⟩

/-- Reads one character of a text in units. -/
def Progress.step (p : Progress) (c : Char) : Except Fault Progress :=
  let letter := c.toUpper
  if letter == 'T' then
    if p.timeSide || !p.digits.isEmpty then .error .misplacedT
    else .ok { p with timeSide := true }
  else if Text.isDigit letter then .ok { p with digits := p.digits ++ [letter] }
  else
    -- A missing number is reported before an unknown letter.
    match (Text.natural? p.digits).filter (· < secondLimit) with
    | none => .error .noNumber
    | some value =>
      match unitSeconds? p.timeSide letter with
      | none => .error .unknownUnit
      | some unit =>
        let total := p.total + value * unit
        if total < secondLimit then .ok ⟨total, p.timeSide, [], true⟩ else .error .overflow

/-- Reads the seconds of a sum of units such as `P1DT2H30M`; units may repeat in any order. -/
def readUnits (text : String) : Except Fault Nat :=
  match Text.trim text.toList with
  | [] => .error .noLeadingP
  | first :: rest =>
    if first != 'P' && first != 'p' then .error .noLeadingP
    else if rest.isEmpty then .error .empty
    else do
      let last ← rest.foldlM Progress.step .start
      -- Digits without a unit at the end, or no unit at all, leave the text incomplete.
      if !last.digits.isEmpty || !last.anyUnit then .error .dangling else .ok last.total

/-- A text with a colon is read as `HH:mm:ss` and any other as a sum of units. -/
def readEither (text : String) : Except (Text.Unread Fault) Nat :=
  if text.toList.contains ':' then readClock text else (readUnits text).mapError .refused

/-- The span a reader finds in a text, or the text with its fault. -/
def read (reader : String → Except (Text.Unread Fault) Nat) (text : String) :
    Except (Text.Unread ReadError) Span :=
  match reader text with
  | .ok n => .ok (ofSeconds n)
  | .error e => .error (e.map (⟨text, ·⟩))

end Span

end DeviceUpdate
