import DeviceUpdate.Text.Blank
import DeviceUpdate.Text.Numeral

/-! Fixed offsets from universal time, such as `+02:00`. -/

namespace DeviceUpdate.Maintenance

/-- Seconds by which local time is ahead of universal time, less than a day either way. -/
structure Offset where
  seconds : Int
  bounded : -86400 < seconds ∧ seconds < 86400
  deriving DecidableEq

namespace Offset

/-- Universal time itself. -/
def zero : Offset :=
  ⟨0, by decide⟩

/-- The offset of a number of seconds, if it is less than a day. -/
def ofSeconds? (seconds : Int) : Option Offset :=
  if h : -86400 < seconds ∧ seconds < 86400 then some ⟨seconds, h⟩ else none

/-- The largest hour that an offset may name. -/
def hourLimit : Int := 18

/-- The hours and minutes on the two sides of a colon, where hours below zero are let through. -/
def fields? (rest : List Char) : Option (Int × Int) := do
  let (hours, minutes) ← Text.splitOnce [':'] rest
  let hours ← Text.signed? (Nat.pow 2 31) hours
  let minutes ← Text.signed? (Nat.pow 2 31) minutes
  if hourLimit < hours || minutes < 0 || 60 ≤ minutes then none else some (hours, minutes)

/-- A number that 32 bits have to hold, one of them for the sign. -/
def word (n : Int) : Except Text.Overrun Int :=
  if -Int.pow 2 31 ≤ n ∧ n < Int.pow 2 31 then .ok n else .error .overrun

/-- The seconds of hours and minutes behind a sign, computed in 32 bits. -/
def total (sign hours minutes : Int) : Except Text.Overrun Int := do
  let ofHours ← word (hours * 3600)
  let ofMinutes ← word (minutes * 60)
  let sum ← word (ofHours + ofMinutes)
  word (sign * sum)

/-- The offset of a sign and a text of hours and minutes. -/
def ofFields (sign : Int) (rest : List Char) : Except (Text.Unread Unit) Offset :=
  match fields? rest with
  | none => .error (.refused ())
  | some (hours, minutes) => do
    let seconds ← Text.Unread.ofOverrun (total sign hours minutes)
    match ofSeconds? seconds with
    | some offset => pure offset
    | none => throw (.refused ())

/-- Reads `Z`, `UTC`, or a sign with hours and minutes. -/
def read (text : String) : Except (Text.Unread Unit) Offset :=
  let trimmed := Text.trim text.toList
  let lower := String.ofList (Text.lowerAscii trimmed)
  if lower == "z" || lower == "utc" then .ok zero
  else
    -- The sign in front is taken off here, whatever the numbers behind it look like.
    match trimmed with
    | '+' :: rest => ofFields 1 rest
    | '-' :: rest => ofFields (-1) rest
    | _ => .error (.refused ())

end Offset

end DeviceUpdate.Maintenance
