import DeviceUpdate.Time.Calendar
import DeviceUpdate.Time.Span

/-! Instants on the time line, leap seconds included, and the steps between them. -/

namespace DeviceUpdate

/-- Seconds in a day. -/
def secondsPerDay : Int := 86400

/-- The first second of the calendar, at the start of the year -262143. -/
def firstSecond : Int := Date.toDays ⟨-262143, 1, 1⟩ * secondsPerDay

/-- The last second of the calendar, at the end of the year 262142. -/
def lastSecond : Int := (Date.toDays ⟨262142, 12, 31⟩ + 1) * secondsPerDay - 1

/-- An instant; a leap second is a second part of the last second of a minute. -/
structure Instant where
  /-- Seconds since the start of 1970, leap seconds not counted. -/
  seconds : Int
  /-- Nanoseconds into the second, from a whole second on inside a leap second. -/
  nanos : Nat
  /-- A second lasts at most twice as long as usual. -/
  nanos_lt : nanos < 2 * nanosPerSecond
  /-- Only the last second of a minute is followed by a leap second. -/
  leap_at_end : nanosPerSecond ≤ nanos → seconds % 60 = 59
  /-- The instant lies in the calendar. -/
  in_calendar : firstSecond ≤ seconds ∧ seconds ≤ lastSecond
  deriving DecidableEq

/-- An instant beyond the calendar was to be computed. -/
inductive OutOfCalendar where
  | outOfCalendar
  deriving DecidableEq, Repr

namespace Instant

/-- The instant of these parts, if it exists. -/
def ofParts? (seconds : Int) (nanos : Nat) : Option Instant :=
  if h : nanos < 2 * nanosPerSecond ∧ (nanosPerSecond ≤ nanos → seconds % 60 = 59) ∧
      (firstSecond ≤ seconds ∧ seconds ≤ lastSecond) then
    some ⟨seconds, nanos, h.1, h.2.1, h.2.2⟩
  else none

/-- The start of 1970. -/
def epoch : Instant :=
  ⟨0, 0, by decide, by decide, by decide⟩

instance : Inhabited Instant := ⟨epoch⟩

/-- Whether an instant comes before another. -/
def before (a b : Instant) : Bool :=
  a.seconds < b.seconds || (a.seconds == b.seconds && a.nanos < b.nanos)

/-- Whether an instant does not come after another. -/
def notAfter (a b : Instant) : Bool :=
  !b.before a

/-- Whether an instant lies in a leap second. -/
def isLeap (t : Instant) : Bool :=
  nanosPerSecond ≤ t.nanos

/-- The instant of these parts, which fails beyond the calendar. -/
def ofParts (seconds : Int) (nanos : Nat) : Except OutOfCalendar Instant :=
  match ofParts? seconds nanos with
  | some t => .ok t
  | none => .error .outOfCalendar

/-- The instant some whole seconds later, or earlier when negative. -/
def addSeconds (t : Instant) (n : Int) : Except OutOfCalendar Instant :=
  -- A step out of a leap second counts it as the second that it follows or precedes.
  if t.isLeap && 0 < n then ofParts (t.seconds + n) (t.nanos - nanosPerSecond)
  else if t.isLeap && n < 0 then ofParts (t.seconds + 1 + n) (t.nanos - nanosPerSecond)
  else ofParts (t.seconds + n) t.nanos

/-- The second of the day in which an instant lies. -/
def secondOfDay (t : Instant) : Int :=
  t.seconds % secondsPerDay

/-- The nanoseconds from one instant to a later one, negative when it is earlier. -/
def since (later earlier : Instant) : Int :=
  -- A leap second between the two is one that its own instant is past, by the time of the day.
  let leap : Int :=
    if earlier.secondOfDay < later.secondOfDay && earlier.isLeap then 1
    else if later.secondOfDay < earlier.secondOfDay && later.isLeap then -1
    else 0
  (later.seconds - earlier.seconds + leap) * nanosPerSecond + (later.nanos - earlier.nanos)

/-- The nanoseconds since the start of 1970. -/
def total (t : Instant) : Int :=
  t.seconds * nanosPerSecond + t.nanos

/-- The start of the second in which an instant lies; 292 years from 1970 they stay as they are. -/
def floorSecond (t : Instant) : Instant :=
  if -Int.pow 2 63 ≤ t.total && t.total < Int.pow 2 63 then
    -- A leap second is a second of its own.
    if leap : nanosPerSecond ≤ t.nanos then
      ⟨t.seconds, nanosPerSecond, by decide, fun _ => t.leap_at_end leap, t.in_calendar⟩
    else ⟨t.seconds, 0, by decide, fun h => absurd h (by decide), t.in_calendar⟩
  else t

/-- Whether an instant is the start of a second, as far as `floorSecond` can tell. -/
def isWholeSecond (t : Instant) : Bool :=
  t.floorSecond == t

end Instant

end DeviceUpdate
