import DeviceUpdate.Maintenance.Cron
import DeviceUpdate.Maintenance.Firing
import DeviceUpdate.Maintenance.Offset

/-! Maintenance windows: the recurring spans of time in which devices may install. -/

namespace DeviceUpdate.Maintenance

/-- The longest duration of a window in seconds. -/
def durationLimit : Nat := 9223372036854775

/-- Why the description of a window is refused. -/
inductive Error where
  /-- The expression does not have six or seven words. -/
  | wordCount (expression : String) (count : Nat)
  /-- The expression does not read as a schedule. -/
  | unreadable (expression : String)
  /-- There is a duration or an offset, but no schedule. -/
  | noSchedule
  /-- There is a schedule, but no duration or no offset. -/
  | incomplete (expression : String)
  /-- The duration cannot be read. -/
  | duration (e : Span.ReadError)
  /-- The duration is zero or too long. -/
  | emptyDuration
  /-- The offset cannot be read. -/
  | timeZone (text : String)
  /-- All windows lie in the past. -/
  | lapsed
  deriving DecidableEq, Repr

/-- The wording of a refused schedule. -/
def scheduleMessage (expression reason : String) : String :=
  "invalid maintenance schedule '" ++ expression ++ "': " ++ reason

/-- The wording of a refusal. -/
def Error.message : Error → String
  | wordCount expression count =>
    scheduleMessage expression ("expected 6 or 7 fields, got " ++ Text.decimal count)
  | unreadable _ => "invalid maintenance schedule: <cron>"
  | noSchedule => scheduleMessage "" "duration or time zone given without a schedule"
  | incomplete expression =>
    scheduleMessage expression "schedule requires both a duration and a time zone"
  | duration e => e.message
  | emptyDuration => "maintenance window duration must be positive"
  | timeZone text => "invalid time zone offset '" ++ text ++ "', expected e.g. +02:00"
  | lapsed => "maintenance schedule has no future windows"

/-- A window that opens whenever its schedule fires in the local time of its offset. -/
structure Window where
  schedule : Schedule
  /-- How many seconds the window stays open. -/
  seconds : Nat
  offset : Offset
  seconds_pos : 0 < seconds
  seconds_le : seconds ≤ durationLimit
  deriving DecidableEq

namespace Window

/-- Reads a window from the texts of its three parts. -/
def read (schedule duration timeZone : String) : Except (Text.Unread Error) Window := do
  -- The words are counted first, since the year is optional in the grammar.
  let words := Text.wordCount schedule.toList
  if words < 6 || 7 < words then throw (.refused (.wordCount schedule words))
  let some plan := Cron.read? schedule | throw (.refused (.unreadable schedule))
  let seconds ← (Span.readEither duration).mapError (·.map fun fault => .duration ⟨duration, fault⟩)
  if h : 0 < seconds ∧ seconds ≤ durationLimit then
    let offset ← (Offset.read timeZone).mapError (·.map fun _ => .timeZone timeZone)
    pure ⟨plan, seconds, offset, h.1, h.2⟩
  else throw (.refused .emptyDuration)

/-- How long the window stays open. -/
def duration (w : Window) : Span :=
  .ofSeconds w.seconds

/-- The first firing after an instant. -/
def firingAfter (w : Window) (t : Instant) : Except OutOfCalendar (Option Instant) := do
  -- Firings are whole seconds, and the one of the instant itself does not count.
  let start ← t.addSeconds 1
  -- The schedule is in local time, and the firing is taken back to universal time.
  let firing := w.schedule.firingFrom? (start.seconds + w.offset.seconds)
  pure (firing.bind fun second => Instant.ofParts? (second - w.offset.seconds) 0)

/-- The first firing at or after an instant. -/
def firingFrom (w : Window) (t : Instant) : Except OutOfCalendar (Option Instant) := do
  let floor := t.floorSecond
  let ceiling ← if t.isWholeSecond then pure floor else floor.addSeconds 1
  w.firingAfter (← ceiling.addSeconds (-1))

/-- The start of the window that is open, or else of the next one. -/
def start (w : Window) (now : Instant) : Except OutOfCalendar (Option Instant) := do
  -- A window that opened within the last duration has not ended yet.
  w.firingAfter (← now.addSeconds (-w.seconds)).floorSecond

/-- The end of the window that is open, or else of the next one. -/
def close (w : Window) (now : Instant) : Except OutOfCalendar (Option Instant) := do
  match ← w.start now with
  | some start => some <$> start.addSeconds w.seconds
  | none => pure none

/-- Whether no window is open or ahead. -/
def isLapsed (w : Window) (now : Instant) : Except OutOfCalendar Bool :=
  (·.isNone) <$> w.start now

/-- Whether the window is open. -/
def isAvailable (w : Window) (now : Instant) : Except OutOfCalendar Bool := do
  match ← w.start now with
  | some start =>
    -- The window that comes next may not have opened yet.
    if start.notAfter now then now.before <$> start.addSeconds w.seconds else pure false
  | none => pure false

/-- Nanoseconds until the next window opens; none when one is open or none is ahead. -/
def untilStart (w : Window) (now : Instant) : Except OutOfCalendar (Option Int) := do
  match ← w.start now with
  | some start => pure (if now.before start then some (start.since now) else none)
  | none => pure none

end Window

end DeviceUpdate.Maintenance
