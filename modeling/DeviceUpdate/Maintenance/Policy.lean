import DeviceUpdate.Maintenance.Window

/-! When installation is allowed: always, or in maintenance windows only. -/

namespace DeviceUpdate.Maintenance

/-- When installation is allowed. -/
inductive Policy where
  /-- At any time. -/
  | always
  /-- While a window is open. -/
  | within (w : Window)
  deriving DecidableEq

namespace Policy

/-- Reads the three parts of a window, which must be there together or not at all. -/
def read (schedule duration timeZone : Option String) : Except (Text.Unread Error) Policy :=
  match schedule, duration, timeZone with
  | none, none, none => .ok .always
  | some s, some d, some z => .within <$> Window.read s d z
  | none, _, _ => .error (.refused .noSchedule)
  | some s, _, _ => .error (.refused (.incomplete s))

/-- The window, if there is one. -/
def window? : Policy → Option Window
  | always => none
  | within w => some w

/-- Whether installation is limited to windows. -/
def isLimited (p : Policy) : Bool :=
  p.window?.isSome

/-- The first firing at or after an instant. -/
def firingFrom (p : Policy) (t : Instant) : Except OutOfCalendar (Option Instant) :=
  match p with
  | always => .ok none
  | within w => w.firingFrom t

/-- The start of the window that is open, or else of the next one. -/
def start (p : Policy) (now : Instant) : Except OutOfCalendar (Option Instant) :=
  match p with
  | always => .ok none
  | within w => w.start now

/-- The end of the window that is open, or else of the next one. -/
def close (p : Policy) (now : Instant) : Except OutOfCalendar (Option Instant) :=
  match p with
  | always => .ok none
  | within w => w.close now

/-- Whether there are windows, but none is open or ahead. -/
def isLapsed (p : Policy) (now : Instant) : Except OutOfCalendar Bool :=
  match p with
  | always => .ok false
  | within w => w.isLapsed now

/-- Whether installation is allowed. -/
def isAvailable (p : Policy) (now : Instant) : Except OutOfCalendar Bool :=
  match p with
  | always => .ok true
  | within w => w.isAvailable now

/-- Nanoseconds until the next window opens; none when one is open or none is ahead. -/
def untilStart (p : Policy) (now : Instant) : Except OutOfCalendar (Option Int) :=
  match p with
  | always => .ok none
  | within w => w.untilStart now

end Policy

/-- Why a new window is not accepted. -/
inductive NewWindowError where
  /-- Its description is refused. -/
  | refused (e : Error)
  /-- Its windows cannot be computed. -/
  | outOfCalendar
  /-- A number in its description leads to one that its bits cannot hold. -/
  | overrun
  deriving DecidableEq, Repr

/-- Reads a window that must not have lapsed. -/
def Window.readNew (schedule duration timeZone : String) (now : Instant) :
    Except NewWindowError Window :=
  match Window.read schedule duration timeZone with
  | .error (.refused e) => .error (.refused e)
  | .error .overrun => .error .overrun
  | .ok w =>
    match w.isLapsed now with
    -- The only failure of the search is that it leaves the calendar.
    | .error _ => .error .outOfCalendar
    | .ok true => .error (.refused .lapsed)
    | .ok false => .ok w

end DeviceUpdate.Maintenance
