import DeviceUpdate.Action.Record
import DeviceUpdate.Maintenance.Policy
import DeviceUpdate.Settings.Record

/-! What a device is told about the download and the installation of a deployment, and when it is to
poll again. -/

namespace DeviceUpdate

/-- How a device treats a step of a deployment. -/
inductive Directive where
  | skip
  | attempt
  | forced
  deriving DecidableEq, Repr

namespace Directive

/-- The name of a directive in documents. -/
def name : Directive → String
  | skip => "skip"
  | attempt => "attempt"
  | forced => "forced"

/-- The word for a directive in validators. -/
def word : Directive → String
  | skip => "Skip"
  | attempt => "Attempt"
  | forced => "Forced"

end Directive

/-- Whether a maintenance window is open. -/
inductive Availability where
  | available
  | unavailable
  deriving DecidableEq, Repr

namespace Availability

/-- The name of an availability in documents. -/
def name : Availability → String
  | available => "available"
  | unavailable => "unavailable"

/-- The word for an availability in validators. -/
def word : Availability → String
  | available => "Available"
  | unavailable => "Unavailable"

/-- The availability of a window that is open or not. -/
def ofOpen (isOpen : Bool) : Availability :=
  if isOpen then available else unavailable

end Availability

namespace Deployment

/-- When a deployment may be installed; texts that are refused are taken as absent. -/
def policy (d : Deployment) : Except Text.Overrun Maintenance.Policy :=
  match d.maintenance with
  | none => .ok .always
  | some m =>
    match Maintenance.Window.read m.schedule m.duration m.timeZone with
    | .ok w => .ok (.within w)
    | .error (.refused _) => .ok .always
    | .error .overrun => .error .overrun

/-- Whether a deployment is forced. -/
def isForced (d : Deployment) (now : Instant) : Bool :=
  match d.urgency with
  | .forced | .downloadOnly => true
  | .timeForced => d.forcedTime.any (·.notAfter now)
  | .soft => false

/-- How a device treats the download, which may happen at any time. -/
def download (d : Deployment) (now : Instant) : Directive :=
  if d.isForced now then .forced else .attempt

/-- How a device treats the installation. -/
def update (d : Deployment) (p : Maintenance.Policy) (now : Instant) :
    Except OutOfCalendar Directive := do
  if d.urgency == .downloadOnly then pure .skip
  else if ← p.isAvailable now then pure (d.download now)
  else pure .skip

end Deployment

namespace Maintenance.Policy

/-- Whether a window is open, where installation is limited to windows. -/
def availability (p : Maintenance.Policy) (now : Instant) :
    Except OutOfCalendar (Option Availability) :=
  match p with
  | always => .ok none
  | within w => (fun isOpen => some (.ofOpen isOpen)) <$> w.isAvailable now

end Maintenance.Policy

/-- How long a device sleeps: its share of the time until the next window, within the limits. -/
def pollSleep (settings : TenantSettings) (p : Maintenance.Policy) (now : Instant) :
    Except OutOfCalendar Span := do
  -- The nearer the window, the more often the device polls.
  let longest := settings.effectivePolling
  match ← p.untilStart now with
  | none => pure longest
  | some left =>
    if left < 0 then pure longest
    else
      let share := (Span.mk left.toNat).share (max settings.windowPolls 1)
      pure ((share.max (settings.minPolling.min longest)).min longest)

end DeviceUpdate
