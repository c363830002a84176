import DeviceUpdate.Action.Status
import DeviceUpdate.Failure
import DeviceUpdate.Maintenance.Policy

/-! Why assignments, cancellations and reports fail. -/

namespace DeviceUpdate

/-- Why an assignment request is invalid. -/
inductive AssignmentFault where
  /-- A time-forced deployment has no time. -/
  | noForcedTime
  /-- The weight is too high. -/
  | weight (given limit : Nat)
  deriving DecidableEq, Repr

/-- The wording of a fault. -/
def AssignmentFault.message : AssignmentFault → String
  | noForcedTime => "time_forced requires forced_time"
  | weight given limit =>
    "weight " ++ Text.decimal given ++ " outside 0..=" ++ Text.decimal limit

/-- Why an assignment, a cancellation or a report fails. -/
inductive DeployError where
  | targetNotFound (controller : String)
  | targetExists (controller : String)
  | actionNotFound (id : Nat)
  | setNotFound (id : Nat)
  | actionClosed (id : Nat) (status : Status)
  | tooManyEntries (id limit : Nat)
  | tooManyMessages (count limit : Nat)
  | invalidAssignment (fault : AssignmentFault)
  | invalidWindow (e : Maintenance.Error)
  | notCancelable (id : Nat)
  /-- An instant beyond the calendar was to be computed. -/
  | outOfCalendar
  /-- A number was to be computed that its bits cannot hold. -/
  | overrun
  deriving DecidableEq, Repr

namespace DeployError

/-- The wording of an error. -/
def message : DeployError → String
  | targetNotFound controller => "target not found: " ++ controller
  | targetExists controller => "target already exists: " ++ controller
  | actionNotFound id => "action not found: " ++ Text.decimal id
  | setNotFound id => "distribution set not found: " ++ Text.decimal id
  | actionClosed id status => "action " ++ Text.decimal id ++ " is closed (" ++ status.word ++ ")"
  | tooManyEntries id limit =>
    "action " ++ Text.decimal id ++ " reached the limit of " ++ Text.decimal limit ++
      " status entries"
  | tooManyMessages count limit =>
    "feedback carries " ++ Text.decimal count ++ " messages, limit is " ++ Text.decimal limit
  | invalidAssignment fault => "invalid assignment: " ++ fault.message
  | invalidWindow e => "invalid maintenance window: " ++ e.message
  | notCancelable id =>
    "action " ++ Text.decimal id ++ " cannot be canceled in its current state"
  | outOfCalendar => "instant out of range"
  | overrun => "number out of range"

/-- The category of an error. -/
def failure : DeployError → Failure
  | targetNotFound _ | actionNotFound _ | setNotFound _ => .notFound
  | actionClosed _ _ => .gone
  | tooManyEntries _ _ | tooManyMessages _ _ => .quotaExceeded
  | invalidAssignment _ | invalidWindow _ => .malformed
  | targetExists _ | notCancelable _ => .conflict
  | outOfCalendar | overrun => .internal

/-- The error of a window that is not accepted. -/
def ofWindow : Maintenance.NewWindowError → DeployError
  | .refused e => invalidWindow e
  | .outOfCalendar => outOfCalendar
  | .overrun => overrun

end DeployError

end DeviceUpdate
