import DeviceUpdate.Action.Record
import DeviceUpdate.Deployment.Error
import DeviceUpdate.Settings.Record

/-! Requests to deploy a distribution set. -/

namespace DeviceUpdate

/-- The highest weight that may be asked for. -/
def maxWeight : Nat := 1000

/-- What to deploy, and how. -/
structure AssignmentRequest where
  distributionSet : Nat
  urgency : Urgency
  forcedTime : Option Instant
  weight : Option Nat
  maintenance : Option MaintenanceTexts
  deriving DecidableEq

namespace AssignmentRequest

/-- The record of a request. -/
def toJson (q : AssignmentRequest) : Json :=
  .object [("distribution_set", .natural q.distributionSet),
    ("action_type", .string q.urgency.name), ("forced_time", .ofOption .ofInstant q.forcedTime),
    ("weight", .ofOption .natural q.weight),
    ("maintenance", .ofOption MaintenanceTexts.toJson q.maintenance)]

/-- Reads the record of a request, which need only name the set. -/
def ofJson? (j : Json) : Option AssignmentRequest := do
  let r ← Json.Record.read?
    ["distribution_set", "action_type", "forced_time", "weight", "maintenance"] j
  pure {
    distributionSet := ← r.required "distribution_set" Json.natural64?
    urgency := ← r.defaulted "action_type" (Json.named? Urgency.names) .forced
    forcedTime := ← r.defaulted "forced_time" (Json.nullable Json.instant?) none
    weight := ← r.defaulted "weight" (Json.nullable Json.natural32?) none
    maintenance := ← r.defaulted "maintenance" (Json.nullable MaintenanceTexts.ofJson?) none }

/-- Checks a request, and gives the weight to store. -/
def validate (q : AssignmentRequest) (settings : TenantSettings) (now : Instant) :
    Except DeployError (Option Nat) := do
  if q.urgency == .timeForced && q.forcedTime.isNone then
    throw (.invalidAssignment .noForcedTime)
  -- The window is only looked at to be refused; the texts themselves are stored.
  match q.maintenance with
  | some m =>
    match Maintenance.Window.readNew m.schedule m.duration m.timeZone now with
    | .ok _ => pure ()
    | .error e => throw (.ofWindow e)
  | none => pure ()
  match q.weight with
  | some w => if maxWeight < w then throw (.invalidAssignment (.weight w maxWeight)) else pure w
  -- Without a weight of its own, a deployment among several gets the greatest one.
  | none => pure (if settings.multiAssignments then some maxWeight else none)

/-- The deployment that a request asks for, with the weight to store. -/
def deployment (q : AssignmentRequest) (weight : Option Nat) : Deployment :=
  ⟨q.distributionSet, q.urgency, q.forcedTime, weight, q.maintenance⟩

end AssignmentRequest

end DeviceUpdate
