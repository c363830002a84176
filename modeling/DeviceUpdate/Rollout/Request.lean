import DeviceUpdate.Deployment.Request
import DeviceUpdate.Rollout.Condition
import DeviceUpdate.Rollout.Partition

/-! Requests to create rollouts. -/

namespace DeviceUpdate.Rollouts

/-- What a rollout is to deploy, to which targets, and in which groups. -/
structure Request where
  name : String
  filter : String
  distributionSet : Nat
  urgency : Urgency
  forcedTime : Option Instant
  weight : Option Nat
  startAt : Option Instant
  /-- How many groups of even sizes there are to be. -/
  amount : Option Nat
  /-- The groups there are to be. -/
  groups : List GroupShare
  success : Threshold
  onSuccess : SuccessAction
  failure : Option Threshold
  onFailure : Option ErrorAction

namespace Request

/-- The record of a request. -/
def toJson (q : Request) : Json :=
  .object [("name", .string q.name), ("target_filter", .string q.filter),
    ("distribution_set", .natural q.distributionSet), ("action_type", .string q.urgency.name),
    ("forced_time", .ofOption .ofInstant q.forcedTime), ("weight", .ofOption .natural q.weight),
    ("start_at", .ofOption .ofInstant q.startAt), ("amount_groups", .ofOption .natural q.amount),
    ("groups", .ofList GroupShare.toJson q.groups), ("success_condition", q.success.toJson),
    ("success_action", .string q.onSuccess.name),
    ("error_condition", .ofOption Threshold.toJson q.failure),
    ("error_action", .ofOption (fun a => .string a.name) q.onFailure)]

/-- The names of the fields in their order. -/
def fields : List String :=
  ["name", "target_filter", "distribution_set", "action_type", "forced_time", "weight",
    "start_at", "amount_groups", "groups", "success_condition", "success_action",
    "error_condition", "error_action"]

/-- Reads the record of a request. -/
def ofJson? (j : Json) : Option Request := do
  let r ← Json.Record.read? fields j
  pure {
    name := ← r.required "name" Json.text?
    filter := ← r.required "target_filter" Json.text?
    distributionSet := ← r.required "distribution_set" Json.natural64?
    urgency := ← r.defaulted "action_type" (Json.named? Urgency.names) .forced
    forcedTime := ← r.defaulted "forced_time" (Json.nullable Json.instant?) none
    weight := ← r.defaulted "weight" (Json.nullable Json.natural32?) none
    startAt := ← r.defaulted "start_at" (Json.nullable Json.instant?) none
    amount := ← r.defaulted "amount_groups" (Json.nullable Json.natural32?) none
    groups := ← r.defaulted "groups" (Json.list? GroupShare.ofJson?) []
    -- All members of a group have to succeed unless the request says otherwise.
    success := ← r.defaulted "success_condition" Threshold.ofJson? ⟨"100"⟩
    onSuccess := ← r.defaulted "success_action" (Json.named? SuccessAction.names) .nextGroup
    failure := ← r.defaulted "error_condition" (Json.nullable Threshold.ofJson?) none
    onFailure := ← r.defaulted "error_action" (Json.nullable (Json.named? ErrorAction.names)) none }

/-- The conditions of a request in the order in which they are checked. -/
def conditions (q : Request) : List Threshold :=
  q.success :: (q.failure.toList ++ q.groups.flatMap fun g => g.success.toList ++ g.failure.toList)

/-- Checks all of a request but its plan, filter and set. -/
def validate (q : Request) : Except Error Unit := do
  if (Text.trim q.name.toList).isEmpty then throw (.invalidDefinition .emptyName)
  if q.urgency == .timeForced && q.forcedTime.isNone then
    throw (.invalidDefinition .noForcedTime)
  -- A condition that cannot be read would only show when a group runs.
  let _ ← q.conditions.mapM percentage
  match q.weight with
  | some w => if maxWeight < w then throw (.invalidDefinition (.weight w maxWeight)) else pure ()
  | none => pure ()

/-- The plan of a request: a number of groups or a list of groups. -/
def plan (q : Request) : Except Error Plan :=
  match q.amount, q.groups with
  | some _, _ :: _ => .error (.invalidDefinition .amountAndGroups)
  | some n, [] => .ok (.amount n)
  | none, _ :: _ => .ok (.shares q.groups)
  | none, [] => .error (.invalidDefinition .noPlan)

end Request

end DeviceUpdate.Rollouts
