import DeviceUpdate.Action.Record

/-! Rollouts: campaigns that deliver a distribution set to one group of targets after another. -/

namespace DeviceUpdate

/-- The state of a rollout. -/
inductive RolloutStatus where
  | creating
  | ready
  | running
  | paused
  | stopped
  | finished
  | error
  | deleting
  deriving DecidableEq, Repr

namespace RolloutStatus

/-- The name of a status in records. -/
def name : RolloutStatus → String
  | creating => "CREATING"
  | ready => "READY"
  | running => "RUNNING"
  | paused => "PAUSED"
  | stopped => "STOPPED"
  | finished => "FINISHED"
  | error => "ERROR"
  | deleting => "DELETING"

/-- The word for a status in messages. -/
def word : RolloutStatus → String
  | creating => "Creating"
  | ready => "Ready"
  | running => "Running"
  | paused => "Paused"
  | stopped => "Stopped"
  | finished => "Finished"
  | error => "Error"
  | deleting => "Deleting"

/-- The statuses by name. -/
def names : List (String × RolloutStatus) :=
  [creating, ready, running, paused, stopped, finished, error, deleting].map fun s => (s.name, s)

end RolloutStatus

/-- The state of a group. -/
inductive GroupStatus where
  | creating
  | ready
  | scheduled
  | running
  | finished
  | error
  deriving DecidableEq, Repr

namespace GroupStatus

/-- The name of a status in records. -/
def name : GroupStatus → String
  | creating => "CREATING"
  | ready => "READY"
  | scheduled => "SCHEDULED"
  | running => "RUNNING"
  | finished => "FINISHED"
  | error => "ERROR"

/-- The statuses by name. -/
def names : List (String × GroupStatus) :=
  [creating, ready, scheduled, running, finished, error].map fun s => (s.name, s)

/-- Whether a group no longer takes part in the progress of its rollout. -/
def isSettled : GroupStatus → Bool
  | finished | error => true
  | _ => false

end GroupStatus

/-- A condition on the counts of a group: a share of its targets, in percent. -/
structure Threshold where
  expression : String
  deriving DecidableEq, Repr

namespace Threshold

/-- The only kind of condition. -/
def kinds : List (String × Unit) :=
  [("THRESHOLD", ())]

/-- The record of a condition. -/
def toJson (c : Threshold) : Json :=
  .object [("kind", .string "THRESHOLD"), ("expression", .string c.expression)]

/-- Reads the record of a condition. -/
def ofJson? (j : Json) : Option Threshold := do
  let r ← Json.Record.read? ["kind", "expression"] j
  -- The kind has to be one that is known, and only one is.
  let _ ← r.required "kind" (Json.named? kinds)
  pure { expression := ← r.required "expression" Json.text? }

end Threshold

/-- What happens once a group has succeeded. -/
inductive SuccessAction where
  /-- The next group starts. -/
  | nextGroup
  /-- The rollout pauses. -/
  | pause
  deriving DecidableEq, Repr

namespace SuccessAction

/-- The name of the action in records. -/
def name : SuccessAction → String
  | nextGroup => "NEXTGROUP"
  | pause => "PAUSE"

/-- The actions by name, one of which has two. -/
def names : List (String × SuccessAction) :=
  [("NEXTGROUP", nextGroup), ("NEXT_GROUP", nextGroup), ("PAUSE", pause)]

end SuccessAction

/-- What happens once a group has failed. -/
inductive ErrorAction where
  /-- The rollout pauses. -/
  | pause
  deriving DecidableEq, Repr

namespace ErrorAction

/-- The name of the action in records. -/
def name : ErrorAction → String
  | pause => "PAUSE"

/-- The actions by name. -/
def names : List (String × ErrorAction) :=
  [("PAUSE", pause)]

end ErrorAction

/-- A campaign. -/
structure Rollout where
  id : Nat
  tenant : String
  name : String
  filter : String
  distributionSet : Nat
  urgency : Urgency
  forcedTime : Option Instant
  weight : Option Nat
  status : RolloutStatus
  totalTargets : Nat
  groupCount : Nat
  /-- The instant from which the rollout starts by itself. -/
  startAt : Option Instant
  /-- The last time the rollout was examined. -/
  lastCheck : Option Instant
  createdAt : Instant
  deriving DecidableEq

namespace Rollout

/-- The fields of the record of a rollout. -/
def members (r : Rollout) : List (String × Json) :=
  [("id", .natural r.id), ("tenant", .string r.tenant), ("name", .string r.name),
    ("target_filter", .string r.filter), ("distribution_set", .natural r.distributionSet),
    ("action_type", .string r.urgency.name), ("forced_time", .ofOption .ofInstant r.forcedTime),
    ("weight", .ofOption .natural r.weight), ("status", .string r.status.name),
    ("total_targets", .natural r.totalTargets), ("groups_created", .natural r.groupCount),
    ("start_at", .ofOption .ofInstant r.startAt), ("last_check", .ofOption .ofInstant r.lastCheck),
    ("created_at", .ofInstant r.createdAt)]

/-- The record of a rollout. -/
def toJson (r : Rollout) : Json :=
  .object r.members

/-- The names of the fields in their order. -/
def fields : List String :=
  ["id", "tenant", "name", "target_filter", "distribution_set", "action_type", "forced_time",
    "weight", "status", "total_targets", "groups_created", "start_at", "last_check", "created_at"]

/-- Reads the record of a rollout. -/
def ofJson? (j : Json) : Option Rollout := do
  let r ← Json.Record.read? fields j
  pure {
    id := ← r.required "id" Json.natural64?
    tenant := ← r.required "tenant" Json.text?
    name := ← r.required "name" Json.text?
    filter := ← r.required "target_filter" Json.text?
    distributionSet := ← r.required "distribution_set" Json.natural64?
    urgency := ← r.required "action_type" (Json.named? Urgency.names)
    forcedTime := ← r.optional "forced_time" Json.instant?
    weight := ← r.optional "weight" Json.natural16?
    status := ← r.required "status" (Json.named? RolloutStatus.names)
    totalTargets := ← r.required "total_targets" Json.natural64?
    groupCount := ← r.required "groups_created" Json.natural32?
    startAt := ← r.optional "start_at" Json.instant?
    lastCheck := ← r.optional "last_check" Json.instant?
    createdAt := ← r.required "created_at" Json.instant? }

end Rollout

/-- A batch of targets within a rollout. -/
structure RolloutGroup where
  id : Nat
  rollout : Nat
  /-- The position among the groups of the rollout, from zero. -/
  position : Nat
  name : String
  status : GroupStatus
  success : Threshold
  onSuccess : SuccessAction
  failure : Option Threshold
  onFailure : Option ErrorAction
  totalTargets : Nat
  /-- The group before this one. -/
  parent : Option Nat
  deriving DecidableEq, Repr

namespace RolloutGroup

/-- The record of a group. -/
def toJson (g : RolloutGroup) : Json :=
  .object [("id", .natural g.id), ("rollout_id", .natural g.rollout),
    ("position", .natural g.position), ("name", .string g.name), ("status", .string g.status.name),
    ("success_condition", g.success.toJson), ("success_action", .string g.onSuccess.name),
    ("error_condition", .ofOption Threshold.toJson g.failure),
    ("error_action", .ofOption (fun a => .string a.name) g.onFailure),
    ("total_targets", .natural g.totalTargets), ("parent", .ofOption .natural g.parent)]

/-- The names of the fields in their order. -/
def fields : List String :=
  ["id", "rollout_id", "position", "name", "status", "success_condition", "success_action",
    "error_condition", "error_action", "total_targets", "parent"]

/-- Reads the record of a group. -/
def ofJson? (j : Json) : Option RolloutGroup := do
  let r ← Json.Record.read? fields j
  pure {
    id := ← r.required "id" Json.natural64?
    rollout := ← r.required "rollout_id" Json.natural64?
    position := ← r.required "position" Json.natural32?
    name := ← r.required "name" Json.text?
    status := ← r.required "status" (Json.named? GroupStatus.names)
    success := ← r.required "success_condition" Threshold.ofJson?
    onSuccess := ← r.required "success_action" (Json.named? SuccessAction.names)
    failure := ← r.optional "error_condition" Threshold.ofJson?
    onFailure := ← r.optional "error_action" (Json.named? ErrorAction.names)
    totalTargets := ← r.required "total_targets" Json.natural64?
    parent := ← r.optional "parent" Json.natural64? }

end RolloutGroup

end DeviceUpdate
