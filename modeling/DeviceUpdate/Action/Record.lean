import DeviceUpdate.Action.Status
import DeviceUpdate.Json.Instant
import DeviceUpdate.Target

/-! Actions: the instructions directed at targets. -/

namespace DeviceUpdate

/-- How insistently a deployment is applied. -/
inductive Urgency where
  | forced
  | soft
  /-- Soft until an instant and forced from then on. -/
  | timeForced
  /-- The software is downloaded but never installed. -/
  | downloadOnly
  deriving DecidableEq, Repr

namespace Urgency

/-- The name of an urgency in records. -/
def name : Urgency → String
  | forced => "forced"
  | soft => "soft"
  | timeForced => "time_forced"
  | downloadOnly => "download_only"

/-- The urgencies by name. -/
def names : List (String × Urgency) :=
  [forced, soft, timeForced, downloadOnly].map fun u => (u.name, u)

end Urgency

/-- The texts that describe recurring windows for installation. -/
structure MaintenanceTexts where
  schedule : String
  duration : String
  timeZone : String
  deriving DecidableEq, Repr

namespace MaintenanceTexts

/-- The record of the texts. -/
def toJson (m : MaintenanceTexts) : Json :=
  .object [("schedule", .string m.schedule), ("duration", .string m.duration),
    ("timezone", .string m.timeZone)]

/-- Reads the record of the texts. -/
def ofJson? (j : Json) : Option MaintenanceTexts := do
  let r ← Json.Record.read? ["schedule", "duration", "timezone"] j
  pure {
    schedule := ← r.required "schedule" Json.text?
    duration := ← r.required "duration" Json.text?
    timeZone := ← r.required "timezone" Json.text? }

end MaintenanceTexts

/-- What to deploy, and how. -/
structure Deployment where
  distributionSet : Nat
  urgency : Urgency
  /-- The instant from which a time-forced deployment is forced. -/
  forcedTime : Option Instant
  /-- The rank among several deployments, where a higher weight goes first. -/
  weight : Option Nat
  maintenance : Option MaintenanceTexts
  deriving DecidableEq

namespace Deployment

/-- The fields of the record of a deployment. -/
def members (d : Deployment) : List (String × Json) :=
  [("distribution_set", .natural d.distributionSet), ("action_type", .string d.urgency.name),
    ("forced_time", .ofOption .ofInstant d.forcedTime), ("weight", .ofOption .natural d.weight),
    ("maintenance", .ofOption MaintenanceTexts.toJson d.maintenance)]

/-- Reads the record of a deployment, given how an urgency is read. -/
def read? (urgency : Json → Option Urgency) (j : Json) : Option Deployment := do
  let r ← Json.Record.read?
    ["distribution_set", "action_type", "forced_time", "weight", "maintenance"] j
  pure {
    distributionSet := ← r.required "distribution_set" Json.natural64?
    urgency := ← r.required "action_type" urgency
    forcedTime := ← r.optional "forced_time" Json.instant?
    weight := ← r.optional "weight" Json.natural16?
    maintenance := ← r.optional "maintenance" MaintenanceTexts.ofJson? }

/-- Reads the record of a deployment. -/
def ofJson? : Json → Option Deployment :=
  read? (Json.named? Urgency.names)

end Deployment

/-- What an action tells its target to do. -/
inductive Order where
  /-- Install software. -/
  | deploy (d : Deployment)
  /-- Give up the deployment of this number. -/
  | cancel (subject : Nat)
  deriving DecidableEq

namespace Order

/-- The record of an order, in which a member names its kind. -/
def toJson : Order → Json
  | deploy d => .object (("kind", .string "deployment") :: d.members)
  | cancel subject => .object [("kind", .string "cancel"), ("cancels", .natural subject)]

/-- Reads an order of the named kind from the rest of its record. -/
def ofKind? (kind : String) (rest : Json) : Option Order :=
  match kind with
  | "deployment" => (Deployment.read? (Json.keptNamed? Urgency.names) rest).map deploy
  | "cancel" => do
    let r ← Json.Record.read? ["cancels"] rest
    cancel <$> r.required "cancels" Json.natural64?
  | _ => none

/-- Whether a document can be kept until the kind is known; it lies inside that of an action. -/
def canBeKept (j : Json) : Bool :=
  j.isSound && j.depth < Json.greatestDepth

/-- Reads the record of an order; in an array the kind comes first. -/
def ofJson? (j : Json) : Option Order :=
  if canBeKept j then
    match j with
    | .object members =>
      -- The kind says how the other members are read, wherever it stands among them.
      let (kinds, rest) := members.partition fun m => m.1 == "kind"
      match kinds with
      | [(_, .string kind)] => ofKind? kind (.object rest)
      | _ => none
    | .array (.string kind :: rest) => ofKind? kind (.array rest)
    | _ => none
  else none

end Order

/-- The rollout and the group that an action belongs to. -/
structure Membership where
  rollout : Nat
  group : Nat
  deriving DecidableEq, Repr

namespace Membership

/-- The record of a membership. -/
def toJson (m : Membership) : Json :=
  .object [("rollout_id", .natural m.rollout), ("group_id", .natural m.group)]

/-- Reads the record of a membership. -/
def ofJson? (j : Json) : Option Membership := do
  let r ← Json.Record.read? ["rollout_id", "group_id"] j
  pure {
    rollout := ← r.required "rollout_id" Json.natural64?
    group := ← r.required "group_id" Json.natural64? }

end Membership

/-- One instruction directed at a target. -/
structure Action where
  id : Nat
  tenant : String
  controller : String
  order : Order
  status : Status
  /-- Whether the action still takes part in what happens. -/
  active : Bool
  rollout : Option Membership
  createdAt : Instant
  modifiedAt : Instant
  deriving DecidableEq

namespace Action

/-- The key of the target. -/
def targetKey (a : Action) : String :=
  Target.keyOf a.tenant a.controller

/-- The deployment, if that is what the action orders. -/
def deployment? (a : Action) : Option Deployment :=
  match a.order with
  | .deploy d => some d
  | .cancel _ => none

/-- The action that this one cancels. -/
def cancels? (a : Action) : Option Nat :=
  match a.order with
  | .deploy _ => none
  | .cancel subject => some subject

/-- Whether the action cancels another. -/
def isCancel (a : Action) : Bool :=
  a.cancels?.isSome

/-- The weight of the deployment. -/
def weight? (a : Action) : Option Nat :=
  a.deployment?.bind (·.weight)

/-- Whether the action is a deployment that runs and is not being cancelled. -/
def isInFlight (a : Action) : Bool :=
  a.active && !a.isCancel && a.status != .canceling

/-- The record of an action. -/
def toJson (a : Action) : Json :=
  .object [("id", .natural a.id), ("tenant", .string a.tenant),
    ("controller_id", .string a.controller), ("kind", a.order.toJson),
    ("status", .string a.status.name), ("active", .bool a.active),
    ("rollout", .ofOption Membership.toJson a.rollout), ("created_at", .ofInstant a.createdAt),
    ("last_modified_at", .ofInstant a.modifiedAt)]

/-- Reads the record of an action. -/
def ofJson? (j : Json) : Option Action := do
  let r ← Json.Record.read?
    ["id", "tenant", "controller_id", "kind", "status", "active", "rollout", "created_at",
      "last_modified_at"] j
  pure {
    id := ← r.required "id" Json.natural64?
    tenant := ← r.required "tenant" Json.text?
    controller := ← r.required "controller_id" Json.text?
    order := ← r.required "kind" Order.ofJson?
    status := ← r.required "status" (Json.named? Status.names)
    active := ← r.required "active" Json.flag?
    rollout := ← r.optional "rollout" Membership.ofJson?
    createdAt := ← r.required "created_at" Json.instant?
    modifiedAt := ← r.required "last_modified_at" Json.instant? }

end Action

end DeviceUpdate
