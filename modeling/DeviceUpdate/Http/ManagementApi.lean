import DeviceUpdate.Http.Handler
import DeviceUpdate.Http.Route
import DeviceUpdate.Rollout.Lifecycle

/-! The answers to administrators: results and failures in envelopes. -/

namespace DeviceUpdate.Http.ManagementApi

/-- A distribution set that is to be stored. -/
structure NewSet where
  name : String
  version : String
  modules : List SoftwareModule
  deriving DecidableEq, Repr

namespace NewSet

/-- Reads the record of a new set, which may lack its modules. -/
def ofJson? (j : Json) : Option NewSet := do
  let r ← Json.Record.read? ["name", "version", "modules"] j
  pure {
    name := ← r.required "name" Json.text?
    version := ← r.required "version" Json.text?
    modules := ← r.defaulted "modules" (Json.list? SoftwareModule.ofJson?) [] }

end NewSet

/-- A target that is to be registered. -/
structure NewTarget where
  controller : String
  attributes : Table String String
  deriving DecidableEq

namespace NewTarget

/-- Reads the record of a new target, which may lack its attributes. -/
def ofJson? (j : Json) : Option NewTarget := do
  let r ← Json.Record.read? ["controller_id", "attributes"] j
  pure {
    controller := ← r.required "controller_id" Json.text?
    attributes := ← r.defaulted "attributes" Json.texts? .empty }

end NewTarget

/-- Whether a text has no visible character. -/
def isBlank (s : String) : Bool :=
  (Text.trim s.toList).isEmpty

/-- Stores a new distribution set. -/
def createSet (tenant : String) (now : Instant) (r : Request) : Handler Response := do
  let q ← Handler.body r NewSet.ofJson?
  if isBlank q.name || isBlank q.version then
    Handler.refuse .badRequest "name and version are required"
  else
    let set ← Handler.transact .ofDeploy
      (Deployments.createSet tenant q.name q.version q.modules now)
    pure (.result .created set.toJson)

/-- Shows a distribution set. -/
def showSet (tenant id : String) : Handler Response := do
  let id ← Handler.number "distribution set" id
  match (← get).set? tenant id with
  | some set => pure (.result .ok set.toJson)
  | none => Handler.refuse .notFound "distribution set not found"

/-- Registers a target. -/
def createTarget (tenant : String) (now : Instant) (r : Request) : Handler Response := do
  let q ← Handler.body r NewTarget.ofJson?
  if isBlank q.controller then Handler.refuse .badRequest "controller_id is required"
  else
    let target ← Handler.transact .ofDeploy
      (Deployments.createTarget tenant q.controller q.attributes now)
    pure (.result .created target.toJson)

/-- Assigns a distribution set to a target. -/
def assign (settings : TenantSettings) (tenant controller : String) (now : Instant)
    (r : Request) : Handler Response := do
  let q ← Handler.body r AssignmentRequest.ofJson?
  match ← Handler.transact .ofDeploy (Deployments.assign settings tenant controller q now) with
  | .new action cancels =>
    pure (.result .created (.object
      [("action", action.toJson), ("canceled", .ofList .natural cancels)]))
  -- An assignment that changes nothing conflicts with the one that is there.
  | .already id =>
    Handler.refuse .conflict ("distribution set already assigned by action " ++ Text.decimal id)

/-- Answers a request on a target. -/
def target (settings : TenantSettings) (tenant controller : String) (now : Instant)
    (r : Request) : TargetPart → Handler Response
  | .record => do
    let t ← Handler.look .ofDeploy fun s => Deployments.target s tenant controller
    pure (.result .ok t.toJson)
  | .assignments => assign settings tenant controller now r
  | .actions => do
    let actions ← Handler.look .ofDeploy fun s => Deployments.actions s tenant controller
    pure (.result .ok (.ofList Action.toJson actions))

/-- The log of an action of a tenant. -/
def logOf (tenant : String) (id : Nat) (s : Store) : Except DeployError (List LogEntry) := do
  let a ← Deployments.action s tenant id
  pure (s.logOf a.id)

/-- Answers a request on an action. -/
def action (tenant id : String) (now : Instant) (part : ActionPart) : Handler Response := do
  -- What is no number is the number of no action.
  let id ← Handler.number "action" id
  match part with
  | .record =>
    let a ← Handler.look .ofDeploy fun s => Deployments.action s tenant id
    pure (.result .ok a.toJson)
  | .history =>
    let entries ← Handler.look .ofDeploy (logOf tenant id)
    pure (.result .ok (.ofList LogEntry.toJson entries))
  | .cancel =>
    let a ← Handler.transact .ofDeploy (Deployments.cancel tenant id now)
    pure (.result .created a.toJson)
  | .rejectCancel =>
    let a ← Handler.transact .ofDeploy (Deployments.rejectCancel tenant id now)
    pure (.result .ok a.toJson)

/-- Shows the rollouts of a tenant. -/
def listRollouts (tenant : String) : Handler Response := do
  pure (.result .ok (.ofList Rollout.toJson (Rollouts.list (← get) tenant)))

/-- Creates a rollout. -/
def createRollout (settings : TenantSettings) (tenant : String) (now : Instant) (r : Request) :
    Handler Response := do
  let q ← Handler.body r Rollouts.Request.ofJson?
  let detail ← Handler.transact .ofRollout (Rollouts.create settings tenant q now)
  pure (.result .created detail.toJson)

/-- The record of a group with its counts. -/
def countedGroup (g : RolloutGroup × Rollouts.Tally) : Json :=
  .object [("group", g.1.toJson), ("counts", g.2.toJson)]

/-- The counts of a rollout and of each of its groups. -/
def counts (groups : List (RolloutGroup × Rollouts.Tally)) : Json :=
  let total := (groups.map (·.2)).foldl Rollouts.Tally.merge .empty
  .object [("total", total.toJson), ("groups", .ofList countedGroup groups)]

/-- Moves a rollout on. -/
def move (step : Transaction Rollouts.Error Rollout) : Handler Response := do
  let rollout ← Handler.transact .ofRollout step
  pure (.result .ok rollout.toJson)

/-- Shows or deletes a rollout. -/
def rolloutRecord (tenant : String) (id : Nat) (method : Method) : Handler Response := do
  if method = .delete then
    Handler.ofStep .ofRollout (Rollouts.delete tenant id)
    pure (.result .ok (.string "deleted"))
  else
    let detail ← Handler.look .ofRollout fun s => Rollouts.detail s tenant id
    pure (.result .ok detail.toJson)

/-- Answers a request on a rollout. -/
def rollout (tenant id : String) (now : Instant) (method : Method) (part : RolloutPart) :
    Handler Response := do
  -- What is no number is the number of no rollout.
  let id ← Handler.number "rollout" id
  match part with
  | .record => rolloutRecord tenant id method
  | .groups =>
    let groups ← Handler.look .ofRollout fun s => Rollouts.groupCounts s tenant id
    pure (.result .ok (counts groups))
  | .start => move (Rollouts.start tenant id)
  | .pause => move (Rollouts.pause tenant id)
  | .resume => move (Rollouts.resume tenant id)
  | .stop => move (Rollouts.stop tenant id now)

end DeviceUpdate.Http.ManagementApi
