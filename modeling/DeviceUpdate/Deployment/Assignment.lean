import DeviceUpdate.Action.Transition
import DeviceUpdate.Deployment.Request
import DeviceUpdate.Store.Transaction

/-! Assignments of distribution sets to targets, and the cancellations they cause. -/

namespace DeviceUpdate.Deployments

/-- The sequence of the numbers of actions. -/
def sequence : String := "action"

/-- What came of an assignment. -/
inductive Assigned where
  /-- A new deployment, and the actions that cancel the ones it replaces. -/
  | new (action : Action) (cancels : List Nat)
  /-- A deployment of the same set was in flight already. -/
  | already (id : Nat)
  deriving DecidableEq

/-- Starts the cancellation of a deployment and gives the action that cancels it. -/
def cancelIn (subject : Action) (now : Instant) : Transaction DeployError Action := do
  let id ← Transaction.draw sequence
  let (step, cancel) ← liftM (subject.requestCancel id now)
  -- The order of the writes is that of the log.
  Transaction.change fun s => s.putAction step.action
  Transaction.note subject.id .canceling now
    ("cancellation requested by action " ++ Text.decimal id)
  Transaction.change fun s => s.putAction cancel
  Transaction.note cancel.id .running now ("cancel action " ++ Text.decimal subject.id)
  pure cancel

/-- The deployment in flight of a set among the actions of a target. -/
def inFlight? (actions : List Action) (set : Nat) : Option Action :=
  actions.find? fun a => a.isInFlight && a.deployment?.any fun d => d.distributionSet == set

/-- The actions that a new deployment replaces. -/
def replaced (settings : TenantSettings) (actions : List Action) : List Action :=
  if settings.multiAssignments then [] else actions.filter (·.isInFlight)

/-- The action of a new deployment. -/
def newAction (id : Nat) (tenant controller : String) (d : Deployment)
    (rollout : Option Membership) (now : Instant) : Action where
  id := id
  tenant := tenant
  controller := controller
  order := .deploy d
  -- A deployment runs from the moment it is made.
  status := .running
  active := true
  rollout := rollout
  createdAt := now
  modifiedAt := now

/-- Assigns a distribution set to a target. -/
def assignIn (settings : TenantSettings) (tenant controller : String) (q : AssignmentRequest)
    (rollout : Option Membership) (now : Instant) : Transaction DeployError Assigned := do
  -- The request is checked before anything is looked up.
  let weight ← liftM (q.validate settings now)
  let target ← Transaction.orElse (← Transaction.read fun s => s.target? tenant controller)
    (.targetNotFound controller)
  let _ ← Transaction.orElse (← Transaction.read fun s => s.set? tenant q.distributionSet)
    (.setNotFound q.distributionSet)
  let actions ← Transaction.read fun s => s.actionsOf tenant controller
  match inFlight? actions q.distributionSet with
  -- Assigning the same set twice changes nothing.
  | some current => pure (.already current.id)
  | none =>
    -- What the new deployment replaces is asked to stop before it is stored.
    let cancels ← (replaced settings actions).mapM fun a => cancelIn a now
    let id ← Transaction.draw sequence
    let action := newAction id tenant controller (q.deployment weight) rollout now
    Transaction.change fun s => s.putAction action
    Transaction.note id .running now "assignment initiated"
    Transaction.change fun s => s.putTarget
      { target with assigned := some q.distributionSet, status := .pending, modifiedAt := now }
    pure (.new action (cancels.map (·.id)))

end DeviceUpdate.Deployments
