import DeviceUpdate.Action.Feedback
import DeviceUpdate.Action.Record
import DeviceUpdate.Deployment.Error

/-! How one step changes an action, what the log says about it, and what it means for others. -/

namespace DeviceUpdate

/-- Something that happened to an action and may concern other records. -/
inductive Event where
  | statusChanged (action : Nat) (before after : Status)
  | deploymentFinished (action set : Nat)
  | deploymentFailed (action set : Nat)
  /-- A deployment closed on its own while a cancellation was pending. -/
  | cancelSuperseded (action : Nat)
  | cancelRequested (action cancel : Nat)
  /-- The device confirmed the cancellation of the action. -/
  | cancelConfirmed (action cancel : Nat)
  | cancelRejected (action cancel : Nat)
  deriving DecidableEq, Repr

/-- The result of one step of an action. -/
structure Transition where
  action : Action
  /-- The status that the log has for the step. -/
  logged : Status
  events : List Event
  deriving DecidableEq

namespace Transition

/-- A step that leaves the action as it is. -/
def stay (a : Action) (logged : Status) : Transition :=
  ⟨a, logged, []⟩

/-- A step to a status. -/
def move (a : Action) (new : Status) (active : Bool) (now : Instant) : Transition where
  action := { a with status := new, active := active, modifiedAt := now }
  logged := new
  events := if a.status = new then [] else [.statusChanged a.id a.status new]

/-- The same step with further events. -/
def also (t : Transition) (events : List Event) : Transition :=
  { t with events := t.events ++ events }

end Transition

namespace Action

/-- Whether an action is closed, so that nothing can be addressed to it any more. -/
def isClosed (a : Action) : Bool :=
  a.status.isTerminal || !a.active

/-- Refuses a closed action. -/
def ensureOpen (a : Action) : Except DeployError Unit :=
  if a.isClosed then .error (.actionClosed a.id a.status) else .ok ()

/-- The status that a report other than the closing one stands for; none if it only informs. -/
def reported? : Execution → Option Status
  | .closed | .canceled => none
  | .scheduled => some .scheduled
  | .proceeding | .resumed => some .running
  | .download => some .download
  | .downloaded => some .downloaded
  | .retrieved => some .retrieved
  | .rejected => some .warning

/-- A closing report on a deployment. -/
def closeDeployment (a : Action) (set : Nat) (outcome : Outcome) (now : Instant) : Transition :=
  -- A report that names no outcome counts as success.
  let (status, event) := match outcome with
    | .failure => (Status.error, Event.deploymentFailed a.id set)
    | .success | .none => (Status.finished, Event.deploymentFinished a.id set)
  -- The pending cancellation has nothing left to cancel.
  let superseded := if a.status = .canceling then [Event.cancelSuperseded a.id] else []
  (Transition.move a status false now).also (event :: superseded)

/-- A report on a deployment. -/
def reportDeployment (a : Action) (set : Nat) (f : Feedback) (now : Instant) : Transition :=
  if f.execution = .closed then a.closeDeployment set f.outcome now
  else
    match reported? f.execution with
    | none => .stay a a.status
    | some status =>
      -- A pending cancellation is only resolved through the action that cancels.
      if a.status = .canceling then .stay a status else .move a status true now

/-- What the log says about a report, other than the closing one, on a cancellation. -/
def loggedCancel : Execution → Status
  | .rejected => .cancelRejected
  | .canceled | .closed => .canceled
  | .scheduled => .scheduled
  | .download => .download
  | .downloaded => .downloaded
  | .retrieved => .retrieved
  | .proceeding | .resumed => .running

/-- A report on the cancellation of an action. -/
def reportCancel (a : Action) (subject : Nat) (f : Feedback) (now : Instant) : Transition :=
  if f.execution = .closed then
    (Transition.move a .canceled false now).also [.cancelConfirmed subject a.id]
  else .stay a (loggedCancel f.execution)

/-- A report of the device on an open action. -/
def report (a : Action) (f : Feedback) (now : Instant) : Except DeployError Transition := do
  a.ensureOpen
  match a.order with
  | .deploy d => pure (a.reportDeployment d.distributionSet f now)
  | .cancel subject => pure (a.reportCancel subject f now)

/-- The action of a number that cancels another. -/
def cancelling (subject : Action) (id : Nat) (now : Instant) : Action where
  id := id
  tenant := subject.tenant
  controller := subject.controller
  order := .cancel subject.id
  status := .running
  active := true
  rollout := subject.rollout
  createdAt := now
  modifiedAt := now

/-- Starts the cancellation of an open deployment, by a new action of the given number. -/
def requestCancel (subject : Action) (id : Nat) (now : Instant) :
    Except DeployError (Transition × Action) := do
  subject.ensureOpen
  if subject.isCancel || subject.status == .canceling then
    throw (.notCancelable subject.id)
  pure ((Transition.move subject .canceling true now).also [.cancelRequested subject.id id],
    subject.cancelling id now)

/-- Closes a deployment whose cancellation is confirmed. -/
def confirmCancel (subject : Action) (now : Instant) : Transition :=
  .move subject .canceled false now

/-- Refuses a cancellation: the steps of the cancelling action and of its subject, which resumes. -/
def rejectCancel (cancel subject : Action) (now : Instant) :
    Except DeployError (Transition × Transition) := do
  cancel.ensureOpen
  let rejected := (Transition.move cancel .cancelRejected false now).also
    [.cancelRejected subject.id cancel.id]
  -- Only a subject that is still being cancelled goes on running.
  let resumed := if subject.active && subject.status == .canceling then
      Transition.move subject .running true now
    else .stay subject subject.status
  pure (rejected, resumed)

/-- Ends a cancellation whose subject closed before the device confirmed it. -/
def supersedeCancel (cancel : Action) (now : Instant) : Transition :=
  .move cancel .finished false now

end Action

end DeviceUpdate
