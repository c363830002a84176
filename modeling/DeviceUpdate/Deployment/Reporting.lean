import DeviceUpdate.Deployment.Assignment

/-! What a report of a device does to its action, to the target and to other actions. -/

namespace DeviceUpdate.Deployments

/-- What a report changed. -/
structure Reported where
  action : Action
  entry : LogEntry
  events : List Event
  deriving DecidableEq

/-- Whether a target has a deployment in flight other than the given one. -/
def othersInFlight (s : Store) (a : Action) (except : Nat) : Bool :=
  (s.actionsOf a.tenant a.controller).any fun o => o.isInFlight && o.id != except

/-- The target of an action. -/
def targetOf (a : Action) : Transaction DeployError Target := do
  Transaction.orElse (← Transaction.read fun s => s.target? a.tenant a.controller)
    (.targetNotFound a.controller)

/-- Notes on the target that a deployment has been installed. -/
def onFinished (a : Action) (id set : Nat) (now : Instant) : Transaction DeployError Unit := do
  let target ← targetOf a
  let others ← Transaction.read fun s => othersInFlight s a id
  Transaction.change fun s => s.putTarget { target with
    installed := some set
    installedAt := some now
    -- What has been assigned since then stays assigned.
    assigned := some (target.assigned.getD set)
    wantsAttributes := true
    status := if others then .pending else .inSync
    modifiedAt := now }

/-- Notes on the target that a deployment has failed. -/
def onFailed (a : Action) (now : Instant) : Transaction DeployError Unit := do
  let target ← targetOf a
  Transaction.change fun s => s.putTarget { target with status := .error, modifiedAt := now }

/-- Ends a pending cancellation of a deployment that has closed. -/
def supersede (id : Nat) (now : Instant) (pending : Action) :
    Transaction DeployError (List Event) := do
  let step := pending.supersedeCancel now
  Transaction.change fun s => s.putAction step.action
  Transaction.note pending.id .finished now
    ("action " ++ Text.decimal id ++ " closed before cancellation")
  pure step.events

/-- Ends all pending cancellations of a deployment that has closed. -/
def onSuperseded (a : Action) (id : Nat) (now : Instant) :
    Transaction DeployError (List Event) := do
  let pending ← Transaction.read fun s =>
    (s.actionsOf a.tenant a.controller).filter fun o => o.active && o.cancels? == some id
  List.flatten <$> pending.mapM (supersede id now)

/-- The target of a deployment after its cancellation is confirmed. -/
def targetAfterCancel (target : Target) (canceled : Option Nat) (others : Bool) (now : Instant) :
    Target :=
  { target with
    assigned := if target.assigned.isSome && target.assigned == canceled then target.installed
      else target.assigned
    -- Another deployment still decides the status of the target.
    status := if others then target.status
      else if target.installed.isSome then .inSync else .registered
    modifiedAt := now }

/-- Closes a deployment whose cancellation the device has confirmed, unless it is closed already. -/
def onConfirmed (a : Action) (id cancel : Nat) (now : Instant) :
    Transaction DeployError (List Event) := do
  match ← Transaction.read fun s => s.action? a.tenant id with
  | none => pure []
  | some subject =>
    -- The deployment may have ended on its own in the meantime.
    if subject.isClosed then pure []
    else
      let step := subject.confirmCancel now
      Transaction.change fun s => s.putAction step.action
      Transaction.note id .canceled now ("canceled by action " ++ Text.decimal cancel)
      let target ← targetOf a
      let others ← Transaction.read fun s => othersInFlight s subject id
      Transaction.change fun s => s.putTarget
        (targetAfterCancel target (subject.deployment?.map (·.distributionSet)) others now)
      pure step.events

/-- Does what an event of an action requires, and gives the events that follow from it. -/
def handle (a : Action) (now : Instant) : Event → Transaction DeployError (List Event)
  | .deploymentFinished id set => do onFinished a id set now; pure []
  | .deploymentFailed _ _ => do onFailed a now; pure []
  | .cancelSuperseded id => onSuperseded a id now
  | .cancelConfirmed id cancel => onConfirmed a id cancel now
  | .statusChanged .. | .cancelRequested .. | .cancelRejected .. => pure []

/-- Takes a report of a device on one of its actions of the given kind. -/
def reportIn (settings : TenantSettings) (tenant controller : String) (id : Nat) (f : Feedback)
    (cancel : Bool) (now : Instant) : Transaction DeployError Reported := do
  -- Actions of other targets cannot be told from unknown ones.
  let action ← Transaction.orElse
    ((← Transaction.read fun s => s.action? tenant id).filter fun a =>
      a.controller == controller && a.isCancel == cancel)
    (.actionNotFound id)
  liftM action.ensureOpen
  -- Entries of the server do not count against the device.
  let written ← Transaction.read fun s => s.countEntries id (some .device)
  if settings.maxEntries ≤ written then throw (.tooManyEntries id settings.maxEntries)
  let step ← liftM (action.report f now)
  Transaction.change fun s => s.putAction step.action
  let entry ← Transaction.append ⟨id, 0, step.logged, .device, now, f.code, f.logMessages⟩
  -- The action is stored by now, so what follows sees it as the report leaves it.
  let further ← step.events.mapM (handle step.action now)
  pure ⟨step.action, entry, step.events ++ further.flatten⟩

/-- Takes a report, unless it carries too many messages. -/
def report (settings : TenantSettings) (tenant controller : String) (id : Nat) (f : Feedback)
    (cancel : Bool) (now : Instant) : Transaction DeployError Reported := do
  if settings.maxMessages < f.messages.length then
    throw (.tooManyMessages f.messages.length settings.maxMessages)
  reportIn settings tenant controller id f cancel now

end DeviceUpdate.Deployments
