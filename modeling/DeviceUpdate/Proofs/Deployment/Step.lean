import DeviceUpdate.Deployment.Request
import DeviceUpdate.Device.Directive
import DeviceUpdate.Device.Gateway
import DeviceUpdate.Proofs.Action.Transition
import DeviceUpdate.Proofs.Result
import DeviceUpdate.Proofs.Store.Effect

/-! Accepted requests, and the steps in which targets and actions change, with all they write. -/

namespace DeviceUpdate

open Maintenance (Window)

/-- A deployment whose window can be read, if it has one. -/
def Deployment.Legible (d : Deployment) : Prop :=
  ∀ m, d.maintenance = some m → ∃ w, Window.read m.schedule m.duration m.timeZone = .ok w

/-- A deployment whose window can be read is limited to that window. -/
theorem Deployment.policy_of_read {d : Deployment} {m : MaintenanceTexts} {w : Window}
    (limited : d.maintenance = some m)
    (read : Window.read m.schedule m.duration m.timeZone = .ok w) : d.policy = .ok (.within w) := by
  simp only [Deployment.policy, limited, read]

/-- When a deployment may be installed can be told where its window can be read. -/
theorem Deployment.Legible.policy {d : Deployment} (legible : d.Legible) :
    ∃ p, d.policy = .ok p := by
  cases limited : d.maintenance with
  | none => exact ⟨.always, by rw [Deployment.policy, limited]⟩
  | some m =>
    obtain ⟨w, read⟩ := legible m limited
    exact ⟨.within w, Deployment.policy_of_read limited read⟩

/-- An action that has a deployment deploys it. -/
theorem Action.order_of_deployment {a : Action} {d : Deployment} (has : a.deployment? = some d) :
    a.order = .deploy d := by
  unfold deployment? at has
  split at has
  · rename_i own order
    rw [order, Option.some.inj has]
  · cases has

/-- What is accepted as a new window is read in the same way at any time. -/
theorem Maintenance.Window.read_of_readNew {schedule duration timeZone : String} {now : Instant}
    {w : Window} (accepted : readNew schedule duration timeZone now = .ok w) :
    Window.read schedule duration timeZone = .ok w := by
  -- What has lapsed or does not read is refused.
  unfold readNew at accepted
  split at accepted
  · cases accepted
  · cases accepted
  · rename_i v read
    split at accepted
    · cases accepted
    · cases accepted
    · rw [read, ← Except.ok.inj accepted]

section Requests

variable {q : AssignmentRequest} {own : TenantSettings} {now : Instant} {weight : Option Nat}

/-- A request is accepted only if its window is, where it has one. -/
theorem AssignmentRequest.readNew_of_valid (valid : q.validate own now = .ok weight)
    {m : MaintenanceTexts} (limited : q.maintenance = some m) :
    ∃ w, Window.readNew m.schedule m.duration m.timeZone now = .ok w := by
  unfold validate at valid
  simp only [limited] at valid
  -- A window that is refused refuses the request.
  cases accepted : Window.readNew m.schedule m.duration m.timeZone now with
  | ok w => exact ⟨w, rfl⟩
  | error e =>
    rw [accepted] at valid
    split at valid
    · cases valid
    · cases valid

/-- The deployment that an accepted request asks for can be read. -/
theorem AssignmentRequest.legible (valid : q.validate own now = .ok weight) :
    (q.deployment weight).Legible := by
  intro m limited
  obtain ⟨w, accepted⟩ := readNew_of_valid valid limited
  exact ⟨w, Window.read_of_readNew accepted⟩

end Requests

/-- A target on which a deployment has failed. -/
def Target.failed (t : Target) (now : Instant) : Target :=
  { t with status := .error, modifiedAt := now }

/-- A target on which a distribution set has been installed. -/
def Target.withInstalled (t : Target) (set : Nat) (others : Bool) (now : Instant) : Target :=
  { t with
    installed := some set
    installedAt := some now
    assigned := some (t.assigned.getD set)
    wantsAttributes := true
    status := if others then .pending else .inSync
    modifiedAt := now }

/-- A target on which a deployment of a set has ended. -/
def Target.closed (t : Target) (outcome : Outcome) (set : Nat) (others : Bool) (now : Instant) :
    Target :=
  match outcome with
  | .failure => t.failed now
  | .success | .none => t.withInstalled set others now

/-- A target to which a distribution set has been assigned. -/
def Target.withAssigned (t : Target) (set : Nat) (now : Instant) : Target :=
  { t with assigned := some set, status := .pending, modifiedAt := now }

/-- A target whose device has sent attributes. -/
def Target.described (t : Target) (r : Deployments.AttributeReport) (now : Instant) : Target :=
  { t with
    attributes := r.mode.apply t.attributes r.data
    wantsAttributes := false
    modifiedAt := now }

namespace Store

open Deployments

/-- The store after the cancellation of a deployment is requested, by a new action. -/
def requestCancel (s : Store) (subject : Action) (now : Instant) : Store :=
  let id := s.nextNumber sequence
  let pending := subject.moved .canceling true now
  let cancel := subject.cancelling id now
  -- The subject is written before the cancellation, as the transaction does it.
  ((s.advance sequence).record pending
      (pending.remark now ("cancellation requested by action " ++ Text.decimal id))).record cancel
    (cancel.remark now ("cancel action " ++ Text.decimal subject.id))

/-- The store after the cancellations of several deployments are requested, one by one. -/
def requestCancels (s : Store) (subjects : List Action) (now : Instant) : Store :=
  subjects.foldl (fun s a => s.requestCancel a now) s

/-- The store after a new deployment to a target is stored. -/
def deploy (s : Store) (t : Target) (tenant controller : String) (d : Deployment)
    (rollout : Option Membership) (now : Instant) : Store :=
  let action := newAction (s.nextNumber sequence) tenant controller d rollout now
  ((s.advance sequence).record action (action.remark now "assignment initiated")).putTarget
    (t.withAssigned d.distributionSet now)

/-- The store after a closing report on a deployment of a set to a target. -/
def close (s : Store) (a : Action) (set : Nat) (t : Target) (f : Feedback) (now : Instant) :
    Store :=
  let closed := a.moved f.outcome.status false now
  -- Whether others are in flight is looked up after the deployment has ended.
  let s := s.record closed (f.entry a.id f.outcome.status now)
  s.putTarget (t.closed f.outcome set (othersInFlight s closed a.id) now)

/-- The store after a cancellation ends because its subject has closed. -/
def supersede (s : Store) (cancel : Action) (subject : Nat) (now : Instant) : Store :=
  let ended := cancel.moved .finished false now
  s.record ended
    (ended.remark now ("action " ++ Text.decimal subject ++ " closed before cancellation"))

/-- The store after a device reports that it has given a deployment up. -/
def confirm (s : Store) (cancel subject : Action) (t : Target) (f : Feedback) (now : Instant) :
    Store :=
  let canceled := subject.moved .canceled false now
  let s := (s.record (cancel.moved .canceled false now)
      -- Here the log of the cancellation comes first, since the report is for it.
      (f.entry cancel.id .canceled now)).record canceled
    (canceled.remark now ("canceled by action " ++ Text.decimal cancel.id))
  s.putTarget (targetAfterCancel t (subject.deployment?.map (·.distributionSet))
    -- The cancellation has no part in the lookup, which is of deployments alone.
    (othersInFlight s subject subject.id) now)

/-- The store after a cancellation is refused and its subject runs again. -/
def resume (s : Store) (cancel subject : Action) (now : Instant) : Store :=
  let rejected := cancel.moved .cancelRejected false now
  let resumed := subject.moved .running true now
  (s.record rejected (rejected.remark now "cancellation rejected by administrator")).record resumed
    (resumed.remark now ("cancel action " ++ Text.decimal cancel.id ++ " rejected"))

section Lookup

variable (s : Store) (a cancel : Action) (set : Nat) (t : Target) (f : Feedback) (now : Instant)

@[simp] theorem putTarget_actions : (s.putTarget t).actions = s.actions := rfl

theorem get?_requestCancel (id : Nat) :
    (s.requestCancel a now).actions.get? id =
      if id = s.nextNumber sequence then some (a.cancelling (s.nextNumber sequence) now)
      else if id = a.id then some (a.moved .canceling true now) else s.actions.get? id := by
  simp only [requestCancel, get?_record, advance_actions]
  rfl

theorem get?_deploy (tenant controller : String) (d : Deployment) (rollout : Option Membership)
    (id : Nat) :
    (s.deploy t tenant controller d rollout now).actions.get? id =
      if id = s.nextNumber sequence then
        some (newAction (s.nextNumber sequence) tenant controller d rollout now)
      else s.actions.get? id := by
  simp only [deploy, putTarget_actions, get?_record, advance_actions]
  rfl

theorem get?_close (id : Nat) :
    (s.close a set t f now).actions.get? id =
      if id = a.id then some (a.moved f.outcome.status false now) else s.actions.get? id := by
  simp only [close, putTarget_actions, get?_record]
  rfl

theorem get?_supersede (subject id : Nat) :
    (s.supersede cancel subject now).actions.get? id =
      if id = cancel.id then some (cancel.moved .finished false now) else s.actions.get? id := by
  simp only [supersede, get?_record]
  rfl

/-- A deployment and the cancellation that it waits for end together. -/
theorem get?_closeSuperseded (id : Nat) :
    ((s.close a set t f now).supersede cancel a.id now).actions.get? id =
      if id = cancel.id then some (cancel.moved .finished false now)
      else if id = a.id then some (a.moved f.outcome.status false now)
      else s.actions.get? id := by
  rw [get?_supersede, get?_close]

theorem get?_confirm (id : Nat) :
    (s.confirm cancel a t f now).actions.get? id =
      if id = a.id then some (a.moved .canceled false now)
      else if id = cancel.id then some (cancel.moved .canceled false now)
      else s.actions.get? id := by
  simp only [confirm, putTarget_actions, get?_record]
  rfl

theorem get?_resume (id : Nat) :
    (s.resume cancel a now).actions.get? id =
      if id = a.id then some (a.moved .running true now)
      else if id = cancel.id then some (cancel.moved .cancelRejected false now)
      else s.actions.get? id := by
  simp only [resume, get?_record]
  rfl

end Lookup

end Store

namespace Deployments

/-- A stored deployment that waits for its stored cancellation. -/
structure Pending (s : Store) (cancel subject : Action) : Prop where
  cancelStored : s.actions.get? cancel.id = some cancel
  subjectStored : s.actions.get? subject.id = some subject
  cancelActive : cancel.active = true
  names : cancel.order = .cancel subject.id
  subjectActive : subject.active = true
  deploys : subject.isCancel = false
  canceling : subject.status = .canceling

/-- One step of the targets and actions, other than the refusal of a cancellation. -/
inductive Step (settings : Settings) : Store → Store → Prop
  -- Sets and targets are written by the requests of users and devices.
  | published (s : Store) (d : DistributionSet) (new : d.id = s.nextNumber "distribution_set") :
    Step settings s ((s.advance "distribution_set").putSet d)
  | registered (s : Store) (tenant controller : String) (attributes : Table String String)
      (now : Instant) (absent : s.target? tenant controller = none) :
    Step settings s
      (s.putTarget { Target.new tenant controller "system" now with attributes := attributes })
  | polled (s : Store) (tenant controller : String) (address : Option String) (now : Instant) :
    Step settings s (s.putTarget
      (Device.polled (s.target? tenant controller) tenant controller address now))
  | described (s : Store) (tenant controller : String) (t : Target) (r : AttributeReport)
      (now : Instant) (found : s.target? tenant controller = some t) :
    Step settings s (s.putTarget (t.described r now))
  -- An order to stop a deployment in flight, which is an action of its own.
  | requested (s : Store) (subject : Action) (now : Instant)
      (stored : s.actions.get? subject.id = some subject) (inFlight : subject.isInFlight = true) :
    Step settings s (s.requestCancel subject now)
  | deployed (s : Store) (tenant controller : String) (t : Target) (d : Deployment)
      (rollout : Option Membership) (now : Instant) (found : s.target? tenant controller = some t)
      (known : (s.set? tenant d.distributionSet).isSome = true)
      -- Where a target may have one deployment only, none is left in flight.
      (alone : (settings.tenant tenant).multiAssignments = false →
        ∀ a ∈ s.actionsOf tenant controller, a.isInFlight = false)
      (legible : d.Legible) :
    Step settings s (s.deploy t tenant controller d rollout now)
  -- Any report but the closing one.
  | progressed (s : Store) (a : Action) (f : Feedback) (now : Instant) (step : Transition)
      (stored : s.actions.get? a.id = some a)
      (room : s.countEntries a.id (some .device) < (settings.tenant a.tenant).maxEntries)
      (going : f.execution ≠ .closed) (reported : a.report f now = .ok step) :
    Step settings s (s.record step.action (f.entry a.id step.logged now))
  -- The closing report on a deployment that nothing cancels.
  | closed (s : Store) (a : Action) (d : Deployment) (t : Target) (f : Feedback) (now : Instant)
      (stored : s.actions.get? a.id = some a) (deploys : a.order = .deploy d)
      (room : s.countEntries a.id (some .device) < (settings.tenant a.tenant).maxEntries)
      (closing : f.execution = .closed) (inFlight : a.isInFlight = true)
      (found : s.target? a.tenant a.controller = some t) :
    Step settings s (s.close a d.distributionSet t f now)
  -- The closing report on a deployment that is being cancelled, which ends its cancellation too.
  | superseded (s : Store) (cancel a : Action) (d : Deployment) (t : Target) (f : Feedback)
      (now : Instant) (pending : Pending s cancel a) (deploys : a.order = .deploy d)
      (room : s.countEntries a.id (some .device) < (settings.tenant a.tenant).maxEntries)
      (closing : f.execution = .closed) (found : s.target? a.tenant a.controller = some t) :
    Step settings s ((s.close a d.distributionSet t f now).supersede cancel a.id now)
  -- The closing report on a cancellation, which ends its subject too.
  | confirmed (s : Store) (cancel subject : Action) (t : Target) (f : Feedback) (now : Instant)
      (pending : Pending s cancel subject)
      (room : s.countEntries cancel.id (some .device) < (settings.tenant cancel.tenant).maxEntries)
      (closing : f.execution = .closed)
      (found : s.target? cancel.tenant cancel.controller = some t) :
    Step settings s (s.confirm cancel subject t f now)

/-- The refusal of a cancellation. -/
inductive Resumption (cancel subject : Action) : Store → Store → Prop
  | resumed (s : Store) (now : Instant) (pending : Pending s cancel subject) :
    Resumption cancel subject s (s.resume cancel subject now)

/-- Only pending cancellations are refused. -/
theorem Resumption.pending {cancel subject : Action} {s s' : Store}
    (resumption : Resumption cancel subject s s') : Pending s cancel subject := by
  cases resumption with | resumed now pending =>
  exact pending

/-- What no step of the targets and actions changes. -/
structure Frame (s s' : Store) : Prop where
  rollouts : s'.rollouts = s.rollouts
  groups : s'.groups = s.groups
  groupPositions : s'.groupPositions = s.groupPositions
  members : s'.members = s.members
  next : ∀ drawn, drawn ≠ sequence → drawn ≠ "distribution_set" →
    s'.nextNumber drawn = s.nextNumber drawn

/-- Storing what changes neither rollouts nor sequences leaves both as they are. -/
theorem Frame.of_eq {s s' : Store} (rollouts : s'.rollouts = s.rollouts)
    (groups : s'.groups = s.groups) (groupPositions : s'.groupPositions = s.groupPositions)
    (members : s'.members = s.members) (sequences : s'.sequences = s.sequences) : Frame s s' :=
  ⟨rollouts, groups, groupPositions, members, fun drawn _ _ => Store.nextNumber_congr sequences drawn⟩

theorem Frame.refl (s : Store) : Frame s s :=
  .of_eq rfl rfl rfl rfl rfl

theorem Frame.trans {s s' s'' : Store} (first : Frame s s') (second : Frame s' s'') :
    Frame s s'' where
  rollouts := second.rollouts.trans first.rollouts
  groups := second.groups.trans first.groups
  groupPositions := second.groupPositions.trans first.groupPositions
  members := second.members.trans first.members
  next drawn other another :=
    (second.next drawn other another).trans (first.next drawn other another)

/-- Every step leaves the rollouts and their sequences as they are. -/
theorem Step.frame {settings : Settings} {s s' : Store} (step : Step settings s s') :
    Frame s s' := by
  -- Each kind of step writes actions, logs and targets, or draws a number of its own sequence.
  cases step with
  | published d =>
    refine ⟨rfl, rfl, rfl, rfl, fun drawn _ other => ?_⟩
    exact (Store.nextNumber_advance s "distribution_set" drawn).trans (by simp [other])
  | requested subject now =>
    refine ⟨rfl, rfl, rfl, rfl, fun drawn other _ => ?_⟩
    exact (Store.nextNumber_advance s sequence drawn).trans (by simp [other])
  | deployed tenant controller t d rollout now =>
    refine ⟨rfl, rfl, rfl, rfl, fun drawn other _ => ?_⟩
    exact (Store.nextNumber_advance s sequence drawn).trans (by simp [other])
  | registered => exact .of_eq rfl rfl rfl rfl rfl
  | polled => exact .of_eq rfl rfl rfl rfl rfl
  | described => exact .of_eq rfl rfl rfl rfl rfl
  | progressed => exact .of_eq rfl rfl rfl rfl rfl
  | closed => exact .of_eq rfl rfl rfl rfl rfl
  | superseded => exact .of_eq rfl rfl rfl rfl rfl
  | confirmed => exact .of_eq rfl rfl rfl rfl rfl

/-- The refusal of a cancellation leaves the rollouts and their sequences as they are. -/
theorem Resumption.frame {cancel subject : Action} {s s' : Store}
    (resumption : Resumption cancel subject s s') : Frame s s' := by
  cases resumption with | resumed now pending =>
  exact .of_eq rfl rfl rfl rfl rfl

end Deployments

end DeviceUpdate
