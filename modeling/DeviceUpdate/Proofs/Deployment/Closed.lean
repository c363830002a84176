import DeviceUpdate.Device.Gateway
import DeviceUpdate.Proofs.Deployment.Administration

/-! Closed actions: no step rewrites them, and nothing that is addressed to them is accepted. -/

namespace DeviceUpdate

/-- Whether a transaction fails in a state, and leaves it as it is. -/
def Transaction.Refused {ε α : Type} (t : Transaction ε α) (s : Store) : Prop :=
  ∃ e, t.run s = (.error e, s)

/-- A transaction that cannot succeed is refused. -/
theorem Transaction.refused {ε α : Type} {t : Transaction ε α} {s : Store}
    (fails : ∀ a s', t s ≠ .ok (a, s')) : t.Refused s := by
  cases done : t s with
  | ok r => exact absurd done (fails r.1 r.2)
  | error e => exact ⟨e, by simp [Transaction.run, StateT.run, done]⟩

namespace Deployments

/-- The record and the log of an action are the same in two states. -/
structure Untouched (id : Nat) (s s' : Store) : Prop where
  action : s'.actions.get? id = s.actions.get? id
  log : s'.logOf id = s.logOf id

section Untouched

variable {s s' s'' : Store} {id : Nat} {a cancel subject : Action} {now : Instant}

theorem Untouched.refl (id : Nat) (s : Store) : Untouched id s s :=
  ⟨rfl, rfl⟩

theorem Untouched.trans (first : Untouched id s s') (second : Untouched id s' s'') :
    Untouched id s s'' :=
  ⟨second.action.trans first.action, second.log.trans first.log⟩

/-- Recording an action with an entry of its log touches no other. -/
theorem Untouched.record {e : LogEntry} (untouched : Untouched id s s') (own : e.action = a.id)
    (other : id ≠ a.id) : Untouched id s (s'.record a e) := by
  constructor
  · rw [Store.get?_record, if_neg other]
    exact untouched.action
  -- The entry goes to the log of the recorded action.
  · rw [Store.logOf_record s' a e (own.symm ▸ other)]
    exact untouched.log

/-- Storing a target touches no action. -/
theorem Untouched.putTarget (untouched : Untouched id s s') (t : Target) :
    Untouched id s (s'.putTarget t) :=
  ⟨untouched.action, untouched.log⟩

/-- Drawing a number touches no action. -/
theorem Untouched.advance (untouched : Untouched id s s') (drawn : String) :
    Untouched id s (s'.advance drawn) :=
  ⟨untouched.action, untouched.log⟩

/-- A request for a cancellation touches only its subject and the new action. -/
theorem Untouched.requestCancel (new : id ≠ s.nextNumber sequence) (other : id ≠ subject.id) :
    Untouched id s (s.requestCancel subject now) :=
  .record (.record (.advance (.refl id s) sequence) rfl other) rfl new

/-- A closing report touches only the deployment that it is about. -/
theorem Untouched.close {set : Nat} {t : Target} {f : Feedback} (other : id ≠ a.id) :
    Untouched id s (s.close a set t f now) := by
  -- The moved record carries the number of the deployment.
  unfold Store.close
  refine .putTarget (.record (.refl id s) rfl ?_) _
  exact other

/-- The confirmation of a cancellation touches only the pair. -/
theorem Untouched.confirm {t : Target} {f : Feedback} (notCancel : id ≠ cancel.id)
    (notSubject : id ≠ subject.id) : Untouched id s (s.confirm cancel subject t f now) := by
  unfold Store.confirm
  refine .putTarget (.record (.record (.refl id s) rfl ?_) rfl ?_) _
  · exact notCancel
  · exact notSubject

end Untouched

section Steps

variable {settings : Settings} {s s' : Store} {a : Action}

/-- An action that is not active is none of those that are. -/
theorem id_ne_of_active {b : Action} (stored : s.actions.get? a.id = some a)
    (closed : a.active = false) (found : s.actions.get? b.id = some b) (active : b.active = true) :
    a.id ≠ b.id := by
  intro same
  have equal := stored_unique stored found same
  subst equal
  rw [closed] at active
  cases active

/-- No step touches an action that is not active. -/
theorem Step.untouched (step : Step settings s s') (indexed : Indexed s)
    (stored : s.actions.get? a.id = some a) (closed : a.active = false) :
    Untouched a.id s s' := by
  -- Every step writes active actions and new ones only.
  have new : a.id ≠ s.nextNumber sequence := Nat.ne_of_lt (indexed.drawn stored)
  have other {b : Action} (found : s.actions.get? b.id = some b) (active : b.active = true) :
      a.id ≠ b.id := id_ne_of_active stored closed found active
  cases step with
  | published => exact ⟨rfl, rfl⟩
  | registered => exact .putTarget (.refl a.id s) _
  | polled => exact .putTarget (.refl a.id s) _
  | described => exact .putTarget (.refl a.id s) _
  | requested subject now found inFlight =>
    exact .requestCancel new (other found (Action.isInFlight_iff.mp inFlight).1)
  | deployed tenant controller t d rollout now =>
    exact .putTarget (.record (.advance (.refl a.id s) sequence) rfl new) _
  | progressed b f now step found room going reported =>
    -- A report that is taken is one on an open action.
    have active : b.active = true := Action.active_of_open (Action.open_of_reported reported)
    -- Whatever the report does, the action keeps its number.
    have same := Action.report_id reported
    exact .record (.refl a.id s) same.symm (same ▸ other found active)
  | closed b d t f now found deploys room closing inFlight =>
    exact .close (other found (Action.isInFlight_iff.mp inFlight).1)
  | superseded cancel b d t f now pending =>
    have notCancel : a.id ≠ cancel.id := other pending.cancelStored pending.cancelActive
    exact .record (.close (other pending.subjectStored pending.subjectActive)) rfl notCancel
  | confirmed cancel subject t f now pending =>
    exact .confirm (other pending.cancelStored pending.cancelActive)
      (other pending.subjectStored pending.subjectActive)

/-- The refusal of a cancellation touches no action that is not active. -/
theorem Resumption.untouched {cancel subject : Action} (resumption : Resumption cancel subject s s')
    (stored : s.actions.get? a.id = some a) (closed : a.active = false) :
    Untouched a.id s s' := by
  -- The closed action is neither of the two, since both of them are active.
  cases resumption with | resumed now pending =>
  have notCancel : a.id ≠ cancel.id :=
    id_ne_of_active stored closed pending.cancelStored pending.cancelActive
  have notSubject : a.id ≠ subject.id :=
    id_ne_of_active stored closed pending.subjectStored pending.subjectActive
  exact .record (.record (.refl a.id s) rfl notCancel) rfl notSubject

end Steps

/-- No action ends between two states. -/
def Spares (s s' : Store) : Prop :=
  ∀ ⦃id : Nat⦄ ⦃a : Action⦄, s'.actions.get? id = some a → a.active = false →
    s.actions.get? id = some a

section Spares

variable {s s' s'' : Store} {a : Action} {now : Instant}

/-- What is found as it was has not ended. -/
theorem Spares.of_eq (same : s'.actions = s.actions) : Spares s s' := by
  intro id a found _
  rw [← same]
  exact found

theorem Spares.refl (s : Store) : Spares s s :=
  .of_eq rfl

theorem Spares.trans (first : Spares s s') (second : Spares s' s'') : Spares s s'' :=
  fun _ _ found closed => first (second found closed) closed

/-- A request for a cancellation ends no action. -/
theorem Spares.requestCancel (s : Store) (subject : Action) (now : Instant) :
    Spares s (s.requestCancel subject now) := by
  intro id a found closed
  rw [Store.get?_requestCancel] at found
  -- Both actions that are written are active.
  split at found
  · rw [← Option.some.inj found] at closed
    cases closed
  · split at found
    · rw [← Option.some.inj found] at closed
      cases closed
    · exact found

/-- A new deployment ends no action. -/
theorem Spares.deploy (s : Store) (t : Target) (tenant controller : String) (d : Deployment)
    (rollout : Option Membership) (now : Instant) :
    Spares s (s.deploy t tenant controller d rollout now) := by
  intro id a found closed
  rw [Store.get?_deploy] at found
  -- The new action is active, so a closed one was there before.
  split at found
  · rw [← Option.some.inj found] at closed
    cases closed
  · exact found

/-- A report that does not close ends no action. -/
theorem Spares.progressed {f : Feedback} {step : Transition} {e : LogEntry}
    (stored : s.actions.get? a.id = some a) (going : f.execution ≠ .closed)
    (reported : a.report f now = .ok step) : Spares s (s.record step.action e) := by
  intro id b found closed
  rw [Store.get?_record] at found
  split at found
  · rename_i here
    rw [← Option.some.inj found] at closed ⊢
    -- The action stays as it is, or it has moved and is active.
    rcases Action.report_going going reported with stays | ⟨-, status, -, moved⟩
    · rw [here, stays]
      exact stored
    · rw [moved] at closed
      cases closed
  · exact found

/-- Requests for cancellations end no action. -/
theorem Requests.spares {test : Action → Prop} (requests : Requests test now s s') :
    Spares s s' := by
  induction requests with
  | refl => exact .refl s
  | tail _ request ih =>
    obtain ⟨subject, -, -, -, same⟩ := request
    rw [same]
    exact ih.trans (.requestCancel _ subject now)

/-- An assignment ends no action. -/
theorem Assigns.spares {own : TenantSettings} {tenant controller : String}
    {q : AssignmentRequest} {rollout : Option Membership} {assigned : Assigned}
    (assigns : Assigns own tenant controller q rollout now s assigned s') (indexed : Indexed s) :
    Spares s s' := by
  -- An assignment makes requests and a new action, and neither touches a closed one.
  cases assigns with
  | already a current => exact .refl s
  | new t weight cancels between valid found known free replaces =>
    have requests : Spares s between := by
      rw [replaces]
      exact (indexed.replaced_requests own tenant controller now).spares
    exact requests.trans (.deploy between t tenant controller _ rollout now)

/-- Where an active action ends, something is not spared. -/
theorem Spares.not_of_ended {ended : Action} (spares : Spares s s')
    (stored : s.actions.get? a.id = some a) (active : a.active = true)
    (later : s'.actions.get? a.id = some ended) (closed : ended.active = false) : False := by
  have same : ended = a := Option.some.inj ((spares later closed).symm.trans stored)
  rw [same, active] at closed
  cases closed

end Spares

/-- Nothing that is addressed to an action is accepted, by whomever it is sent. -/
structure Refuses (s : Store) (id : Nat) : Prop where
  report : ∀ (settings : TenantSettings) (tenant controller : String) (f : Feedback)
    (cancel : Bool) (now : Instant),
    (Deployments.report settings tenant controller id f cancel now).Refused s
  deviceReport : ∀ (settings : TenantSettings) (tenant controller : String) (f : Feedback)
    (cancel : Bool) (now : Instant),
    (Device.report settings tenant controller id f cancel now).Refused s
  cancel : ∀ (tenant : String) (now : Instant), (Deployments.cancel tenant id now).Refused s
  rejectCancel : ∀ (tenant : String) (now : Instant),
    (Deployments.rejectCancel tenant id now).Refused s

section Refusals

variable {s s' : Store} {a : Action} {tenant controller : String} {now : Instant}

/-- What is found for a tenant is what is stored under the number. -/
theorem action?_unique {b : Action} (stored : s.actions.get? a.id = some a)
    (found : s.action? tenant a.id = some b) : b = a := by
  obtain ⟨here, -⟩ := Option.filter_eq_some_iff.mp found
  exact Option.some.inj (here.symm.trans stored)

/-- Where a report is taken, its action is open. -/
theorem open_of_report {settings : TenantSettings} {f : Feedback} {cancel : Bool} {r : Reported}
    (stored : s.actions.get? a.id = some a)
    (done : report settings tenant controller a.id f cancel now s = .ok (r, s')) :
    a.isClosed = false := by
  -- The number of messages is checked first, and the action next.
  unfold report at done
  split at done
  · simp at done
  · simp only [reportIn, Transaction.read_bind_apply, Transaction.orElse_bind_eq_ok,
      Transaction.lift_bind_eq_ok] at done
    -- The report is refused before anything is written unless the action is open.
    obtain ⟨b, found, _, isOpen, -⟩ := done
    obtain ⟨found, -⟩ := Option.filter_eq_some_iff.mp found
    have equal := action?_unique stored found
    subst equal
    exact Action.ensureOpen_eq_ok.mp isOpen

/-- A closed action refuses whatever is addressed to it. -/
theorem refuses_of_closed (stored : s.actions.get? a.id = some a) (closed : a.active = false) :
    Refuses s a.id := by
  have notOpen (isOpen : a.isClosed = false) : False := by
    have active := Action.active_of_open isOpen
    rw [closed] at active
    cases active
  constructor
  case report =>
    intro settings tenant controller f cancel now
    exact Transaction.refused fun r s' done => notOpen (open_of_report stored done)
  case deviceReport =>
    intro settings tenant controller f cancel now
    refine Transaction.refused fun r s' done => ?_
    simp only [Device.report, Transaction.read_bind_apply] at done
    -- The gateway asks for the target first, and then hands the report on.
    split at done
    · simp at done
    · exact notOpen (open_of_report stored (Transaction.mapError_eq_ok.mp done))
  case cancel =>
    intro tenant now
    refine Transaction.refused fun cancelled s' done => ?_
    simp only [cancel, Transaction.read_bind_apply, Transaction.orElse_bind_eq_ok] at done
    obtain ⟨subject, found, rest⟩ := done
    have equal := action?_unique stored found
    subst equal
    -- Only deployments in flight can be cancelled.
    have active := (Action.isInFlight_iff.mp (cancelIn_eq_ok rest).1).1
    rw [closed] at active
    cases active
  case rejectCancel =>
    intro tenant now
    refine Transaction.refused fun rejected s' done => ?_
    simp only [rejectCancel, Transaction.read_bind_apply, Transaction.orElse_bind_eq_ok,
      Transaction.lift_bind_eq_ok] at done
    -- Whatever it cancels, the refusal needs an open action.
    obtain ⟨cancel, found, _, -, subject, -, _, steps, -⟩ := done
    have equal := action?_unique stored found
    subst equal
    exact notOpen (Action.rejectCancel_eq_ok steps).1

end Refusals

end Deployments

end DeviceUpdate
