import DeviceUpdate.Proofs.Deployment.Closed
import DeviceUpdate.Proofs.Deployment.Reporting
import DeviceUpdate.Proofs.Service.Finality

/-! Reports on cancellations: how the ends of a deployment and of its cancellation meet in a run. -/

namespace DeviceUpdate

namespace Deployments

/-- A deployment and its cancellation are given up together, and no other action is touched. -/
structure GivenUp (s s' : Store) (cancel subject : Action) (now : Instant) : Prop where
  pending : Pending s cancel subject
  cancelEnded : s'.actions.get? cancel.id = some (cancel.moved .canceled false now)
  subjectEnded : s'.actions.get? subject.id = some (subject.moved .canceled false now)
  others : ∀ id, id ≠ cancel.id → id ≠ subject.id → Untouched id s s'

/-- The log of an action has one more entry of its device, and no record has changed. -/
structure Informed (s s' : Store) (id : Nat) : Prop where
  targets : s'.targets = s.targets
  sets : s'.sets = s.sets
  actions : s'.actions = s.actions
  rollouts : s'.rollouts = s.rollouts
  groups : s'.groups = s.groups
  groupPositions : s'.groupPositions = s.groupPositions
  members : s'.members = s.members
  sequences : s'.sequences = s.sequences
  own : ∃ e : LogEntry, e.action = id ∧ e.source = .device ∧ s'.logOf id = s.logOf id ++ [e]
  others : ∀ other, other ≠ id → s'.logOf other = s.logOf other

/-- Every report on an action comes too late, unless it is refused for what it carries. -/
def TooLate (s : Store) (a : Action) : Prop :=
  ∀ (own : TenantSettings) (f : Feedback) (now : Instant), ∃ e : DeployError,
    report own a.tenant a.controller a.id f a.isCancel now s = .error e ∧
      e.failure = if own.maxMessages < f.messages.length then .quotaExceeded else .gone

variable {s s' : Store} {a cancel subject : Action} {f : Feedback} {now : Instant}

/-- A report that is taken is one on a stored action of its kind. -/
theorem report_found {own : TenantSettings} {tenant controller : String} {id : Nat} {kind : Bool}
    {reported : Reported}
    (done : report own tenant controller id f kind now s = .ok (reported, s')) :
    ∃ a, s.action? tenant id = some a ∧ a.isCancel = kind := by
  unfold report at done
  -- The number of messages is checked first, and then the action is looked up.
  split at done
  · cases done
  · obtain ⟨a, -, -, found, -, same, -⟩ := reportIn_eq_ok done
    exact ⟨a, found, same⟩

/-- Storing an action as it is stored changes no action. -/
theorem putAction_actions (stored : s.actions.get? a.id = some a) :
    (s.putAction a).actions = s.actions := by
  refine Table.ext_get? fun id => ?_
  rw [Store.get?_putAction]
  split
  · rename_i here
    rw [here, stored]
  · rfl

/-- Whether a report is about a deployment or about a cancellation, one that closes ends it. -/
theorem Reporting.ended (reporting : Reporting a f now s s') (closing : f.execution = .closed) :
    ∃ status, s'.actions.get? a.id = some (a.moved status false now) := by
  -- A closing report ends the action in one of three ways.
  cases reporting with
  | progressed step going reported => exact absurd closing going
  | closed d t deploys _ inFlight found => exact ⟨_, by rw [Store.get?_close, if_pos rfl]⟩
  | superseded cancel d t pending deploys _ found =>
    exact ⟨_, by rw [Store.get?_closeSuperseded, if_neg (Ne.symm pending.id_ne), if_pos rfl]⟩
  | confirmed subject t pending _ found =>
    exact ⟨_, by rw [Store.get?_confirm, if_neg pending.id_ne, if_pos rfl]⟩

/-- A closing report on a cancellation gives the deployment up that it names. -/
theorem Reporting.givenUp (reporting : Reporting a f now s s') (kind : a.isCancel = true)
    (closing : f.execution = .closed) : ∃ subject, GivenUp s s' a subject now := by
  cases reporting with
  | progressed step going reported => exact absurd closing going
  -- Only a cancellation can be confirmed.
  | closed d t deploys _ inFlight found =>
    rw [Action.isCancel_of_order deploys] at kind
    cases kind
  | superseded cancel d t pending deploys _ found =>
    rw [Action.isCancel_of_order deploys] at kind
    cases kind
  | confirmed subject t pending _ found =>
    refine ⟨subject, pending, ?_, ?_, fun id notCancel notSubject => ?_⟩
    · rw [Store.get?_confirm, if_neg pending.id_ne, if_pos rfl]
    · rw [Store.get?_confirm, if_pos rfl]
    · exact .confirm notCancel notSubject

/-- Any other report on a cancellation adds one entry to its log, and changes no record. -/
theorem Reporting.informed (reporting : Reporting a f now s s')
    (stored : s.actions.get? a.id = some a) (kind : a.isCancel = true)
    (going : f.execution ≠ .closed) : Informed s s' a.id := by
  cases reporting with
  | progressed step _ reported =>
    -- Only a deployment in flight is moved by such a report.
    have stays : step.action = a := by
      rcases Action.report_going going reported with stays | ⟨inFlight, -⟩
      · exact stays
      · rw [(Action.isInFlight_iff.mp inFlight).2.1] at kind
        cases kind
    rw [stays]
    refine ⟨rfl, rfl, putAction_actions stored, rfl, rfl, rfl, rfl, rfl, ?_, fun other differs => ?_⟩
    · exact ⟨_, rfl, rfl, Store.logOf_record_own s a (f.entry a.id step.logged now)⟩
    · exact Store.logOf_record s a _ differs
  | closed d t deploys closing => exact absurd closing going
  | superseded cancel d t pending deploys closing => exact absurd closing going
  | confirmed subject t pending closing => exact absurd closing going

/-- The end of a deployment ends the cancellation that it waits for. -/
theorem Reporting.retired (reporting : Reporting a f now s s') (paired : Paired s)
    (stored : s.actions.get? a.id = some a) (kind : a.isCancel = false)
    (closing : f.execution = .closed) (cancels : Cancels s cancel a.id) :
    s'.actions.get? cancel.id = some (cancel.moved .finished false now) := by
  cases reporting with
  | progressed step going reported => exact absurd closing going
  | closed d t deploys _ inFlight found =>
    -- Nothing cancels a deployment in flight.
    exact absurd cancels (paired.not_cancels stored (Action.isInFlight_iff.mp inFlight).2.2)
  | superseded other d t pending deploys _ found =>
    have same : cancel = other :=
      stored_unique cancels.stored pending.cancelStored (paired.unique cancels pending.cancels)
    rw [same, Store.get?_closeSuperseded, if_pos rfl]
  | confirmed subject t pending _ found =>
    rw [Action.isCancel_of_names pending.names] at kind
    cases kind

/-- What cancels a deployment that has ended has ended itself. -/
theorem Paired.cancel_ended (paired : Paired s) (stored : s.actions.get? cancel.id = some cancel)
    (names : cancel.order = .cancel subject.id)
    (storedSubject : s.actions.get? subject.id = some subject) (ended : subject.active = false) :
    cancel.active = false := by
  cases active : cancel.active with
  | false => rfl
  | true =>
    -- An active cancellation has an active deployment to cancel.
    obtain ⟨b, same, pending, -⟩ := paired.subject ⟨stored, active, names⟩
    rw [← stored_unique pending.subjectStored storedSubject same, pending.subjectActive] at ended
    cases ended

/-- A report on an action that is not active comes too late. -/
theorem tooLate_of_ended (stored : s.actions.get? a.id = some a) (ended : a.active = false) :
    TooLate s a := by
  intro own f now
  have closed : a.ensureOpen = .error (.actionClosed a.id a.status) := by
    -- The action is found by its tenant and is of its own kind.
    simp [Action.ensureOpen, Action.isClosed, ended]
  have found : (s.action? a.tenant a.id).filter
      (fun b => b.controller == a.controller && b.isCancel == a.isCancel) = some a := by
    rw [action?_of_stored stored]
    simp
  -- The number of messages is checked first, and the action next.
  unfold report
  split
  · exact ⟨_, rfl, rfl⟩
  · refine ⟨.actionClosed a.id a.status, ?_, rfl⟩
    simp only [reportIn, Transaction.read_bind_apply, found, Transaction.orElse,
      Transaction.pure_bind_apply]
    exact Transaction.lift_bind_eq_error.mpr (Or.inl closed)

end Deployments

end DeviceUpdate

namespace DeviceUpdate.Service

open Deployments (Cancels GivenUp Informed Reported TooLate)

/-- What a report on an action does when it is accepted, and what becomes of its pair later. -/
structure Resolves (a : Action) (f : Feedback) (now : Instant) (s s' later : Store) : Prop where
  /-- What the device has given up is closed together with the cancellation. -/
  confirms : a.isCancel = true → f.execution = .closed → ∃ subject, GivenUp s s' a subject now
  /-- Any other report on a cancellation adds to its log, and to nothing else. -/
  informs : a.isCancel = true → f.execution ≠ .closed → Informed s s' a.id
  /-- The end of a deployment ends the cancellation that it waits for. -/
  retires : a.isCancel = false → f.execution = .closed → ∀ cancel, Cancels s cancel a.id →
    s'.actions.get? cancel.id = some (cancel.moved .finished false now)
  /-- After either of a pair is closed, both of them refuse every report. -/
  once : f.execution = .closed → ∀ {cancel subject : Action},
    later.actions.get? cancel.id = some cancel → later.actions.get? subject.id = some subject →
    cancel.order = .cancel subject.id → a.id = cancel.id ∨ a.id = subject.id →
    TooLate later cancel ∧ TooLate later subject

section Runs

variable (settings : Settings)

/-- A report that is accepted leads to the state that its call leaves behind. -/
theorem history_reported {calls : List Call} {tenant controller : String} {id : Nat} {f : Feedback}
    {kind : Bool} {now : Instant} {reported : Reported} {s' : Store}
    (done : Deployments.report (settings.tenant tenant) tenant controller id f kind now
      (history settings calls).present = .ok (reported, s')) :
    (history settings (calls ++ [⟨now, .report tenant controller id f kind⟩])).present = s' := by
  rw [history_concat]
  simp only [History.next, Call.apply, Transaction.run_of_ok done]

/-- After a closing report on one of a pair, both are closed, however the run goes on. -/
theorem history_pair_closed {calls more : List Call} {c : Call} {a cancel subject : Action}
    {f : Feedback} {now : Instant} {s : Store}
    (reporting : Deployments.Reporting a f now s (history settings (calls ++ [c])).present)
    (closing : f.execution = .closed)
    (storedCancel : (history settings (calls ++ [c] ++ more)).present.actions.get? cancel.id =
      some cancel)
    (storedSubject : (history settings (calls ++ [c] ++ more)).present.actions.get? subject.id =
      some subject)
    (names : cancel.order = .cancel subject.id) (own : a.id = cancel.id ∨ a.id = subject.id) :
    cancel.active = false ∧ subject.active = false := by
  have paired := (coherent_history settings (calls ++ [c] ++ more)).paired
  -- What the report ends is found as it leaves it, however long after.
  have kept (b : Action) (ended : (history settings (calls ++ [c])).present.actions.get? b.id =
      some b) (inactive : b.active = false) :
      (history settings (calls ++ [c] ++ more)).present.actions.get? b.id = some b :=
    (history_untouched settings (calls ++ [c]) more ended inactive).action.trans ended
  suffices gone : subject.active = false from
    ⟨paired.cancel_ended storedCancel names storedSubject gone, gone⟩
  obtain ⟨status, ended⟩ := reporting.ended closing
  have still : (history settings (calls ++ [c] ++ more)).present.actions.get? a.id =
      some (a.moved status false now) :=
    kept (a.moved status false now) ended rfl
  rcases own with same | same
  · -- A cancellation was closed, and what it names has been given up with it.
    rw [same, storedCancel] at still
    have was := Option.some.inj still
    have kind : a.isCancel = true := by
      rw [← Action.moved_isCancel a status false now, ← was]
      exact Action.isCancel_of_names names
    obtain ⟨b, givenUp⟩ := reporting.givenUp kind closing
    have named : subject.id = b.id := by
      rw [was, Action.moved_order, givenUp.pending.names] at names
      exact (Order.cancel.inj names).symm
    have later := kept (b.moved .canceled false now) givenUp.subjectEnded rfl
    rw [Action.moved_id, ← named, storedSubject] at later
    rw [Option.some.inj later, Action.moved_active]
  · -- The deployment itself was closed.
    rw [same, storedSubject] at still
    rw [Option.some.inj still, Action.moved_active]

/-- Reports on cancellations give up both of a pair or inform, and no pair is closed twice. -/
theorem cancellations_settle (calls more : List Call) {tenant controller : String} {id : Nat}
    {f : Feedback} {kind : Bool} {now : Instant} {reported : Reported} {s' : Store}
    (accepted : (Deployments.report (settings.tenant tenant) tenant controller id f kind now).run
      (history settings calls).present = (.ok reported, s')) :
    ∃ a, (history settings calls).present.actions.get? id = some a ∧ a.isCancel = kind ∧
      Resolves a f now (history settings calls).present s'
        (history settings
          (calls ++ [⟨now, .report tenant controller id f kind⟩] ++ more)).present := by
  have coherent := coherent_history settings calls
  have done := Transaction.eq_ok_of_run accepted
  obtain ⟨a, found, -, -, -, reporting⟩ :=
    Deployments.report_reporting coherent.indexed coherent.paired done
  -- The report names the action that it was accepted for.
  obtain ⟨b, alike, same⟩ := Deployments.report_found done
  have equal : b = a := Option.some.inj (alike.symm.trans found)
  subst equal
  obtain ⟨stored, number, -⟩ := coherent.indexed.action?_eq_some found
  refine ⟨b, number ▸ stored, same, ?_⟩
  -- Each part is shown for the step that the report takes.
  constructor
  case confirms => exact fun kind closing => reporting.givenUp kind closing
  case informs => exact fun kind going => reporting.informed stored kind going
  case retires =>
    exact fun kind closing cancel cancels =>
      reporting.retired coherent.paired stored kind closing cancels
  case once =>
    intro closing cancel subject storedCancel storedSubject names own
    -- What was closed by the report stays closed in every continuation.
    rw [← history_reported settings done] at reporting
    obtain ⟨cancelEnded, subjectEnded⟩ :=
      history_pair_closed settings reporting closing storedCancel storedSubject names own
    exact ⟨Deployments.tooLate_of_ended storedCancel cancelEnded,
      Deployments.tooLate_of_ended storedSubject subjectEnded⟩

end Runs

/-- A run in which a deployment is retracted before its device has installed it. -/
def retraction : List Call :=
  [⟨.epoch, .createSet "t" "a" "1" []⟩,
   ⟨.epoch, .createTarget "t" "d" .empty⟩,
   ⟨.epoch, .assign "t" "d" ⟨1, .forced, none, none, none⟩⟩,
   ⟨.epoch, .cancel "t" 1⟩]

/-- The device gives the retracted deployment up, and installs it too late after that. -/
theorem cancellations_settle_retraction :
    ∃ a s', (history .standard retraction).present.actions.get? 2 = some a ∧ a.isCancel = true ∧
      Resolves a ⟨.closed, .none, none, none, []⟩ .epoch (history .standard retraction).present s'
        (history .standard (retraction ++
          [⟨.epoch, .report "t" "d" 2 ⟨.closed, .none, none, none, []⟩ true⟩] ++
          [⟨.epoch, .report "t" "d" 1 ⟨.closed, .success, none, none, []⟩ false⟩])).present := by
  have taken : ((Deployments.report (Settings.standard.tenant "t") "t" "d" 2
      ⟨.closed, .none, none, none, []⟩ true .epoch).run
        (history .standard retraction).present).1.isOk = true := by
    decide +kernel
  -- The report has been taken, so it is a case of the theorem.
  cases carried : (Deployments.report (Settings.standard.tenant "t") "t" "d" 2
      ⟨.closed, .none, none, none, []⟩ true .epoch).run (history .standard retraction).present with
  | mk outcome s' =>
    rw [carried] at taken
    cases outcome with
    | error e => cases taken
    | ok reported =>
      obtain ⟨a, found, kind, resolves⟩ := cancellations_settle .standard retraction _ carried
      exact ⟨a, s', found, kind, resolves⟩

end DeviceUpdate.Service
