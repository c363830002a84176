import DeviceUpdate.Deployment.Administration
import DeviceUpdate.Proofs.Deployment.Pairing
import Mathlib.Logic.Relation

/-! Requests for cancellations, and their refusal, as steps. -/

namespace DeviceUpdate

namespace Deployments

variable {settings : Settings} {s s' : Store} {subject : Action} {now : Instant}

/-- Any number of steps of the targets and actions. -/
def Steps (settings : Settings) : Store → Store → Prop :=
  Relation.ReflTransGen (Step settings)

theorem Step.steps (step : Step settings s s') : Steps settings s s' :=
  Relation.ReflTransGen.single step

/-- Every run of steps keeps the index. -/
theorem Steps.indexed (steps : Steps settings s s') (indexed : Indexed s) : Indexed s' := by
  induction steps with
  | refl => exact indexed
  | tail _ step ih => exact step.indexed ih

/-- Every run of steps leaves the rollouts and their sequences as they are. -/
theorem Steps.frame (steps : Steps settings s s') : Frame s s' := by
  induction steps with
  | refl => exact .refl s
  | tail _ step ih => exact ih.trans step.frame

/-- Where a cancellation is requested, it is that of a deployment in flight. -/
theorem cancelIn_eq_ok {cancel : Action}
    (done : cancelIn subject now s = .ok (cancel, s')) :
    subject.isInFlight = true ∧ cancel = subject.cancelling (s.nextNumber sequence) now ∧
      s' = s.requestCancel subject now := by
  simp only [cancelIn, Transaction.draw_bind_apply, Transaction.lift_bind_eq_ok] at done
  -- The number is drawn first, and the request decides the rest.
  obtain ⟨⟨step, new⟩, requested, rest⟩ := done
  obtain ⟨inFlight, moved, same⟩ := Action.requestCancel_eq_ok requested
  dsimp only at moved same rest
  subst same
  simp only [moved, Transaction.change_bind_apply, Transaction.note_bind_apply,
    Transaction.pure_apply] at rest
  obtain ⟨given, result⟩ := Prod.mk.inj (Except.ok.inj rest)
  exact ⟨inFlight, given.symm, result.symm⟩

/-- Requests for several cancellations are made one by one. -/
theorem mapM_cancelIn_eq_ok {subjects cancels : List Action}
    (done : (subjects.mapM fun a => cancelIn a now) s = .ok (cancels, s')) :
    s' = s.requestCancels subjects now := by
  induction subjects generalizing s cancels with
  | nil =>
    simp only [List.mapM_nil, Transaction.pure_apply] at done
    exact (Transaction.state_eq done).symm
  | cons subject rest ih =>
    simp only [List.mapM_cons, Transaction.bind_eq_ok] at done
    -- The first request is made in this state, the others in the one it leaves.
    obtain ⟨cancel, s₁, first, more, s₂, others, last⟩ := done
    have same := (cancelIn_eq_ok first).2.2
    subst same
    simp only [Transaction.pure_apply] at last
    have result := Transaction.state_eq last
    rw [result] at others
    exact ih others

/-- Requests for cancellations change neither targets nor distribution sets. -/
theorem requestCancels_frame (s : Store) (subjects : List Action) (now : Instant) :
    (s.requestCancels subjects now).targets = s.targets ∧
      (s.requestCancels subjects now).sets = s.sets := by
  induction subjects generalizing s with
  | nil => exact ⟨rfl, rfl⟩
  | cons subject rest ih => exact ih (s.requestCancel subject now)

/-- Other actions than the subject and the new one are found as before. -/
theorem get?_requestCancel_of_ne {a : Action} (stored : s.actions.get? a.id = some a)
    (indexed : Indexed s) (other : a.id ≠ subject.id) :
    (s.requestCancel subject now).actions.get? a.id = some a := by
  -- A stored action does not have the number of the new one.
  have below := indexed.drawn stored
  have new : a.id ≠ s.nextNumber sequence := by omega
  rw [Store.get?_requestCancel, if_neg new, if_neg other]
  exact stored

/-- What is in flight after a request for a cancellation was so before, and is not its subject. -/
theorem inFlight_requestCancel {a : Action}
    (found : (s.requestCancel subject now).actions.get? a.id = some a)
    (inFlight : a.isInFlight = true) : s.actions.get? a.id = some a ∧ a.id ≠ subject.id := by
  -- Neither what cancels nor what is being cancelled is in flight.
  rw [Store.get?_requestCancel] at found
  split at found
  · rw [← Option.some.inj found] at inFlight
    simp [Action.isInFlight, Action.cancelling, Action.isCancel, Action.cancels?] at inFlight
  · split at found
    · rw [← Option.some.inj found] at inFlight
      simp [Action.isInFlight] at inFlight
    · rename_i other
      exact ⟨found, other⟩

/-- Requests for the cancellation of stored deployments in flight that pass a test, one by one. -/
def Requests (test : Action → Prop) (now : Instant) : Store → Store → Prop :=
  Relation.ReflTransGen fun s s' => ∃ subject, s.actions.get? subject.id = some subject ∧
    subject.isInFlight = true ∧ test subject ∧ s' = s.requestCancel subject now

/-- Requests are steps, whatever deployments they are about. -/
theorem Requests.steps {test : Action → Prop} (requests : Requests test now s s') :
    Steps settings s s' := by
  refine Relation.ReflTransGen.mono ?_ _ _ requests
  rintro s₁ s₂ ⟨subject, stored, inFlight, -, same⟩
  rw [same]
  exact .requested s₁ subject now stored inFlight

/-- Requests about deployments that pass one test are about those that pass a weaker one. -/
theorem Requests.mono {test weaker : Action → Prop} (requests : Requests test now s s')
    (weakens : ∀ a, test a → weaker a) : Requests weaker now s s' := by
  refine Relation.ReflTransGen.mono ?_ _ _ requests
  rintro s₁ s₂ ⟨subject, stored, inFlight, passes, same⟩
  exact ⟨subject, stored, inFlight, weakens subject passes, same⟩

theorem Requests.trans {s'' : Store} {test : Action → Prop} (first : Requests test now s s')
    (second : Requests test now s' s'') : Requests test now s s'' :=
  Relation.ReflTransGen.trans first second

/-- Requests keep the index. -/
theorem Requests.indexed {test : Action → Prop} (requests : Requests test now s s')
    (indexed : Indexed s) : Indexed s' := by
  induction requests with
  | refl => exact indexed
  | tail _ request ih =>
    obtain ⟨subject, stored, -, -, same⟩ := request
    rw [same]
    exact ih.requestCancel stored now

/-- What fails the test is found as it was. -/
theorem Requests.kept {test : Action → Prop} (requests : Requests test now s s')
    (indexed : Indexed s) {a : Action} (stored : s.actions.get? a.id = some a)
    (fails : ¬ test a) : s'.actions.get? a.id = some a := by
  induction requests with
  | refl => exact stored
  | tail before request ih =>
    obtain ⟨subject, here, -, passes, same⟩ := request
    have between : Indexed _ := Requests.indexed before indexed
    -- The subject passes the test, so it is another action.
    have other : a.id ≠ subject.id := fun equal =>
      fails (by rw [stored_unique ih here equal]; exact passes)
    rw [same]
    exact get?_requestCancel_of_ne ih between other

/-- The cancellations of different deployments in flight can be requested one by one. -/
theorem requestCancels_requests (indexed : Indexed s) {test : Action → Prop}
    {subjects : List Action} (apart : subjects.Pairwise fun a b => a.id < b.id)
    (running : ∀ a ∈ subjects, s.actions.get? a.id = some a ∧ a.isInFlight = true)
    (passes : ∀ a ∈ subjects, test a) (now : Instant) :
    Requests test now s (s.requestCancels subjects now) := by
  -- The subjects are ordered by their numbers, so none of them comes twice.
  induction subjects generalizing s with
  | nil => exact Relation.ReflTransGen.refl
  | cons subject rest ih =>
    obtain ⟨later, apart⟩ := List.pairwise_cons.mp apart
    obtain ⟨stored, inFlight⟩ := running subject List.mem_cons_self
    have first := passes subject List.mem_cons_self
    -- The others are not touched by the first request.
    refine Relation.ReflTransGen.head ⟨subject, stored, inFlight, first, rfl⟩
      (ih (indexed.requestCancel stored now) apart (fun a member => ?_)
        fun a member => passes a (List.mem_cons_of_mem subject member))
    obtain ⟨here, runs⟩ := running a (List.mem_cons_of_mem subject member)
    have after := later a member
    exact ⟨get?_requestCancel_of_ne here indexed (by omega), runs⟩

/-- After the requests, what is in flight was so before, and is none of the subjects. -/
theorem inFlight_requestCancels {subjects : List Action} {a : Action}
    (found : (s.requestCancels subjects now).actions.get? a.id = some a)
    (inFlight : a.isInFlight = true) : s.actions.get? a.id = some a ∧ a ∉ subjects := by
  induction subjects generalizing s with
  | nil => exact ⟨found, by simp⟩
  | cons subject rest ih =>
    -- What is in flight at the end was so after the first request.
    obtain ⟨between, notRest⟩ := ih found
    obtain ⟨before, other⟩ := inFlight_requestCancel between inFlight
    refine ⟨before, ?_⟩
    rw [List.mem_cons, not_or]
    exact ⟨fun same => other (by rw [same]), notRest⟩

/-- An action that is found for a tenant is stored under its own number. -/
theorem Indexed.action?_eq_some (indexed : Indexed s) {tenant : String} {id : Nat} {a : Action}
    (found : s.action? tenant id = some a) :
    s.actions.get? a.id = some a ∧ a.id = id ∧ a.tenant = tenant := by
  -- The lookup goes by number, and then checks the tenant.
  obtain ⟨stored, owner⟩ := Option.filter_eq_some_iff.mp found
  have same := indexed.own stored
  exact ⟨by rw [same]; exact stored, same, by simpa using owner⟩

/-- An action is found for its own tenant. -/
theorem action?_of_stored {a : Action} (stored : s.actions.get? a.id = some a) :
    s.action? a.tenant a.id = some a := by
  simp [Store.action?, stored]

/-- An administrator has a deployment of the tenant cancelled that is in flight. -/
theorem cancel_eq_ok {tenant : String} {id : Nat} {cancelled : Action}
    (done : cancel tenant id now s = .ok (cancelled, s')) :
    ∃ subject, s.action? tenant id = some subject ∧ subject.isInFlight = true ∧
      cancelled = subject.cancelling (s.nextNumber sequence) now ∧
      s' = s.requestCancel subject now := by
  simp only [cancel, Transaction.read_bind_apply, Transaction.orElse_bind_eq_ok] at done
  obtain ⟨subject, found, rest⟩ := done
  exact ⟨subject, found, cancelIn_eq_ok rest⟩

/-- The request of an administrator for a cancellation is a step. -/
theorem cancel_step {tenant : String} {id : Nat} {cancelled : Action} (indexed : Indexed s)
    (done : cancel tenant id now s = .ok (cancelled, s')) : Step settings s s' := by
  obtain ⟨subject, found, inFlight, -, same⟩ := cancel_eq_ok done
  rw [same]
  exact .requested s subject now (indexed.action?_eq_some found).1 inFlight

/-- The refusal of a cancellation lets its subject run again, and does nothing else. -/
theorem rejectCancel_resumption {tenant : String} {id : Nat} {rejected : Action}
    (indexed : Indexed s) (paired : Paired s)
    (done : rejectCancel tenant id now s = .ok (rejected, s')) :
    ∃ cancel subject, cancel.id = id ∧ cancel.tenant = tenant ∧ rejected.tenant = tenant ∧
      Resumption cancel subject s s' := by
  simp only [rejectCancel, Transaction.read_bind_apply, Transaction.orElse_bind_eq_ok,
    Transaction.lift_bind_eq_ok] at done
  obtain ⟨cancel, found, number, names, subject, foundSubject, ⟨first, second⟩, steps, rest⟩ := done
  -- Both actions are stored under the numbers by which they were found.
  obtain ⟨stored, same, owner⟩ := indexed.action?_eq_some found
  obtain ⟨storedSubject, sameSubject, -⟩ := indexed.action?_eq_some foundSubject
  obtain ⟨isOpen, moved, left⟩ := Action.rejectCancel_eq_ok steps
  dsimp only at moved left
  -- The cancellation is open, so its subject is the one that it is paired with.
  have names : cancel.order = .cancel number := by
    cases order : cancel.order with
    | deploy d => simp [Action.cancels?, order] at names
    | cancel other => simpa [Action.cancels?, order] using names
  obtain ⟨a, sameA, pending, -⟩ :=
    paired.subject ⟨stored, Action.active_of_open isOpen, names⟩
  have equal : a = subject :=
    stored_unique pending.subjectStored storedSubject (sameA.trans sameSubject.symm)
  subst equal
  -- A pending subject runs again, so its record changes and is stored.
  have resumed : second.action = a.moved .running true now := by
    simp [left, pending.subjectActive, pending.canceling]
  have changed : a.moved .running true now ≠ a := fun equal => by
    have status := congrArg Action.status equal
    simp [pending.canceling] at status
  simp only [moved, resumed, Transaction.change_bind_apply, Transaction.note_bind_apply, ne_eq,
    changed, not_false_eq_true, ↓reduceIte, Transaction.pure_apply] at rest
  obtain ⟨given, result⟩ := Prod.mk.inj (Except.ok.inj rest)
  refine ⟨cancel, a, same, owner, ?_, ?_⟩
  · rw [← given]
    exact owner
  · rw [← result]
    exact .resumed s now pending

/-- A deployment and its cancellation are of one tenant. -/
theorem Pending.owner {cancel subject : Action} (pending : Pending s cancel subject)
    (paired : Paired s) : subject.tenant = cancel.tenant := by
  obtain ⟨a, same, pair, owner, -⟩ := paired.subject pending.cancels
  have equal := stored_unique pair.subjectStored pending.subjectStored same
  rw [← equal]
  exact owner

/-- A deployment and its cancellation are about one target. -/
theorem Pending.targetKey {cancel subject : Action} (pending : Pending s cancel subject)
    (paired : Paired s) : cancel.targetKey = subject.targetKey := by
  obtain ⟨a, same, pair, owner, device⟩ := paired.subject pending.cancels
  have equal := stored_unique pair.subjectStored pending.subjectStored same
  rw [Action.targetKey, ← owner, ← device, equal, Action.targetKey]

/-- Every pending cancellation can be refused. -/
theorem Pending.rejectCancel_eq_ok {cancel subject : Action} (pending : Pending s cancel subject)
    (paired : Paired s) (now : Instant) :
    ∃ rejected, rejectCancel cancel.tenant cancel.id now s =
      .ok (rejected, s.resume cancel subject now) := by
  -- An active action of a pair is not closed, so that its cancellation can be refused.
  have isOpen : cancel.isClosed = false :=
    paired.open_of_active pending.cancelStored pending.cancelActive
  -- Both steps are known, since the subject is pending.
  have resumes : cancel.rejectCancel subject now =
      .ok ((Transition.move cancel .cancelRejected false now).also
        [.cancelRejected subject.id cancel.id], .move subject .running true now) := by
    simp [Action.rejectCancel, Action.ensureOpen, isOpen, pending.subjectActive, pending.canceling,
      bind, Except.bind, pure, Except.pure]
  -- The status of the subject changes, so its new record is stored.
  have changed : subject.moved .running true now ≠ subject := fun equal => by
    have status := congrArg Action.status equal
    simp [pending.canceling] at status
  refine ⟨cancel.moved .cancelRejected false now, ?_⟩
  simp only [rejectCancel, Transaction.read_bind_apply, Transaction.orElse_bind_eq_ok,
    Transaction.lift_bind_eq_ok]
  refine ⟨cancel, action?_of_stored pending.cancelStored, subject.id, ?_, subject, ?_, _, resumes,
    ?_⟩
  · simp [Action.cancels?, pending.names]
  · rw [← pending.owner paired]
    exact action?_of_stored pending.subjectStored
  · simp only [Transaction.change_bind_apply, Transaction.note_bind_apply, Action.move_action,
      Action.also_action, ne_eq, changed, not_false_eq_true, ↓reduceIte, Transaction.pure_apply]
    rfl

end Deployments

end DeviceUpdate
