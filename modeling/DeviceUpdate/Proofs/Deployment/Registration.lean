import DeviceUpdate.Proofs.Deployment.Origin
import DeviceUpdate.Proofs.Deployment.Persistence
import DeviceUpdate.Proofs.Service.Filing

/-! The lists of actions of groups, write by write: exactly when an action comes to be listed. -/

namespace DeviceUpdate.Deployments

/-- One write of an action with an entry of its own log, or of something that is neither. -/
inductive Registration (s : Store) : Store → Prop
  | record (a : Action) (e : LogEntry) (own : e.action = a.id)
      (moves : ∀ b, s.actions.get? a.id = some b →
        ∃ status active now, a = b.moved status active now)
      -- What is stored for a group for the first time deploys, or cancels what does.
      (sponsor : ∀ m, a.rollout = some m → a.isCancel = false ∨
        ∃ id b, s.actions.get? id = some b ∧ b.rollout = some m) : Registration s (s.record a e)
  | aside {s' : Store} (actions : s'.actions = s.actions) (log : s'.log = s.log)
      (listed : s'.groupActions = s.groupActions) : Registration s s'

/-- Any number of such writes. -/
def Registrations : Store → Store → Prop :=
  Relation.ReflTransGen Registration

/-- What is stored on behalf of a group was made by a deployment on its behalf. -/
def Sponsored (s : Store) : Prop :=
  ∀ ⦃id : Nat⦄ ⦃a : Action⦄ ⦃m : Membership⦄, s.actions.get? id = some a → a.rollout = some m →
    ∃ other b, s.actions.get? other = some b ∧ Serves b m

variable {settings : Settings} {s s' s'' : Store} {a cancel subject : Action} {e : LogEntry}

section Writes

theorem Registrations.refl (s : Store) : Registrations s s :=
  Relation.ReflTransGen.refl

theorem Registrations.trans (first : Registrations s s') (second : Registrations s' s'') :
    Registrations s s'' :=
  Relation.ReflTransGen.trans first second

/-- What concerns neither actions nor their logs and lists comes besides. -/
theorem Registrations.aside (before : Registrations s s') (actions : s''.actions = s'.actions)
    (log : s''.log = s'.log) (listed : s''.groupActions = s'.groupActions) : Registrations s s'' :=
  before.tail (.aside actions log listed)

/-- A stored action may move. -/
theorem Registrations.moved (before : Registrations s s') (stored : s'.actions.get? a.id = some a)
    (own : e.action = a.id) (status : Status) (active : Bool) (now : Instant) :
    Registrations s (s'.record (a.moved status active now) e) := by
  refine before.tail (.record _ e own (fun b found => ?_) fun m member => ?_)
  · rw [Option.some.inj (found.symm.trans stored)]
    exact ⟨status, active, now, rfl⟩
  · exact Or.inr ⟨a.id, a, stored, member⟩

/-- The cancellation of a stored deployment is registered for its group. -/
theorem Registrations.requestCancel (indexed : Indexed s) (stored : s.actions.get? a.id = some a)
    (now : Instant) : Registrations s (s.requestCancel a now) := by
  have drawn : Registrations s (s.advance sequence) := (Registrations.refl s).aside rfl rfl rfl
  have pending := drawn.moved stored (e := (a.moved .canceling true now).remark now
    ("cancellation requested by action " ++ Text.decimal (s.nextNumber sequence))) rfl
    .canceling true now
  refine pending.tail (.record _ _ rfl (fun b found => ?_) fun m member => ?_)
  -- Nothing is stored under the number of the new action.
  · have other : s.nextNumber sequence ≠ a.id := by
      have below := indexed.drawn stored
      omega
    simp [Action.cancelling, other, indexed.next_absent] at found
  · exact Or.inr ⟨a.id, a.moved .canceling true now, by simp, member⟩

/-- The end of a deployment is registered. -/
theorem Registrations.close (stored : s.actions.get? a.id = some a) (set : Nat) (t : Target)
    (f : Feedback) (now : Instant) : Registrations s (s.close a set t f now) :=
  ((Registrations.refl s).moved stored rfl f.outcome.status false now).aside rfl rfl rfl

/-- Every step registers what it writes. -/
theorem Step.registrations (step : Step settings s s') (indexed : Indexed s) : Registrations s s' := by
  have start : Registrations s s := .refl s
  cases step with
  -- Most steps write no action at all.
  | published => exact start.aside rfl rfl rfl
  | registered => exact start.aside rfl rfl rfl
  | polled => exact start.aside rfl rfl rfl
  | described => exact start.aside rfl rfl rfl
  | requested subject now stored => exact .requestCancel indexed stored now
  | deployed tenant controller t d rollout now =>
    have drawn : Registrations s (s.advance sequence) := start.aside rfl rfl rfl
    have deployed : Registrations s ((s.advance sequence).record
        (newAction (s.nextNumber sequence) tenant controller d rollout now)
        ((newAction (s.nextNumber sequence) tenant controller d rollout now).remark now
          "assignment initiated")) := by
      refine drawn.tail (.record _ _ rfl (fun b found => ?_) fun m _ => Or.inl rfl)
      -- Nothing is stored under the number of the new deployment.
      simp [newAction, indexed.next_absent] at found
    exact deployed.aside rfl rfl rfl
  | progressed a f now step stored room going reported =>
    rcases Action.report_going going reported with stays | ⟨-, status, -, moved⟩
    -- An action that stays as it is is written as its own move.
    · rw [stays]
      exact start.moved stored rfl a.status a.active a.modifiedAt
    · rw [moved]
      exact start.moved stored rfl status true now
  -- The closing records are moves of what is stored.
  | closed a d t f now stored => exact .close stored d.distributionSet t f now
  | superseded cancel a d t f now pending =>
    refine (Registrations.close pending.subjectStored d.distributionSet t f now).moved ?_ rfl
      .finished false now
    rw [Store.get?_close, if_neg pending.id_ne]
    exact pending.cancelStored
  | confirmed cancel subject t f now pending =>
    exact ((start.moved pending.cancelStored rfl .canceled false now).moved
      (pending.still .canceled false now _) rfl .canceled false now).aside rfl rfl rfl

/-- The refusal of a cancellation registers both sides of the pair. -/
theorem Resumption.registrations (resumption : Resumption cancel subject s s') :
    Registrations s s' := by
  cases resumption with | resumed now pending =>
  exact ((Registrations.refl s).moved pending.cancelStored rfl .cancelRejected false now).moved
    (pending.still .cancelRejected false now _) rfl .running true now

end Writes

section Lists

/-- Writes leave all actions stored, and the logs can only grow. -/
theorem Registration.persists (registration : Registration s s') : Persists s s' := by
  cases registration with
  | record a e own moves => exact (Persists.refl s).record e moves
  | aside actions log => exact .of_eq actions log

theorem Registrations.persists (registrations : Registrations s s') : Persists s s' := by
  induction registrations with
  | refl => exact .refl s
  | tail _ registration ih => exact ih.trans registration.persists

/-- What is recorded has a longer log than before. -/
theorem Registrations.grown (before : Registrations s s') (own : e.action = a.id) :
    s.logOf a.id ≠ (s'.record a e).logOf a.id := by
  intro same
  have length := (before.persists.log a.id).length_le
  rw [same, ← own, Store.logOf_record_own] at length
  simp only [List.length_append, List.length_singleton] at length
  omega

/-- An action whose log has not grown has not been written. -/
theorem Registrations.unwritten (registrations : Registrations s s') {id : Nat}
    (same : s.logOf id = s'.logOf id) : s'.actions.get? id = s.actions.get? id := by
  -- Along the writes the log grows by prefixes, so equal ends mean equal logs in between.
  induction registrations with
  | refl => rfl
  | @tail between s' before registration ih =>
    -- The log has not grown in between either.
    have squeezed : s.logOf id = between.logOf id := by
      refine (Registrations.persists before).log id |>.eq_of_length_le ?_
      rw [same]
      exact (registration.persists.log id).length_le
    cases registration with
    -- A write that leaves the actions alone changes nothing here.
    | aside actions => rw [actions, ih squeezed]
    | record a e own =>
      rw [Store.get?_record, if_neg, ih squeezed]
      rintro rfl
      exact Registrations.grown before own same

/-- An action comes to be listed for its group exactly when its log grows. -/
theorem Registrations.listed (registrations : Registrations s s') {group id : Nat} :
    s'.groupActions.contains (group, id) = true ↔ s.groupActions.contains (group, id) = true ∨
      s.logOf id ≠ s'.logOf id ∧ ∃ a, s'.actions.get? id = some a ∧ Names group a := by
  -- One write after the other, where each action is listed when it is recorded.
  induction registrations with
  | refl => simp
  | @tail between s' before registration ih =>
    cases registration with
    | aside actions log listed =>
      have same : s'.logOf id = between.logOf id := by simp only [Store.logOf, log]
      rw [listed, actions, same]
      exact ih
    | record a e own moves =>
      rw [contains_record, ih, Store.get?_record]
      by_cases here : id = a.id
      -- The log of the recorded action has grown by its entry.
      · have grown : s.logOf a.id ≠ (between.record a e).logOf a.id :=
          Registrations.grown before own
        subst here
        simp only [true_and, ↓reduceIte, Option.some.injEq, exists_eq_left', ne_eq, grown,
          not_false_eq_true]
        constructor
        · rintro (names | listed | ⟨-, b, stored, m, member, group⟩)
          · exact Or.inr names
          · exact Or.inl listed
          -- What it was listed for before is what it is listed for now.
          · obtain ⟨status, active, now, same⟩ := moves b stored
            exact Or.inr ⟨m, by rw [same]; exact member, group⟩
        · rintro (listed | names)
          · exact Or.inr (Or.inl listed)
          · exact Or.inl names
      · have other : id ≠ e.action := by rw [own]; exact here
        rw [if_neg here, Store.logOf_record between a e other]
        simp [here]

/-- What is stored on behalf of a group leads back to a deployment, whatever is written. -/
theorem Sponsored.registrations (sponsored : Sponsored s) (registrations : Registrations s s') :
    Sponsored s' := by
  induction registrations with
  | refl => exact sponsored
  | @tail between s' before registration ih =>
    -- A deployment stays one on behalf of its group.
    have kept {m : Membership} (found : ∃ other b, between.actions.get? other = some b ∧
        Serves b m) : ∃ other b, s'.actions.get? other = some b ∧ Serves b m := by
      obtain ⟨other, b, stored, serves⟩ := found
      obtain ⟨status, active, now, later⟩ := registration.persists.action stored
      exact ⟨other, _, later, serves.deploys, serves.member⟩
    intro id b m stored member
    cases registration with
    | aside actions log listed =>
      rw [actions] at stored
      exact kept (ih stored member)
    | record a e own moves sponsor =>
      rw [Store.get?_record] at stored
      split at stored
      · have same := Option.some.inj stored
        subst same
        rcases sponsor m member with deploys | ⟨other, c, found, names⟩
        · exact ⟨a.id, a, by simp, deploys, member⟩
        · exact kept (ih found names)
      · exact kept (ih stored member)

/-- Nothing is stored at the start. -/
theorem sponsored_empty : Sponsored .empty := by
  intro id a m stored
  simp [Store.empty] at stored

end Lists

end DeviceUpdate.Deployments
