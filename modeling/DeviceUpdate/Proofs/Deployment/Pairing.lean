import DeviceUpdate.Proofs.Deployment.Index

/-! The pairing of deployments that are being cancelled with the actions that cancel them. -/

namespace DeviceUpdate

/-- The statuses of actions that take part in nothing any more. -/
def Status.ends : List Status :=
  [.finished, .error, .canceled, .cancelRejected]

/-- Every terminal status ends an action. -/
theorem Status.mem_ends {status : Status} (terminal : status.isTerminal = true) :
    status ∈ Status.ends := by
  cases status <;> simp_all [Status.isTerminal, Status.ends]

namespace Deployments

/-- A stored action that is active and cancels the action of a number. -/
structure Cancels (s : Store) (cancel : Action) (subject : Nat) : Prop where
  stored : s.actions.get? cancel.id = some cancel
  active : cancel.active = true
  names : cancel.order = .cancel subject

/-- Deployments that are being cancelled and the actions that cancel them belong together. -/
structure Paired (s : Store) : Prop where
  ended : ∀ {a : Action}, s.actions.get? a.id = some a → (a.active = false ↔ a.status ∈ Status.ends)
  subject : ∀ {cancel : Action} {subject : Nat}, Cancels s cancel subject →
    ∃ a, a.id = subject ∧ Pending s cancel a ∧ a.tenant = cancel.tenant ∧
      a.controller = cancel.controller
  cancel : ∀ {a : Action}, s.actions.get? a.id = some a → a.isCancel = false →
    a.status = .canceling → ∃ cancel, Cancels s cancel a.id
  unique : ∀ {first second : Action} {subject : Nat}, Cancels s first subject →
    Cancels s second subject → first.id = second.id

/-- Nothing is stored at the start. -/
theorem paired_empty : Paired .empty where
  ended found := by simp [Store.empty] at found
  subject cancels := by simpa [Store.empty] using cancels.stored
  cancel found := by simp [Store.empty] at found
  unique first := by simpa [Store.empty] using first.stored

section Pairing

variable {s s' : Store} {cancel a : Action} {subject : Nat}

theorem Pending.cancels (pending : Pending s cancel a) : Cancels s cancel a.id :=
  ⟨pending.cancelStored, pending.cancelActive, pending.names⟩

/-- A deployment is not an action that cancels. -/
theorem Cancels.id_ne (cancels : Cancels s cancel subject)
    (stored : s.actions.get? a.id = some a) (deploys : a.isCancel = false) : cancel.id ≠ a.id := by
  -- Under one number there is one action, and it has one kind.
  intro same
  have equal := stored_unique cancels.stored stored same
  subst equal
  simp [Action.isCancel, Action.cancels?, cancels.names] at deploys

/-- A cancellation stays where its action does. -/
theorem Cancels.kept (cancels : Cancels s cancel subject)
    (found : s'.actions.get? cancel.id = s.actions.get? cancel.id) : Cancels s' cancel subject :=
  ⟨found.trans cancels.stored, cancels.active, cancels.names⟩

/-- A pair stays where both of its actions do. -/
theorem Pending.kept (pending : Pending s cancel a)
    (cancelFound : s'.actions.get? cancel.id = s.actions.get? cancel.id)
    (found : s'.actions.get? a.id = s.actions.get? a.id) : Pending s' cancel a :=
  { pending with
    cancelStored := cancelFound.trans pending.cancelStored
    subjectStored := found.trans pending.subjectStored }

/-- An action is closed exactly if it is not active. -/
theorem Paired.isClosed_iff (paired : Paired s) (stored : s.actions.get? a.id = some a) :
    a.isClosed = true ↔ a.active = false := by
  simp only [Action.isClosed, Bool.or_eq_true, Bool.not_eq_true', or_iff_right_iff_imp]
  -- No action keeps a terminal status and stays active.
  exact fun terminal => (paired.ended stored).mpr (Status.mem_ends terminal)

/-- What is stored as active is open. -/
theorem Paired.open_of_active (paired : Paired s) (stored : s.actions.get? a.id = some a)
    (active : a.active = true) : a.isClosed = false := by
  rw [Bool.eq_false_iff, ne_eq, paired.isClosed_iff stored, active]
  simp

/-- The pairing depends on the actions alone. -/
theorem Paired.unchanged (paired : Paired s)
    (found : ∀ id, s'.actions.get? id = s.actions.get? id) : Paired s' where
  ended stored := paired.ended ((found _).symm.trans stored)
  -- Each clause is about what is stored, and that is the same.
  subject cancels := by
    obtain ⟨a, same, pending, owners⟩ := paired.subject (cancels.kept (found _).symm)
    exact ⟨a, same, pending.kept (found _) (found _), owners⟩
  cancel stored deploys canceling := by
    obtain ⟨cancel, cancels⟩ := paired.cancel ((found _).symm.trans stored) deploys canceling
    exact ⟨cancel, cancels.kept (found _)⟩
  unique first second := paired.unique (first.kept (found _).symm) (second.kept (found _).symm)

/-- A deployment that is not being cancelled may be stored, in place of itself or anew. -/
theorem Paired.stored (paired : Paired s) {b : Action}
    (found : ∀ id, s'.actions.get? id = if id = b.id then some b else s.actions.get? id)
    (before : ∀ a, s.actions.get? b.id = some a → a.isCancel = false ∧ a.status ≠ .canceling)
    (deploys : b.isCancel = false) (free : b.status ≠ .canceling)
    (ended : b.active = false ↔ b.status ∈ Status.ends) : Paired s' := by
  -- No cancellation is made or ended, and none has this deployment as its subject.
  have cancelsNot {cancel : Action} {subject : Nat} (cancels : Cancels s' cancel subject) :
      cancel.id ≠ b.id := cancels.id_ne (by simp [found]) deploys
  have back {cancel : Action} {subject : Nat} (cancels : Cancels s' cancel subject) :
      Cancels s cancel subject := cancels.kept (by simp [found, cancelsNot cancels])
  have forth {cancel : Action} {subject : Nat} (cancels : Cancels s cancel subject) :
      Cancels s' cancel subject := by
    refine cancels.kept ?_
    -- What cancels now cancelled before, and the deployment did not.
    have other : cancel.id ≠ b.id := fun same => by
      have kind := (before cancel (same ▸ cancels.stored)).1
      simp [Action.isCancel, Action.cancels?, cancels.names] at kind
    simp [found, other]
  constructor
  case ended =>
    intro a stored
    rw [found] at stored
    split at stored
    · rw [← Option.some.inj stored]
      exact ended
    · exact paired.ended stored
  case subject =>
    intro cancel subject cancels
    -- The subject is being cancelled, so it is not the stored deployment.
    obtain ⟨a, same, pending, owners⟩ := paired.subject (back cancels)
    refine ⟨a, same, pending.kept ?_ ?_, owners⟩
    · simp [found, cancelsNot cancels]
    · have other : a.id ≠ b.id := fun same =>
        (before a (same ▸ pending.subjectStored)).2 pending.canceling
      simp [found, other]
  case cancel =>
    intro a stored kind canceling
    rw [found] at stored
    split at stored
    -- The stored deployment is not being cancelled, and the others have their pairs.
    · exact absurd canceling (by rw [← Option.some.inj stored]; exact free)
    · obtain ⟨cancel, cancels⟩ := paired.cancel stored kind canceling
      exact ⟨cancel, forth cancels⟩
  case unique =>
    intro first second subject cancelsFirst cancelsSecond
    exact paired.unique (back cancelsFirst) (back cancelsSecond)

/-- What cancels after a pair is settled did so before, and is no part of the pair. -/
theorem Cancels.of_settled {k ended left : Action} (cancels : Cancels s' k subject)
    (found : ∀ id, s'.actions.get? id =
      if id = a.id then some left else if id = cancel.id then some ended else s.actions.get? id)
    (cancelEnded : ended.active = false) (kind : left.isCancel = false) :
    Cancels s k subject ∧ k.id ≠ a.id ∧ k.id ≠ cancel.id := by
  have stored := cancels.stored
  rw [found] at stored
  split at stored
  · -- The subject is a deployment still, and cancels nothing.
    have names := cancels.names
    rw [← Option.some.inj stored] at names
    rw [Action.isCancel_of_names names] at kind
    cases kind
  · rename_i notSubject
    split at stored
    · -- The settled cancellation is not active any more.
      have active := cancels.active
      rw [← Option.some.inj stored, cancelEnded] at active
      cases active
    · rename_i notCancel
      exact ⟨⟨stored, cancels.active, cancels.names⟩, notSubject, notCancel⟩

/-- Where two actions are written that are inactive exactly if they have ended, so are all. -/
theorem Paired.ended_written (paired : Paired s) {x y : Action} {first second : Nat}
    (found : ∀ id, s'.actions.get? id =
      if id = first then some x else if id = second then some y else s.actions.get? id)
    (endedX : x.active = false ↔ x.status ∈ Status.ends)
    (endedY : y.active = false ↔ y.status ∈ Status.ends) {b : Action}
    (stored : s'.actions.get? b.id = some b) : b.active = false ↔ b.status ∈ Status.ends := by
  rw [found] at stored
  split at stored
  · rw [← Option.some.inj stored]
    exact endedX
  · split at stored
    · rw [← Option.some.inj stored]
      exact endedY
    · exact paired.ended stored

/-- Both sides of a pair may be settled together. -/
theorem Paired.settled (paired : Paired s) (pending : Pending s cancel a) {ended left : Action}
    (found : ∀ id, s'.actions.get? id =
      if id = a.id then some left else if id = cancel.id then some ended else s.actions.get? id)
    (cancelEnded : ended.active = false) (cancelStatus : ended.status ∈ Status.ends)
    (cancelOrder : ended.order = cancel.order) (order : left.order = a.order)
    (free : left.status ≠ .canceling)
    (settled : left.active = false ↔ left.status ∈ Status.ends) : Paired s' := by
  have kind : left.isCancel = false := by
    have deploys := pending.deploys
    simpa only [Action.isCancel, Action.cancels?, order] using deploys
  -- The cancellations that are left are those that were there, without the settled one.
  have back {k : Action} {subject : Nat} (cancels : Cancels s' k subject) :=
    cancels.of_settled found cancelEnded kind
  have kept {id : Nat} (notSubject : id ≠ a.id) (notCancel : id ≠ cancel.id) :
      s'.actions.get? id = s.actions.get? id := by simp [found, notSubject, notCancel]
  constructor
  -- An action has ended if and only if it is inactive, also the two that were settled.
  case ended =>
    exact fun stored =>
      paired.ended_written found settled (by simp [cancelEnded, cancelStatus]) stored
  case subject =>
    intro k subject cancels
    obtain ⟨old, notSubject, notCancel⟩ := back cancels
    obtain ⟨b, same, rest, owners⟩ := paired.subject old
    refine ⟨b, same, rest.kept (kept notSubject notCancel) (kept ?_ ?_), owners⟩
    · -- Another cancellation of the same subject would be the settled one.
      intro equal
      subst same
      exact notCancel (paired.unique (equal ▸ old) pending.cancels)
    · exact fun equal =>
        pending.cancels.id_ne rest.subjectStored rest.deploys equal.symm
  -- A deployment that is being cancelled still has the cancellation that it had.
  case cancel =>
    intro b stored deploys canceling
    rw [found] at stored
    split at stored
    · exact absurd canceling (by rw [← Option.some.inj stored]; exact free)
    · rename_i notSubject
      split at stored
      · -- The settled cancellation is no deployment.
        rw [← Option.some.inj stored, Action.isCancel_of_names (cancelOrder.trans pending.names)]
          at deploys
        cases deploys
      · obtain ⟨k, cancels⟩ := paired.cancel stored deploys canceling
        refine ⟨k, cancels.kept (kept ?_ ?_)⟩
        · exact cancels.id_ne pending.subjectStored pending.deploys
        · -- The settled cancellation had its own subject only.
          intro same
          have equal := stored_unique cancels.stored pending.cancelStored same
          subst equal
          have names := cancels.names.symm.trans pending.names
          exact notSubject (Order.cancel.inj names)
  -- No cancellation is new, so two of one subject would have been there before.
  case unique =>
    intro first second subject cancelsFirst cancelsSecond
    exact paired.unique (back cancelsFirst).1 (back cancelsSecond).1

/-- Nothing cancels a deployment in flight. -/
theorem Paired.not_cancels (paired : Paired s) (stored : s.actions.get? a.id = some a)
    (free : a.status ≠ .canceling) : ¬ Cancels s cancel a.id := by
  intro cancels
  -- The subject of a cancellation is being cancelled, and here it would be the deployment.
  obtain ⟨b, same, pending, -⟩ := paired.subject cancels
  have equal := stored_unique pending.subjectStored stored same
  subst equal
  exact free pending.canceling

/-- What cancels after a request is the new action, or did so before. -/
theorem Cancels.of_requested {k : Action} {now : Instant} (cancels : Cancels s' k subject)
    (found : ∀ id, s'.actions.get? id =
      if id = cancel.id then some cancel
      else if id = a.id then some (a.moved .canceling true now) else s.actions.get? id)
    (deploys : a.isCancel = false) :
    k = cancel ∨ Cancels s k subject ∧ k.id ≠ cancel.id ∧ k.id ≠ a.id := by
  have stored := cancels.stored
  rw [found] at stored
  split at stored
  · exact Or.inl (Option.some.inj stored).symm
  · rename_i notCancel
    split at stored
    · -- The subject is a deployment, and cancels nothing.
      have names := cancels.names
      rw [← Option.some.inj stored, Action.moved_order] at names
      rw [Action.isCancel_of_names names] at deploys
      cases deploys
    · rename_i notSubject
      exact Or.inr ⟨⟨stored, cancels.active, cancels.names⟩, notCancel, notSubject⟩

/-- Two cancellations of one subject are one, if the only new one is that of a free subject. -/
theorem Paired.unique_requested (paired : Paired s) (alone : ∀ {k : Action}, ¬ Cancels s k a.id)
    (names : cancel.order = .cancel a.id)
    (cases : ∀ {k : Action} {subject : Nat}, Cancels s' k subject → k = cancel ∨ Cancels s k subject)
    {first second : Action} (cancelsFirst : Cancels s' first subject)
    (cancelsSecond : Cancels s' second subject) : first.id = second.id := by
  -- An older one would have the subject of the new one, which nothing has cancelled before.
  rcases cases cancelsFirst with same | oldFirst <;> rcases cases cancelsSecond with equal | oldSecond
  · rw [same, equal]
  · subst same
    have one := Order.cancel.inj (names.symm.trans cancelsFirst.names)
    exact absurd (one ▸ oldSecond) alone
  · subst equal
    have one := Order.cancel.inj (names.symm.trans cancelsSecond.names)
    exact absurd (one ▸ oldFirst) alone
  · exact paired.unique oldFirst oldSecond

/-- A new action may cancel a deployment in flight. -/
theorem Paired.requested (paired : Paired s) {now : Instant}
    (stored : s.actions.get? a.id = some a) (inFlight : a.isInFlight = true)
    (absent : s.actions.get? cancel.id = none)
    (found : ∀ id, s'.actions.get? id =
      if id = cancel.id then some cancel
      else if id = a.id then some (a.moved .canceling true now) else s.actions.get? id)
    (active : cancel.active = true) (runs : cancel.status ∉ Status.ends)
    (names : cancel.order = .cancel a.id)
    (owners : a.tenant = cancel.tenant ∧ a.controller = cancel.controller) : Paired s' := by
  obtain ⟨-, deploys, free⟩ := Action.isInFlight_iff.mp inFlight
  -- The new action stands under a number that no stored one has.
  have fresh {b : Action} (here : s.actions.get? b.id = some b) : b.id ≠ cancel.id := fun same => by
    rw [same, absent] at here
    cases here
  have kept {id : Nat} (notCancel : id ≠ cancel.id) (notSubject : id ≠ a.id) :
      s'.actions.get? id = s.actions.get? id := by simp [found, notCancel, notSubject]
  have pair : Pending s' cancel (a.moved .canceling true now) :=
    { cancelStored := by simp [found]
      subjectStored := by simp [found, Action.moved, fresh stored]
      cancelActive := active
      names := names
      subjectActive := rfl
      deploys := deploys
      canceling := rfl }
  -- The new cancellation is the only one of its subject, which was not being cancelled.
  have cases {k : Action} {subject : Nat} (cancels : Cancels s' k subject) :=
    cancels.of_requested found deploys
  have alone {k : Action} (cancels : Cancels s k a.id) : False :=
    paired.not_cancels stored free cancels
  constructor
  -- Neither of the two written actions has ended.
  case ended =>
    exact fun here => paired.ended_written found (by simp [active, runs])
      (by simp [Action.moved, Status.ends]) here
  case subject =>
    intro k subject cancels
    rcases cases cancels with same | ⟨old, notCancel, notSubject⟩
    · subst same
      have named : a.id = subject := Order.cancel.inj (names.symm.trans cancels.names)
      exact ⟨a.moved .canceling true now, named, pair, owners⟩
    · -- An older cancellation has a subject of its own, which is not touched.
      obtain ⟨b, same, pending, rest⟩ := paired.subject old
      have other : b.id ≠ a.id := fun equal => alone (equal ▸ same ▸ old)
      exact ⟨b, same,
        pending.kept (kept notCancel notSubject) (kept (fresh pending.subjectStored) other), rest⟩
  -- The subject of the request is being cancelled by the new action, and others as before.
  case cancel =>
    intro b here kind canceling
    rw [found] at here
    split at here
    · rw [← Option.some.inj here, Action.isCancel_of_names names] at kind
      cases kind
    · split at here
      · rename_i same
        exact ⟨cancel, by rw [same]; exact pair.cancels⟩
      · obtain ⟨k, old⟩ := paired.cancel here kind canceling
        exact ⟨k, old.kept (kept (fresh old.stored) (old.id_ne stored deploys))⟩
  case unique =>
    exact paired.unique_requested (fun cancels => alone cancels) names
      fun cancels => (cases cancels).imp_right And.left

end Pairing

section Steps

variable {settings : Settings} {s s' : Store} {cancel subject : Action}

/-- A running deployment that is moved to another status keeps the pairing. -/
theorem Paired.moved (paired : Paired s) {a : Action} (stored : s.actions.get? a.id = some a)
    (inFlight : a.isInFlight = true) {status : Status} {active : Bool} {now : Instant}
    (found : ∀ id, s'.actions.get? id =
      if id = a.id then some (a.moved status active now) else s.actions.get? id)
    (free : status ≠ .canceling) (ended : active = false ↔ status ∈ Status.ends) :
    Paired s' := by
  -- It is a deployment that is not being cancelled, before and after.
  obtain ⟨-, deploys, running⟩ := Action.isInFlight_iff.mp inFlight
  refine paired.stored (b := a.moved status active now) found ?_ deploys free ended
  intro b here
  rw [Action.moved_id, stored] at here
  rw [← Option.some.inj here]
  exact ⟨deploys, running⟩

/-- Every step keeps the pairing. -/
theorem Step.paired (step : Step settings s s') (indexed : Indexed s) (paired : Paired s) :
    Paired s' := by
  cases step with
  | published => exact paired.unchanged fun _ => rfl
  | registered => exact paired.unchanged fun _ => rfl
  | polled => exact paired.unchanged fun _ => rfl
  | described => exact paired.unchanged fun _ => rfl
  -- A request makes a new pair.
  | requested subject now stored inFlight =>
    have absent : s.actions.get? (subject.cancelling (s.nextNumber sequence) now).id = none :=
      indexed.next_absent
    exact paired.requested stored inFlight absent (Store.get?_requestCancel s subject now) rfl
      (by simp [Action.cancelling, Status.ends]) rfl ⟨rfl, rfl⟩
  -- A new deployment is no part of a pair.
  | deployed tenant controller t d rollout now =>
    refine paired.stored
      (b := newAction (s.nextNumber sequence) tenant controller d rollout now)
      (Store.get?_deploy s t now tenant controller d rollout) ?_ rfl ?_ ?_
    · intro a found
      simp [newAction, indexed.next_absent] at found
    · simp [newAction]
    · simp [newAction, Status.ends]
  | progressed a f now step stored room going reported =>
    have found := Store.get?_record s step.action (f.entry a.id step.logged now)
    rcases Action.report_going going reported with same | ⟨inFlight, status, stands, moved⟩
    · refine paired.unchanged fun id => ?_
      rw [found, same]
      split
      · rename_i here
        rw [here, stored]
      · rfl
    · rw [moved] at found ⊢
      -- A report that does not close leaves the deployment open.
      have goes : status ∉ Status.ends ∧ status ≠ .canceling := by
        cases execution : f.execution <;> simp [execution, Action.reported?] at stands <;>
          subst stands <;> simp [Status.ends]
      exact paired.moved stored inFlight found goes.2 (by simp [goes.1])
  -- A deployment in flight has no cancellation that could be left behind.
  | closed a d t f now stored deploys room closing inFlight =>
    refine paired.moved stored inFlight (Store.get?_close s a d.distributionSet t f now) ?_ ?_
    · cases f.outcome <;> simp [Outcome.status]
    · cases f.outcome <;> simp [Outcome.status, Status.ends]
  -- A pair ends when its deployment closes.
  | superseded cancel a d t f now pending =>
    have found (id : Nat) :
        ((s.close a d.distributionSet t f now).supersede cancel a.id now).actions.get? id =
          if id = a.id then some (a.moved f.outcome.status false now)
          else if id = cancel.id then some (cancel.moved .finished false now)
          else s.actions.get? id := by
      rw [Store.get?_supersede, Store.get?_close]
      -- The two writes are to different numbers, so their order does not matter.
      by_cases here : id = cancel.id
      · simp [here, pending.id_ne]
      · simp [here]
    refine paired.settled pending found rfl (by simp [Status.ends]) rfl rfl ?_ ?_
    · cases f.outcome <;> simp [Outcome.status]
    · cases f.outcome <;> simp [Outcome.status, Status.ends]
  -- A pair ends when its cancellation is confirmed.
  | confirmed cancel subject t f now pending =>
    exact paired.settled pending (Store.get?_confirm s subject cancel t f now) rfl
      (by simp [Status.ends]) rfl rfl (by simp) (by simp [Status.ends])

/-- The refusal of a cancellation keeps the pairing. -/
theorem Resumption.paired (resumption : Resumption cancel subject s s') (paired : Paired s) :
    Paired s' := by
  cases resumption with | resumed now pending =>
  exact paired.settled pending (Store.get?_resume s subject cancel now) rfl
    (by simp [Status.ends]) rfl rfl (by simp) (by simp [Status.ends])

end Steps

end Deployments

end DeviceUpdate
