import DeviceUpdate.Proofs.Deployment.Administration

/-! What cancellations and assignments need in order to succeed, and what steps keep of it. -/

namespace DeviceUpdate

/-- A cancellation can be requested of an open deployment in flight. -/
theorem Action.requestCancel_succeeds {a : Action} (inFlight : a.isInFlight = true)
    (isOpen : a.isClosed = false) (id : Nat) (now : Instant) :
    ∃ done, a.requestCancel id now = .ok done := by
  obtain ⟨-, deploys, free⟩ := Action.isInFlight_iff.mp inFlight
  -- Neither check of the request applies to it.
  simp [Action.requestCancel, Action.ensureOpen, isOpen, deploys, free, bind, Except.bind, pure,
    Except.pure]

namespace Deployments

variable {settings : Settings} {s s' s'' : Store} {a : Action} {now : Instant}

section Sets

/-- Distribution sets stand under numbers that have been drawn. -/
def Shelved (s : Store) : Prop :=
  ∀ ⦃id : Nat⦄ ⦃d : DistributionSet⦄, s.sets.get? id = some d →
    id < s.nextNumber "distribution_set"

/-- All distribution sets are still there, and none stands under a number that is still to come. -/
structure Stocks (s s' : Store) : Prop where
  kept : ∀ {id : Nat} {d : DistributionSet}, s.sets.get? id = some d → s'.sets.get? id = some d
  shelved : Shelved s'

/-- Nothing is stored at the start. -/
theorem shelved_empty : Shelved .empty := by
  intro id d found
  simp [Store.empty] at found

theorem Stocks.refl (shelved : Shelved s) : Stocks s s :=
  ⟨id, shelved⟩

theorem Stocks.trans (first : Stocks s s') (second : Stocks s' s'') : Stocks s s'' :=
  ⟨fun found => second.kept (first.kept found), second.shelved⟩

/-- What leaves the sets and their sequence alone loses no set. -/
theorem Stocks.of_eq (shelved : Shelved s) (sets : s'.sets = s.sets)
    (next : s'.nextNumber "distribution_set" = s.nextNumber "distribution_set") : Stocks s s' := by
  constructor
  · intro id d found
    rw [sets]
    exact found
  · intro id d found
    rw [sets] at found
    rw [next]
    exact shelved found

/-- A tenant finds a set as long as it is kept. -/
theorem Stocks.known (stocks : Stocks s s') {tenant : String} {id : Nat}
    (known : (s.set? tenant id).isSome = true) : (s'.set? tenant id).isSome = true := by
  obtain ⟨d, found⟩ := Option.isSome_iff_exists.mp known
  obtain ⟨stored, owner⟩ := Option.filter_eq_some_iff.mp found
  exact Option.isSome_iff_exists.mpr
    ⟨d, Option.filter_eq_some_iff.mpr ⟨stocks.kept stored, owner⟩⟩

/-- A new set takes the next number and replaces none. -/
theorem Stocks.published (shelved : Shelved s) {d : DistributionSet}
    (new : d.id = s.nextNumber "distribution_set") :
    Stocks s ((s.advance "distribution_set").putSet d) := by
  -- The new set takes the next number, and no set before it has had that one.
  have found (id : Nat) : ((s.advance "distribution_set").putSet d).sets.get? id =
      if id = d.id then some d else s.sets.get? id := Table.get?_insert s.sets d.id id d
  have next : ((s.advance "distribution_set").putSet d).nextNumber "distribution_set" =
      s.nextNumber "distribution_set" + 1 := Store.nextNumber_advance s _ _
  constructor
  -- An old set keeps its number, which is below the new one.
  · intro id old here
    have below := shelved here
    rw [found, if_neg (by omega)]
    exact here
  · intro id old here
    -- A set under any number is either the new one or an old one.
    rw [found] at here
    rw [next]
    split at here
    · omega
    · have below := shelved here
      omega

/-- No step loses a distribution set. -/
theorem Step.stocks (step : Step settings s s') (shelved : Shelved s) : Stocks s s' := by
  -- Drawing the number of an action leaves the sequence of the sets alone.
  have drawn : (s.advance sequence).nextNumber "distribution_set" =
      s.nextNumber "distribution_set" :=
    (Store.nextNumber_advance s sequence _).trans (by simp [sequence])
  cases step with
  | published d new => exact .published shelved new
  | requested => exact .of_eq shelved rfl drawn
  | deployed => exact .of_eq shelved rfl drawn
  | registered => exact .of_eq shelved rfl rfl
  | polled => exact .of_eq shelved rfl rfl
  | described => exact .of_eq shelved rfl rfl
  | progressed => exact .of_eq shelved rfl rfl
  | closed => exact .of_eq shelved rfl rfl
  | superseded => exact .of_eq shelved rfl rfl
  | confirmed => exact .of_eq shelved rfl rfl

/-- No run of steps loses a distribution set. -/
theorem Steps.stocks (steps : Steps settings s s') (shelved : Shelved s) : Stocks s s' := by
  induction steps with
  | refl => exact .refl shelved
  | tail _ step ih => exact ih.trans (step.stocks ih.shelved)

/-- The refusal of a cancellation loses no distribution set. -/
theorem Resumption.stocks {cancel subject : Action} (resumption : Resumption cancel subject s s')
    (shelved : Shelved s) : Stocks s s' := by
  cases resumption with | resumed now pending =>
  exact .of_eq shelved rfl rfl

end Sets

/-- Every run of steps keeps deployments and their cancellations together. -/
theorem Steps.paired (steps : Steps settings s s') (indexed : Indexed s) (paired : Paired s) :
    Paired s' := by
  induction steps with
  | refl => exact paired
  | tail before step ih =>
    have between : Indexed _ := Steps.indexed before indexed
    exact step.paired between ih

section Success

/-- The cancellation of an open deployment in flight does not fail, in whatever state. -/
theorem cancelIn_succeeds (inFlight : a.isInFlight = true) (isOpen : a.isClosed = false)
    (now : Instant) (s : Store) : ∃ cancel s', cancelIn a now s = .ok (cancel, s') := by
  obtain ⟨⟨step, cancel⟩, requested⟩ :=
    Action.requestCancel_succeeds inFlight isOpen (s.nextNumber sequence) now
  simp only [cancelIn, Transaction.draw_bind_apply, Transaction.lift_bind_eq_ok]
  exact ⟨cancel, _, (step, cancel), requested, rfl⟩

/-- The cancellations of open deployments in flight do not fail. -/
theorem mapM_cancelIn_succeeds {subjects : List Action}
    (each : ∀ a ∈ subjects, a.isInFlight = true ∧ a.isClosed = false) (now : Instant)
    (s : Store) : ∃ cancels s', (subjects.mapM fun a => cancelIn a now) s = .ok (cancels, s') := by
  induction subjects generalizing s with
  | nil => exact ⟨[], s, rfl⟩
  | cons subject rest ih =>
    obtain ⟨inFlight, isOpen⟩ := each subject List.mem_cons_self
    obtain ⟨cancel, s₁, first⟩ := cancelIn_succeeds inFlight isOpen now s
    -- Whether the others succeed does not depend on the state that the first one leaves.
    obtain ⟨cancels, s₂, others⟩ := ih (fun a member => each a (List.mem_cons_of_mem _ member)) s₁
    refine ⟨cancel :: cancels, s₂, ?_⟩
    simp only [List.mapM_cons, Transaction.bind_eq_ok]
    exact ⟨cancel, s₁, first, cancels, s₂, others, rfl⟩

/-- A valid request for a known target and a known set is accepted. -/
theorem assignIn_succeeds (indexed : Indexed s) (paired : Paired s) {own : TenantSettings}
    {tenant controller : String} {q : AssignmentRequest} {weight : Option Nat}
    (valid : q.validate own now = .ok weight)
    (registered : (s.target? tenant controller).isSome = true)
    (known : (s.set? tenant q.distributionSet).isSome = true) (rollout : Option Membership) :
    ∃ assigned s', assignIn own tenant controller q rollout now s = .ok (assigned, s') := by
  obtain ⟨t, foundTarget⟩ := Option.isSome_iff_exists.mp registered
  obtain ⟨d, foundSet⟩ := Option.isSome_iff_exists.mp known
  -- What is replaced is stored and in flight, so that it can be cancelled.
  have each (a : Action) (member : a ∈ replaced own (s.actionsOf tenant controller)) :
      a.isInFlight = true ∧ a.isClosed = false := by
    obtain ⟨listed, inFlight⟩ := mem_replaced member
    have stored := (indexed.mem_actionsOf.mp listed).1
    have active := (Action.isInFlight_iff.mp inFlight).1
    exact ⟨inFlight, paired.open_of_active stored active⟩
  obtain ⟨cancels, s₁, requests⟩ := mapM_cancelIn_succeeds each now s
  simp only [assignIn, Transaction.lift_bind_eq_ok, Transaction.read_bind_apply,
    Transaction.orElse_bind_eq_ok]
  -- A deployment of the set that is in flight is the answer, and otherwise the requests come first.
  cases current : inFlight? (s.actionsOf tenant controller) q.distributionSet with
  | some a => exact ⟨_, _, weight, valid, t, foundTarget, d, foundSet, rfl⟩
  | none =>
    exact ⟨_, _, weight, valid, t, foundTarget, d, foundSet,
      Transaction.bind_eq_ok.mpr ⟨cancels, s₁, requests, rfl⟩⟩

end Success

end Deployments

end DeviceUpdate
