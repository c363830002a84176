import DeviceUpdate.Proofs.Deployment.Cancellation

/-! What administrators and polls do, as steps: new targets and sets, attributes, assignments. -/

namespace DeviceUpdate.Deployments

variable {settings : Settings} {s s' : Store} {tenant controller : String} {now : Instant}

section Records

/-- A target is created only where none stands under its key, and stored as it is given back. -/
theorem createTarget_eq_ok {attributes : Table String String} {t : Target}
    (done : createTarget tenant controller attributes now s = .ok (t, s')) :
    s.target? tenant controller = none ∧
      t = { Target.new tenant controller "system" now with attributes := attributes } ∧
      s' = s.putTarget t := by
  simp only [createTarget, Transaction.read_bind_apply] at done
  -- A target that is known already is not created again.
  cases known : s.target? tenant controller with
  | some other => simp [known] at done
  | none =>
    simp only [known, Option.isSome_none, Bool.false_eq_true, ↓reduceIte,
      Transaction.change_bind_apply, Transaction.pure_apply] at done
    obtain ⟨same, result⟩ := Prod.mk.inj (Except.ok.inj done)
    subst same
    exact ⟨rfl, rfl, result.symm⟩

/-- A target that is created was not there before. -/
theorem createTarget_step {attributes : Table String String} {t : Target}
    (done : createTarget tenant controller attributes now s = .ok (t, s')) :
    Step settings s s' := by
  obtain ⟨absent, same, stored⟩ := createTarget_eq_ok done
  rw [stored, same]
  exact .registered s tenant controller attributes now absent

/-- Attributes are taken for the target under a key, which is stored as it is given back. -/
theorem updateAttributes_eq_ok {r : AttributeReport} {t : Target}
    (done : updateAttributes tenant controller r now s = .ok (t, s')) :
    ∃ known, s.target? tenant controller = some known ∧ t = known.described r now ∧
      s' = s.putTarget t := by
  simp only [updateAttributes, Transaction.read_bind_apply, Transaction.orElse_bind_eq_ok,
    Transaction.change_bind_apply, Transaction.pure_apply] at done
  -- The record that is stored is the one that was looked up, with the report in it.
  obtain ⟨known, found, rest⟩ := done
  obtain ⟨same, result⟩ := Prod.mk.inj (Except.ok.inj rest)
  subst same
  exact ⟨known, found, rfl, result.symm⟩

/-- Attributes are taken for a target that is known. -/
theorem updateAttributes_step {r : AttributeReport} {t : Target}
    (done : updateAttributes tenant controller r now s = .ok (t, s')) : Step settings s s' := by
  -- The attributes are combined with those of the stored target.
  obtain ⟨known, found, same, stored⟩ := updateAttributes_eq_ok done
  rw [stored, same]
  exact .described s tenant controller known r now found

/-- A distribution set is stored under the next number, and nothing else is. -/
theorem createSet_eq_ok {ε : Type} {name version : String} {modules : List SoftwareModule}
    {d : DistributionSet}
    (done : (createSet tenant name version modules now : Transaction ε _) s = .ok (d, s')) :
    d.id = s.nextNumber "distribution_set" ∧ s' = (s.advance "distribution_set").putSet d := by
  simp only [createSet, Transaction.draw_bind_apply, Transaction.change_bind_apply,
    Transaction.pure_apply] at done
  -- The number is drawn before the record, and only the record is put into the store.
  obtain ⟨same, result⟩ := Prod.mk.inj (Except.ok.inj done)
  subst same
  exact ⟨rfl, result.symm⟩

/-- A distribution set is stored in a step. -/
theorem createSet_step {ε : Type} {name version : String} {modules : List SoftwareModule}
    {d : DistributionSet}
    (done : (createSet tenant name version modules now : Transaction ε _) s = .ok (d, s')) :
    Step settings s s' := by
  obtain ⟨new, stored⟩ := createSet_eq_ok done
  rw [stored]
  exact .published s d new

/-- A poll is noted on the target. -/
theorem touch_step (settings : Settings) (s : Store) (tenant controller : String)
    (address : Option String) (now : Instant) :
    Step settings s (Device.touch s tenant controller address now).2 :=
  .polled s tenant controller address now

end Records

section Assignments

/-- What is replaced is in flight and listed for the target. -/
theorem mem_replaced {settings : TenantSettings} {actions : List Action} {a : Action}
    (member : a ∈ replaced settings actions) : a ∈ actions ∧ a.isInFlight = true := by
  unfold replaced at member
  split at member
  · cases member
  · exact List.mem_filter.mp member

/-- What is replaced comes in the order of the numbers. -/
theorem replaced_pairwise (settings : TenantSettings) {actions : List Action}
    (ascending : actions.Pairwise fun a b => a.id < b.id) :
    (replaced settings actions).Pairwise fun a b => a.id < b.id := by
  unfold replaced
  split
  · exact .nil
  · exact ascending.filter _

/-- What an assignment that is accepted comes to: its result, and the store after it. -/
inductive Assigns (own : TenantSettings) (tenant controller : String) (q : AssignmentRequest)
    (rollout : Option Membership) (now : Instant) (s : Store) : Assigned → Store → Prop
  /-- A deployment of the same set is in flight, and nothing is written. -/
  | already (a : Action)
      (current : inFlight? (s.actionsOf tenant controller) q.distributionSet = some a) :
    Assigns own tenant controller q rollout now s (.already a.id) s
  /-- What is replaced is cancelled, and then a new deployment is stored. -/
  | new (t : Target) (weight : Option Nat) (cancels : List Nat) (between : Store)
      (valid : q.validate own now = .ok weight)
      (found : s.target? tenant controller = some t)
      (known : (s.set? tenant q.distributionSet).isSome = true)
      (free : inFlight? (s.actionsOf tenant controller) q.distributionSet = none)
      (replaces : between = s.requestCancels (replaced own (s.actionsOf tenant controller)) now) :
    Assigns own tenant controller q rollout now s
      (.new (newAction (between.nextNumber sequence) tenant controller (q.deployment weight)
        rollout now) cancels)
      (between.deploy t tenant controller (q.deployment weight) rollout now)

/-- An assignment is accepted only for a valid request, a known target and a known set. -/
theorem assignIn_eq_ok {own : TenantSettings} {q : AssignmentRequest}
    {rollout : Option Membership} {assigned : Assigned}
    (done : assignIn own tenant controller q rollout now s = .ok (assigned, s')) :
    Assigns own tenant controller q rollout now s assigned s' := by
  simp only [assignIn, Transaction.lift_bind_eq_ok, Transaction.read_bind_apply,
    Transaction.orElse_bind_eq_ok] at done
  obtain ⟨weight, valid, t, found, d, known, rest⟩ := done
  -- A deployment of the set that is in flight is answered instead of a new one.
  cases current : inFlight? (s.actionsOf tenant controller) q.distributionSet with
  | some a =>
    simp only [current, Transaction.pure_apply] at rest
    obtain ⟨given, result⟩ := Prod.mk.inj (Except.ok.inj rest)
    subst given result
    exact .already a current
  | none =>
    simp only [current] at rest
    -- The cancellations come first, then the number, the record, the target and the log.
    obtain ⟨cancels, s₁, requests, rest⟩ := Transaction.bind_eq_ok.mp rest
    simp only [Transaction.draw_bind_apply, Transaction.change_bind_apply,
      Transaction.note_bind_apply, Transaction.pure_apply] at rest
    obtain ⟨given, result⟩ := Prod.mk.inj (Except.ok.inj rest)
    subst given result
    exact .new t weight _ s₁ valid found (by simp [known]) current (mapM_cancelIn_eq_ok requests)

/-- All that a new deployment replaces is cancelled, and all of it is listed for the target. -/
theorem Indexed.replaced_requests (indexed : Indexed s) (own : TenantSettings)
    (tenant controller : String) (now : Instant) :
    Requests (· ∈ s.actionsOf tenant controller) now s
      (s.requestCancels (replaced own (s.actionsOf tenant controller)) now) := by
  -- What is replaced is listed, so it is stored, and each action comes once.
  refine requestCancels_requests indexed
    (replaced_pairwise own (indexed.actionsOf_pairwise tenant controller)) (fun a member => ?_)
    (fun a member => (mem_replaced member).1) now
  obtain ⟨listed, inFlight⟩ := mem_replaced member
  exact ⟨(indexed.mem_actionsOf.mp listed).1, inFlight⟩

/-- Where a target may have one deployment only, none is left in flight by the requests. -/
theorem Indexed.replaced_alone (indexed : Indexed s) {own : TenantSettings}
    -- An action still in flight after the requests has not been one of those to replace.
    (single : own.multiAssignments = false) (tenant controller : String) (now : Instant)
    {a : Action} (listed : a ∈ (s.requestCancels
      (replaced own (s.actionsOf tenant controller)) now).actionsOf tenant controller) :
    a.isInFlight = false := by
  have after := (indexed.replaced_requests own tenant controller now).indexed indexed
  obtain ⟨stored, key⟩ := after.mem_actionsOf.mp listed
  cases inFlight : a.isInFlight with
  | false => rfl
  | true =>
    -- In single mode everything in flight is replaced.
    obtain ⟨before, notReplaced⟩ := inFlight_requestCancels stored inFlight
    refine absurd ?_ notReplaced
    simp only [replaced, single, Bool.false_eq_true, ↓reduceIte, List.mem_filter]
    exact ⟨indexed.mem_actionsOf.mpr ⟨before, key⟩, inFlight⟩

/-- An assignment is a run of steps. -/
theorem Assigns.steps {q : AssignmentRequest} {rollout : Option Membership} {assigned : Assigned}
    (assigns : Assigns (settings.tenant tenant) tenant controller q rollout now s assigned s')
    (indexed : Indexed s) : Steps settings s s' := by
  -- The requests are steps of their own, and the deployment is one more behind them.
  cases assigns with
  | already a current => exact Relation.ReflTransGen.refl
  | new t weight cancels between valid found known free replaces =>
    have requests : Steps settings s between := by
      rw [replaces]
      exact (indexed.replaced_requests (settings.tenant tenant) tenant controller now).steps
    -- The requests leave the target and the set as they were found.
    obtain ⟨targets, sets⟩ := requestCancels_frame s
      (replaced (settings.tenant tenant) (s.actionsOf tenant controller)) now
    rw [← replaces] at targets sets
    refine requests.tail (.deployed _ tenant controller t (q.deployment weight) rollout now ?_ ?_ ?_
      (AssignmentRequest.legible valid))
    · rw [Store.target?, targets]
      exact found
    · rw [Store.set?, sets]
      exact known
    · intro single a listed
      rw [replaces] at listed
      exact indexed.replaced_alone single tenant controller now listed

end Assignments

end DeviceUpdate.Deployments
