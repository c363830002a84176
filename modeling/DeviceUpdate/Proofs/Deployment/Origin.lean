import DeviceUpdate.Proofs.Deployment.Administration
import DeviceUpdate.Proofs.Deployment.Reporting

/-! Deployments on behalf of groups: only an assignment for a group makes one. -/

namespace DeviceUpdate.Deployments

/-- A deployment on behalf of a group of a rollout. -/
structure Serves (a : Action) (m : Membership) : Prop where
  deploys : a.isCancel = false
  member : a.rollout = some m

/-- Every deployment on behalf of a group was there before, perhaps in another state. -/
structure Inherits (s s' : Store) : Prop where
  origin : ∀ {id : Nat} {b : Action} {m : Membership}, s'.actions.get? id = some b → Serves b m →
    ∃ a status active now, s.actions.get? id = some a ∧ b = a.moved status active now

variable {settings : Settings} {s s' s'' : Store} {a cancel subject : Action} {now : Instant}

/-- What is found as it was comes from before. -/
theorem Inherits.of_found (found : ∀ id, s'.actions.get? id = s.actions.get? id) :
    Inherits s s' where
  origin {id b _} stored _ :=
    ⟨b, b.status, b.active, b.modifiedAt, (found id).symm.trans stored, rfl⟩

theorem Inherits.refl (s : Store) : Inherits s s :=
  .of_found fun _ => rfl

theorem Inherits.trans (first : Inherits s s') (second : Inherits s' s'') : Inherits s s'' where
  origin stored serves := by
    obtain ⟨b, status, active, now, between, rfl⟩ := second.origin stored serves
    obtain ⟨a, _, _, _, before, rfl⟩ := first.origin between ⟨serves.deploys, serves.member⟩
    exact ⟨a, status, active, now, before, rfl⟩

/-- A stored action may move, and a new one that serves no group may be stored besides. -/
theorem Inherits.of_cases (cases : ∀ id b, s'.actions.get? id = some b →
    (∃ a status active now, s.actions.get? id = some a ∧ b = a.moved status active now) ∨
      ∀ m, ¬ Serves b m) : Inherits s s' where
  origin {id b m} stored serves :=
    (cases id b stored).resolve_right fun never => never m serves

/-- A request for a cancellation makes no deployment. -/
theorem Inherits.requestCancel (stored : s.actions.get? a.id = some a) (now : Instant) :
    Inherits s (s.requestCancel a now) := by
  refine .of_cases fun id b found => ?_
  rw [Store.get?_requestCancel] at found
  split at found
  -- The new action cancels.
  · refine Or.inr fun m serves => ?_
    have deploys := serves.deploys
    rw [← Option.some.inj found] at deploys
    cases deploys
  -- The subject has moved, and all others are as they were.
  · split at found
    · rename_i here
      rw [here]
      exact Or.inl ⟨a, .canceling, true, now, stored, (Option.some.inj found).symm⟩
    · exact Or.inl ⟨b, b.status, b.active, b.modifiedAt, found, rfl⟩

/-- Requests for cancellations make no deployments. -/
theorem Requests.inherits {test : Action → Prop} (requests : Requests test now s s') :
    Inherits s s' := by
  induction requests with
  | refl => exact .refl s
  | tail _ request ih =>
    obtain ⟨subject, stored, -, -, same⟩ := request
    rw [same]
    exact ih.trans (.requestCancel stored now)

/-- An assignment on behalf of nobody makes no deployment for a group. -/
theorem Assigns.inherits {own : TenantSettings} {tenant controller : String}
    {q : AssignmentRequest} {assigned : Assigned}
    (assigns : Assigns own tenant controller q none now s assigned s') (indexed : Indexed s) :
    Inherits s s' := by
  cases assigns with
  -- The existing deployment is left as it is, with the group that it serves.
  | already a current => exact .refl s
  | new t weight cancels between valid found known free replaces =>
    have requests : Inherits s between := by
      rw [replaces]
      exact (indexed.replaced_requests own tenant controller now).inherits
    refine requests.trans (.of_cases fun id b stored => ?_)
    rw [Store.get?_deploy] at stored
    split at stored
    -- The new deployment names no group.
    · refine Or.inr fun m serves => ?_
      have member := serves.member
      rw [← Option.some.inj stored] at member
      cases member
    · exact Or.inl ⟨b, b.status, b.active, b.modifiedAt, stored, rfl⟩

/-- A stored action may move, and stays what it is. -/
theorem Inherits.of_move {status : Status} {active : Bool} (stored : s.actions.get? a.id = some a)
    (found : ∀ id, s'.actions.get? id =
      if id = a.id then some (a.moved status active now) else s.actions.get? id) :
    Inherits s s' := by
  -- A move changes neither the tenant of an action nor the group that it serves.
  refine .of_cases fun id b here => Or.inl ?_
  rw [found] at here
  split at here
  · rename_i same
    rw [same]
    exact ⟨a, _, _, _, stored, (Option.some.inj here).symm⟩
  · exact ⟨b, b.status, b.active, b.modifiedAt, here, rfl⟩

/-- Two stored actions may move, and stay what they are. -/
theorem Inherits.of_moves {first second : Action} {status other : Status} {active running : Bool}
    (storedFirst : s.actions.get? first.id = some first)
    (storedSecond : s.actions.get? second.id = some second)
    (found : ∀ id, s'.actions.get? id = if id = second.id then some (second.moved other running now)
      else if id = first.id then some (first.moved status active now) else s.actions.get? id) :
    Inherits s s' := by
  -- Both moved actions keep what they serve, and so does any other.
  refine .of_cases fun id b stored => Or.inl ?_
  rw [found] at stored
  split at stored
  · rename_i here
    rw [here]
    exact ⟨second, _, _, _, storedSecond, (Option.some.inj stored).symm⟩
  · split at stored
    · rename_i here
      rw [here]
      exact ⟨first, _, _, _, storedFirst, (Option.some.inj stored).symm⟩
    · exact ⟨b, b.status, b.active, b.modifiedAt, stored, rfl⟩

/-- The end of a deployment makes none. -/
theorem Inherits.close (stored : s.actions.get? a.id = some a) (set : Nat) (t : Target)
    (f : Feedback) (now : Instant) : Inherits s (s.close a set t f now) :=
  .of_move stored (Store.get?_close s a set t f now)

/-- A report makes no deployment. -/
theorem Reporting.inherits {f : Feedback} (reporting : Reporting a f now s s')
    (stored : s.actions.get? a.id = some a) : Inherits s s' := by
  cases reporting with
  | progressed step going reported =>
    refine .of_cases fun id b found => Or.inl ?_
    rw [Store.get?_record] at found
    split at found
    · rename_i here
      rw [← Option.some.inj found, here]
      -- Whatever the report does, the action stays what it is.
      rcases Action.report_moved reported with stays | ⟨status, active, moved⟩
      · rw [stays]
        exact ⟨a, a.status, a.active, a.modifiedAt, stored, rfl⟩
      · rw [moved]
        exact ⟨a, status, active, now, stored, rfl⟩
    · exact ⟨b, b.status, b.active, b.modifiedAt, found, rfl⟩
  | closed d t deploys closing inFlight found => exact .close stored _ t f now
  | superseded cancel d t pending deploys closing found =>
    -- The deployment closes first, which leaves its cancellation where it was.
    have closes : Inherits s (s.close a d.distributionSet t f now) := .close stored _ t f now
    have kept : (s.close a d.distributionSet t f now).actions.get? cancel.id = some cancel := by
      rw [Store.get?_close, if_neg pending.id_ne]
      exact pending.cancelStored
    exact closes.trans (.of_move kept (Store.get?_supersede _ cancel now a.id))
  | confirmed subject t pending closing found =>
    -- The cancellation and what it cancels close together.
    exact .of_moves pending.cancelStored pending.subjectStored
      (Store.get?_confirm s subject a t f now)

/-- The refusal of a cancellation makes no deployment. -/
theorem Resumption.inherits (resumption : Resumption cancel subject s s') : Inherits s s' := by
  cases resumption with | resumed now pending =>
  exact .of_moves pending.cancelStored pending.subjectStored
    (Store.get?_resume s subject cancel now)

end DeviceUpdate.Deployments
