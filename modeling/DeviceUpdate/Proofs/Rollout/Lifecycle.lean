import DeviceUpdate.Proofs.Rollout.Placement

/-! What administrators do with rollouts, as steps. -/

namespace DeviceUpdate.Rollouts

variable {s s' : Store} {tenant : String} {id : Nat} {now : Instant}

/-- A rollout moves exactly if it is stored with one of the expected statuses. -/
theorem moveRollout_cases (s : Store) (id : Nat) (expected : List RolloutStatus)
    (status : RolloutStatus) :
    s.moveRollout id expected status = (false, s) ∨
      ∃ r, s.rollouts.get? id = some r ∧ r.status ∈ expected ∧
        s.moveRollout id expected status = (true, s.putRollout { r with status := status }) := by
  cases found : s.rollouts.get? id with
  | none => exact Or.inl (by simp [Store.moveRollout, found])
  | some r =>
    -- The move looks at the stored status and at nothing else.
    by_cases allowed : r.status ∈ expected
    · exact Or.inr ⟨r, rfl, allowed, by simp [Store.moveRollout, found, allowed]⟩
    · exact Or.inl (by simp [Store.moveRollout, found, allowed])

/-- A group moves exactly if it is stored with one of the expected statuses. -/
theorem moveGroup_cases (s : Store) (id : Nat) (expected : List GroupStatus)
    (status : GroupStatus) :
    s.moveGroup id expected status = (false, s) ∨
      ∃ g, s.groups.get? id = some g ∧ g.status ∈ expected ∧
        s.moveGroup id expected status = (true, s.putGroup { g with status := status }) := by
  -- A group that is missing or has another status is not moved.
  cases found : s.groups.get? id with
  | none => exact Or.inl (by simp [Store.moveGroup, found])
  | some g =>
    by_cases allowed : g.status ∈ expected
    · exact Or.inr ⟨g, rfl, allowed, by simp [Store.moveGroup, found, allowed]⟩
    · exact Or.inl (by simp [Store.moveGroup, found, allowed])

/-- A rollout is planned only for a request that is valid. -/
theorem planned_valid {settings : TenantSettings} {q : Request} {plan : List (List String) × Nat}
    (done : planned settings tenant q s = .ok plan) : q.validate = .ok () := by
  -- The request is checked before anything is looked up.
  unfold planned at done
  cases valid : q.validate with
  | ok u => rfl
  | error e =>
    rw [valid] at done
    cases done

/-- Groups are stored one after another. -/
theorem storeGroups_eq_ok {q : Request} {rollout position : Nat} {parent : Option Nat}
    {members : List (List String)} {groups : List RolloutGroup}
    (done : storeGroups q rollout position parent members s = .ok (groups, s')) :
    s' = Store.layGroups q rollout position parent members s := by
  induction members generalizing position parent s groups with
  | nil =>
    simp only [storeGroups, Transaction.pure_apply] at done
    exact (Transaction.state_eq done).symm
  | cons names rest ih =>
    simp only [storeGroups, Transaction.draw_bind_apply, Transaction.change_bind_apply] at done
    -- The first group is stored, and the rest go on from there.
    obtain ⟨more, s₁, others, last⟩ := Transaction.bind_eq_ok.mp done
    have result := Transaction.state_eq last
    rw [result] at others
    exact ih others

/-- A rollout that has been planned is stored with its groups. -/
theorem storePlanned_eq_ok {q : Request} {members : List (List String)} {total : Nat}
    {detail : Detail}
    (done : storePlanned tenant q members total now s = .ok (detail, s')) :
    s' = s.plant tenant q members total now := by
  simp only [storePlanned, Transaction.draw_bind_apply, Transaction.change_bind_apply] at done
  obtain ⟨groups, s₁, stored, rest⟩ := Transaction.bind_eq_ok.mp done
  have laid := storeGroups_eq_ok stored
  -- The rollout is found as it was stored, and so it is made ready.
  have found : s₁.rollouts.get? (s.nextNumber sequence) =
      some (rolloutOf q (s.nextNumber sequence) tenant total members.length now) := by
    rw [laid, Store.layGroups_frame]
    exact (Table.get?_insert _ _ _ _).trans (if_pos rfl)
  have ready : s₁.moveRollout (s.nextNumber sequence) [.creating] .ready =
      (true, s₁.putRollout { rolloutOf q (s.nextNumber sequence) tenant total members.length now
        with status := .ready }) := by
    simp only [Store.moveRollout, found]
    rfl
  -- Only this last move makes the rollout ready.
  simp only [Transaction.moveRollout_bind_apply, Transaction.pure_apply] at rest
  have result := Transaction.state_eq rest
  have moved : (s₁.moveRollout (s.nextNumber sequence) [.creating] .ready).2 = s' := result
  rw [← moved, ready, laid]
  rfl

/-- The rollout that is found for a tenant is stored. -/
theorem find_bind_eq_ok {β : Type} {f : Rollout → Transaction Error β} {r : β × Store}
    (done : (find tenant id >>= f) s = .ok r) :
    ∃ rollout, s.rollouts.get? id = some rollout ∧ rollout.tenant = tenant ∧
      f rollout s = .ok r := by
  simp only [find, bind_assoc, Transaction.read_bind_apply, Transaction.orElse_bind_eq_ok] at done
  obtain ⟨rollout, found, rest⟩ := done
  obtain ⟨stored, owner⟩ := Option.filter_eq_some_iff.mp found
  exact ⟨rollout, stored, by simpa using owner, rest⟩

/-- A transition moves a rollout of the tenant from one of the expected statuses. -/
theorem transition_eq_ok {expected : List RolloutStatus} {status : RolloutStatus}
    {operation : Operation} {moved : Rollout}
    (done : transition tenant id expected status operation s = .ok (moved, s')) :
    ∃ r, s.rollouts.get? id = some r ∧ r.tenant = tenant ∧ r.status ∈ expected ∧
      s' = s.putRollout { r with status := status } := by
  obtain ⟨rollout, stored, owner, rest⟩ := find_bind_eq_ok done
  -- A move that is not allowed is an error, and then nothing has been done.
  simp only [Transaction.moveRollout_bind_apply] at rest
  rcases moveRollout_cases s id expected status with stays | ⟨r, found, allowed, moves⟩
  · rw [stays] at rest
    cases rest
  · rw [moves] at rest
    simp only [↓reduceIte, Transaction.pure_apply] at rest
    -- The rollout that moves is the one that was found for the tenant.
    have same : r = rollout := Option.some.inj (found.symm.trans stored)
    have result := Transaction.state_eq rest
    exact ⟨r, found, by rw [same]; exact owner, allowed, result.symm⟩

/-- A transition is one of the moves of administrators, where it expects what they do. -/
theorem transition_moves (placed : Placed s) {expected : List RolloutStatus}
    {status : RolloutStatus} {operation : Operation} {moved : Rollout}
    (allowed : ∀ old ∈ expected, Moves old status)
    (done : transition tenant id expected status operation s = .ok (moved, s')) :
    ∃ r, s.rollouts.get? r.id = some r ∧ Moves r.status status ∧
      s' = s.putRollout { r with status := status } := by
  obtain ⟨r, stored, -, old, same⟩ := transition_eq_ok done
  exact ⟨r, by rw [placed.own stored]; exact stored, allowed r.status old, same⟩

/-- A rollout that is marked is removed, and nothing else is. -/
theorem purge_eq_ok {ε : Type} (placed : Placed s) {flag : Bool}
    (done : (purge id : Transaction ε Bool) s = .ok (flag, s')) :
    s' = s ∨ ∃ r, s.rollouts.get? r.id = some r ∧ r.status = .deleting ∧
      s' = (s.removeRollout r.id).2 := by
  simp only [purge, Transaction.read_bind_apply] at done
  -- A rollout that has gone already leaves nothing to do.
  cases found : s.rollouts.get? id with
  | none =>
    simp only [found, Transaction.pure_apply] at done
    exact Or.inl (Transaction.state_eq done).symm
  | some r =>
    simp only [found] at done
    split at done
    -- The mark is still there, so the rollout goes with its groups.
    · rename_i deleting
      have own := placed.own found
      rw [Transaction.removeRollout_apply, ← own] at done
      have result : (s.removeRollout r.id).2 = s' := congrArg Prod.snd (Except.ok.inj done)
      exact Or.inr ⟨r, by rw [own]; exact found, deleting, result.symm⟩
    · exact Or.inl (Transaction.state_eq done).symm

/-- Where a rollout starts, it was ready. -/
theorem startIn_eq_ok {ε : Type} (placed : Placed s) {flag : Bool}
    (done : (startIn id : Transaction ε Bool) s = .ok (flag, s')) : s' = s ∨ Start id s s' := by
  simp only [startIn, Transaction.moveRollout_bind_apply] at done
  -- A rollout that is not ready any more is left as it is.
  rcases moveRollout_cases s id [.ready] .running with stays | ⟨r, found, allowed, moves⟩
  · rw [stays] at done
    exact Or.inl (Transaction.state_eq done).symm
  · rw [moves] at done
    have ready : r.status = .ready := List.mem_singleton.mp allowed
    have result := Transaction.state_eq done
    rw [← result]
    exact Or.inr (.started s r found (placed.own found) ready)

/-- A rollout is started by an administrator only if it was ready. -/
theorem start_eq_ok (placed : Placed s) {started : Rollout}
    (done : start tenant id s = .ok (started, s')) : s' = s ∨ Start id s s' := by
  obtain ⟨rollout, -, -, rest⟩ := find_bind_eq_ok done
  obtain ⟨flag, s₁, first, last⟩ := Transaction.bind_eq_ok.mp rest
  -- A rollout that was not ready refuses the start.
  cases flag with
  | false => cases last
  | true =>
    have result := Transaction.state_eq last
    rw [← result]
    exact startIn_eq_ok placed first

/-- Only a running rollout fails, and only for a condition that cannot be read. -/
theorem onFailure_cases (placed : Placed s) (e : Error) :
    onFailure id e s = s ∨ (∃ expression fault, e = .invalidCondition expression fault) ∧
      Failure id s (onFailure id e s) := by
  -- Other failures are left for the next tick.
  cases e with
  | invalidCondition expression fault =>
    rcases moveRollout_cases s id [.running] .error with stays | ⟨r, found, allowed, moves⟩
    · exact Or.inl (by simp [onFailure, stays])
    · have running : r.status = .running := List.mem_singleton.mp allowed
      rw [onFailure, moves]
      exact Or.inr ⟨⟨expression, fault, rfl⟩, .failed s r found (placed.own found) running⟩
  | _ => exact Or.inl rfl

end DeviceUpdate.Rollouts
