import DeviceUpdate.Proofs.Rollout.Step

/-! Conditions that can be read, and what follows for the evaluation of rollouts. -/

namespace DeviceUpdate

namespace Rollouts

/-- A condition that can be read. -/
def Legible (c : Threshold) : Prop :=
  ∃ percent, percentage c = .ok percent

/-- Both conditions of a group can be read. -/
structure LegibleGroup (g : RolloutGroup) : Prop where
  success : Legible g.success
  failure : ∀ {c : Threshold}, g.failure = some c → Legible c

/-- The conditions of all stored groups can be read. -/
def Readable (s : Store) : Prop :=
  ∀ ⦃id : Nat⦄ ⦃g : RolloutGroup⦄, s.groups.get? id = some g → LegibleGroup g

section Request

variable {q : Request}

/-- Where a check of all values succeeds, it accepts each of them. -/
theorem mapM_accepts {α β ε : Type} {f : α → Except ε β} {l : List α} {results : List β}
    (done : l.mapM f = .ok results) {a : α} (member : a ∈ l) : ∃ b, f a = .ok b := by
  induction l generalizing results with
  -- An error at one place would be the outcome of the whole list.
  | nil => cases member
  | cons first rest ih =>
    rw [List.mapM_cons] at done
    cases checked : f first with
    | error e =>
      rw [checked] at done
      cases done
    | ok b =>
      cases others : rest.mapM f with
      | error e =>
        rw [checked, others] at done
        cases done
      | ok more =>
        rcases List.mem_cons.mp member with rfl | member
        · exact ⟨b, checked⟩
        · exact ih others member

/-- The conditions of a valid request can be read. -/
theorem conditions_legible (valid : q.validate = .ok ()) {c : Threshold}
    (member : c ∈ q.conditions) : Legible c := by
  cases checked : q.conditions.mapM percentage with
  | ok percents => exact mapM_accepts checked member
  | error e =>
    -- The conditions are checked before the request can be accepted.
    exfalso
    unfold Request.validate at valid
    simp only [checked] at valid
    split at valid <;> split at valid <;> cases valid

/-- The groups of a valid request can be read. -/
theorem groupOf_legible (valid : q.validate = .ok ()) (id rollout position size : Nat)
    (parent : Option Nat) : LegibleGroup (groupOf q id rollout position size parent) := by
  -- The conditions of a share are among those of the request.
  have own {share : GroupShare} (here : q.groups[position]? = some share) {c : Threshold}
      (member : c ∈ share.success.toList ++ share.failure.toList) : Legible c := by
    have among : c ∈ q.groups.flatMap fun g => g.success.toList ++ g.failure.toList :=
      List.mem_flatMap.mpr ⟨share, List.mem_of_getElem? here, member⟩
    exact conditions_legible valid (List.mem_cons_of_mem _ (List.mem_append_right _ among))
  have common {c : Threshold} (given : q.failure = some c) : Legible c := by
    refine conditions_legible valid (List.mem_cons_of_mem _ (List.mem_append_left _ ?_))
    simp [given]
  have success : Legible q.success := conditions_legible valid List.mem_cons_self
  -- A group takes its conditions from its share, and from the request where that gives none.
  cases here : q.groups[position]? with
  | none =>
    constructor
    · simpa [groupOf, here] using success
    · intro c given
      exact common (by simpa [groupOf, here] using given)
  | some share =>
    constructor
    · cases given : share.success with
      | none => simpa [groupOf, here, given] using success
      | some c => simpa [groupOf, here, given] using own here (c := c) (by simp [given])
    · intro c given
      cases other : share.failure with
      | none => exact common (by simpa [groupOf, here, other] using given)
      | some d =>
        have same : d = c := by simpa [groupOf, here, other] using given
        exact own here (by simp [other, same])

end Request

section Evaluation

variable {settings : TenantSettings} {s : Store} {r : Rollout} {g : RolloutGroup}
  {groups : List RolloutGroup} {t : Tally} {now : Instant} {e : Error}

/-- A failure of an assignment or a cancellation. -/
def Deploys (e : Error) : Prop :=
  ∃ d, e = .deploy d

theorem successReached_legible {c : Threshold} (legible : Legible c) :
    successReached c t ≠ .error e := by
  obtain ⟨percent, read⟩ := legible
  simp [successReached, read, bind, Except.bind, pure, Except.pure]

theorem hasFailed_legible (legible : LegibleGroup g) : hasFailed g t ≠ .error e := by
  unfold hasFailed
  split
  · rename_i c given
    obtain ⟨percent, read⟩ := legible.failure given
    simp [errorReached, read, bind, Except.bind, pure, Except.pure]
  · simp

/-- The start of a group fails only for an assignment. -/
theorem startGroup_deploys (fails : startGroup settings r g now s = .error e) : Deploys e := by
  unfold startGroup at fails
  split at fails
  -- A group without members is done at once.
  · rw [Transaction.moveGroup_bind_apply] at fails
    cases fails
  · rw [Transaction.moveGroup_bind_apply] at fails
    split at fails
    · rw [Transaction.read_bind_apply] at fails
      obtain ⟨d, -, same⟩ := Transaction.mapError_eq_error fails
      exact ⟨d, same.symm⟩
    · cases fails

/-- The failure of a group does not fail. -/
theorem failGroup_ne_error : failGroup r g s ≠ .error e := by
  intro fails
  simp only [failGroup, Transaction.moveGroup_bind_apply] at fails
  split at fails
  -- A group that has failed may pause the rollout, which is a move and no more.
  · cases action : g.onFailure.getD .pause with
    | pause =>
      rw [Transaction.moveRollout_bind_apply] at fails
      cases fails
  · cases fails

/-- A group that moves takes nothing with it but its place. -/
theorem moveGroup_frame (s : Store) (id : Nat) (expected : List GroupStatus)
    (status : GroupStatus) : Frame s (s.moveGroup id expected status).2 := by
  unfold Store.moveGroup
  -- A group is stored in its new status, or nothing is written.
  split
  · split <;> exact .of_eq rfl rfl rfl rfl rfl rfl
  · exact .of_eq rfl rfl rfl rfl rfl rfl

/-- The end of a group fails only where the next one cannot start. -/
theorem finishGroup_error (fails : finishGroup settings r g groups now s = .error e) :
    ∃ next s', Frame s s' ∧ startGroup settings r next now s' = .error e := by
  simp only [finishGroup, Transaction.moveGroup_bind_apply] at fails
  split at fails
  -- Only the start of the next group can fail, and all before it has been done by then.
  · cases action : g.onSuccess with
    | nextGroup =>
      simp only [action] at fails
      cases next : groups.find? fun n => g.position < n.position && !n.status.isSettled with
      | some n =>
        simp only [next] at fails
        exact ⟨n, _, moveGroup_frame s g.id [.running] .finished, fails⟩
      | none =>
        simp only [next] at fails
        cases fails
    | pause =>
      simp only [action, Transaction.moveRollout_bind_apply] at fails
      cases fails
  · cases fails

/-- The check of a group that can be read fails only where the next one cannot start. -/
theorem checkGroup_error (legible : LegibleGroup g)
    (fails : checkGroup settings r g groups now s = .error e) :
    ∃ next s', Frame s s' ∧ startGroup settings r next now s' = .error e := by
  -- Both conditions are read in turn, and neither reading can fail.
  simp only [checkGroup, Transaction.read_bind_apply, Transaction.lift_bind_eq_error] at fails
  rcases fails with unread | ⟨failed, -, fails⟩
  · exact absurd unread (hasFailed_legible legible)
  split at fails
  · exact absurd fails failGroup_ne_error
  rw [Transaction.lift_bind_eq_error] at fails
  rcases fails with unread | ⟨succeeded, -, fails⟩
  · exact absurd unread (successReached_legible legible.success)
  split at fails
  · exact finishGroup_error fails
  split at fails
  · exact absurd fails failGroup_ne_error
  · cases fails

/-- Where all conditions can be read, a rollout is held up only by a group that cannot start. -/
theorem advance_error (readable : Readable s) (fails : advance settings r now s = .error e) :
    ∃ next s', Frame s s' ∧ startGroup settings r next now s' = .error e := by
  simp only [advance, Transaction.read_bind_apply] at fails
  cases found : (s.groupsOf r.id).find? fun g => !g.status.isSettled with
  | none =>
    rw [found] at fails
    cases fails
  | some g =>
    simp only [found] at fails
    -- The group is one of those that are stored.
    obtain ⟨id, -, stored⟩ := List.mem_filterMap.mp (List.mem_of_find?_eq_some found)
    split at fails
    · exact checkGroup_error (readable stored) fails
    · exact ⟨g, s, .of_eq rfl rfl rfl rfl rfl rfl, fails⟩

end Evaluation

section Readings

variable {settings : Settings} {id : Nat} {now : Instant} {s : Store} {e : Error}

/-- Where all conditions can be read, an evaluation fails only for a group that cannot start. -/
theorem evaluate_error (readable : Readable s) (fails : evaluate settings id now s = .error e) :
    ∃ r next s', s.rollouts.get? id = some r ∧ Frame s s' ∧
      startGroup (settings.tenant r.tenant) r next now s' = .error e := by
  simp only [evaluate, Transaction.read_bind_apply] at fails
  cases found : s.rollouts.get? id with
  -- A rollout that is not there or does not run is passed over.
  | none =>
    simp only [found] at fails
    cases fails
  | some r =>
    simp only [found] at fails
    split at fails
    · rcases Transaction.bind_eq_error.mp fails with first | ⟨_, s₁, -, rest⟩
      · obtain ⟨next, s', frame, starts⟩ := advance_error readable first
        exact ⟨r, next, s', rfl, frame, starts⟩
      · -- What comes after the advance does not fail.
        rcases Transaction.bind_eq_error.mp rest with second | ⟨_, s₂, -, last⟩
        · simp only [complete, Transaction.read_bind_apply] at second
          split at second
          · rw [Transaction.moveRollout_bind_apply] at second
            cases second
          · cases second
        · cases last
    · cases fails

/-- Where all conditions can be read, no evaluation fails for one that cannot. -/
theorem evaluate_deploys (readable : Readable s) (fails : evaluate settings id now s = .error e) :
    Deploys e := by
  obtain ⟨r, next, s', -, -, starts⟩ := evaluate_error readable fails
  exact startGroup_deploys starts

end Readings

end Rollouts

end DeviceUpdate
