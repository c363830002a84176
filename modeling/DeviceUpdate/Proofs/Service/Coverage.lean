import DeviceUpdate.Proofs.Service.Run
import DeviceUpdate.Proofs.Store.Execution

/-! Public operations that take several transactions, or check more first, as runs of calls. -/

namespace DeviceUpdate.Service

variable {settings : Settings}

/-- Whether some further calls lead from a history to a state. -/
def Reaches (settings : Settings) (h : History) (s : Store) : Prop :=
  ∃ calls : List Call, (calls.foldl (History.next settings) h).present = s

theorem Reaches.refl (settings : Settings) (h : History) : Reaches settings h h.present :=
  ⟨[], rfl⟩

/-- One call reaches the state that it leaves behind. -/
theorem Reaches.call (settings : Settings) (h : History) (c : Call) :
    Reaches settings h (c.apply settings h) :=
  ⟨[c], rfl⟩

/-- The creation of a rollout plans it in the present state. -/
theorem create_reached (h : History) (tenant : String) (q : Rollouts.Request) (now : Instant) :
    Reaches settings h
      ((Rollouts.create (settings.tenant tenant) tenant q now).run h.present).2 := by
  -- The call plans in the state in which it stores, which is the present one.
  have one := Reaches.call settings h ⟨now, .createRollout tenant q 0⟩
  simp only [Call.apply, History.ago, List.getD_cons_zero] at one
  -- A plan that is refused stores nothing, and an accepted one is stored as it is.
  cases planned : Rollouts.planned (settings.tenant tenant) tenant q h.present with
  | error e =>
    simp only [planned] at one
    have fails : (Rollouts.create (settings.tenant tenant) tenant q now) h.present =
        .error e := by
      simp only [Rollouts.create, Transaction.get_bind_apply, planned]
      rfl
    simpa [Transaction.run, StateT.run, fails] using one
  | ok plan =>
    simp only [planned] at one
    have same : (Rollouts.create (settings.tenant tenant) tenant q now) h.present =
        (Rollouts.storePlanned tenant q plan.1 plan.2 now) h.present := by
      simp only [Rollouts.create, Transaction.get_bind_apply, planned]
      rfl
    simpa only [Transaction.run, StateT.run, same] using one

/-- The deletion of a rollout marks it and then removes it. -/
theorem delete_reached (h : History) (tenant : String) (id : Nat) (now : Instant) :
    Reaches settings h (Rollouts.delete tenant id h.present).2 := by
  unfold Rollouts.delete
  -- A rollout that cannot be marked stays; a marked one is removed in a second call.
  rcases marked : (Rollouts.markDeleted tenant id).run h.present with ⟨e | r, s⟩
  · have one := Reaches.call settings h ⟨now, .markRollout tenant id⟩
    simpa only [Call.apply, marked] using one
  · refine ⟨[⟨now, .markRollout tenant id⟩, ⟨now, .purge id⟩], ?_⟩
    simp only [List.foldl_cons, List.foldl_nil, History.next, Call.apply, marked]
    rcases (Rollouts.purge id : Transaction Rollouts.Error Bool).run s with ⟨e | flag, s'⟩ <;> rfl

/-- Seeing failures as others does not change what a transaction leaves behind. -/
theorem run_mapError {ε ε' α : Type} (f : ε → ε') (t : Transaction ε α) (s : Store) :
    ((t.mapError f).run s).2 = (t.run s).2 := by
  -- Both runs keep the store of a failure and take that of a success.
  simp only [Transaction.run, Transaction.mapError, StateT.run]
  cases t s <;> rfl

/-- The attributes that a device sends through the gateway are taken as they are. -/
theorem configData_reached (h : History) (tenant controller : String)
    (r : Deployments.AttributeReport) (now : Instant) :
    Reaches settings h ((Device.configData tenant controller r now).run h.present).2 := by
  rw [Device.configData, run_mapError]
  exact .call settings h ⟨now, .describe tenant controller r⟩

/-- A poll is noted whether or not an answer to it can be computed. -/
theorem poll_reached (h : History) (tenant controller : String) (address : Option String)
    (now : Instant) :
    Reaches settings h
      (Device.poll (settings.tenant tenant) tenant controller address now h.present).2 :=
  .call settings h ⟨now, .poll tenant controller address⟩

/-- A report through the gateway is one to the manager, or fails for want of the target. -/
theorem report_reached (h : History) (tenant controller : String) (id : Nat) (f : Feedback)
    (cancel : Bool) (now : Instant) :
    Reaches settings h ((Device.report (settings.tenant tenant) tenant controller id f cancel
      now).run h.present).2 := by
  -- The gateway asks for the target before it hands the report on.
  by_cases missing : (h.present.target? tenant controller).isNone = true
  · have fails : (Device.report (settings.tenant tenant) tenant controller id f cancel now)
        h.present = .error (.targetNotFound controller) := by
      simp only [Device.report, Transaction.read_bind_apply, missing, ↓reduceIte,
        Transaction.throw_bind_apply]
    simpa only [Transaction.run, StateT.run, fails] using Reaches.refl settings h
  · have same : (Device.report (settings.tenant tenant) tenant controller id f cancel now)
        h.present = ((Deployments.report (settings.tenant tenant) tenant controller id f cancel
          now).mapError Device.Error.deploy) h.present := by
      simp only [Device.report, Transaction.read_bind_apply, missing]
      rfl
    have one := Reaches.call settings h ⟨now, .report tenant controller id f cancel⟩
    simp only [Call.apply, ← run_mapError Device.Error.deploy] at one
    simpa only [Transaction.run, StateT.run, same] using one

/-- The start of a rollout does not fail. -/
theorem startIn_succeeds {ε : Type} (id : Nat) (s : Store) :
    ∃ r, (Rollouts.startIn id : Transaction ε Bool) s = .ok r := by
  -- Whether the rollout moves or not, nothing in it can fail.
  simp only [Rollouts.startIn, Transaction.moveRollout_bind_apply]
  split
  · exact ⟨_, rfl⟩
  · exact ⟨_, rfl⟩

/-- The removal of a rollout does not fail. -/
theorem purge_succeeds {ε : Type} (id : Nat) (s : Store) :
    ∃ r, (Rollouts.purge id : Transaction ε Bool) s = .ok r := by
  simp only [Rollouts.purge, Transaction.read_bind_apply]
  -- A rollout that is not there, or not to be removed, is left alone.
  cases s.rollouts.get? id with
  | none => exact ⟨_, rfl⟩
  | some r =>
    by_cases deleting : r.status = .deleting
    · exact ⟨_, by simp only [deleting, ↓reduceIte, Transaction.removeRollout_apply]; rfl⟩
    · exact ⟨_, by simp only [deleting, ↓reduceIte, Transaction.pure_apply]; rfl⟩

/-- What a tick does for a rollout, as it was listed at any time, is a run of calls. -/
theorem visit_reached (h : History) (now : Instant) (report : Rollouts.TickReport) (r : Rollout) :
    Reaches settings h (Rollouts.visit settings now (report, h.present) r).2 := by
  unfold Rollouts.visit
  -- What a visit does depends on the status in which the rollout was listed.
  cases needs : Rollouts.visit? settings r now with
  | none => exact .refl settings h
  | some t =>
    dsimp only
    unfold Rollouts.visit? at needs
    split at needs
    · -- A rollout that was ready starts if it is due.
      split at needs
      · have same := Option.some.inj needs
        subst same
        obtain ⟨done, succeeds⟩ := startIn_succeeds (ε := Rollouts.Error) r.id h.present
        have one := Reaches.call settings h ⟨now, .startDue r.id⟩
        simp only [Call.apply, Transaction.run, StateT.run, succeeds] at one ⊢
        exact one
      · cases needs
    · -- A rollout that was running is evaluated, and marked if that fails.
      have same := Option.some.inj needs
      subst same
      cases evaluated : Rollouts.evaluate settings r.id now h.present with
      | ok done =>
        have one := Reaches.call settings h ⟨now, .evaluate r.id⟩
        -- The visit reports its success, which changes nothing else.
        have ran : (do Rollouts.evaluate settings r.id now; pure true :
            Transaction Rollouts.Error Bool) h.present = .ok (true, done.2) :=
          Transaction.bind_eq_ok.mpr ⟨(), done.2, evaluated, rfl⟩
        simp only [Call.apply, Transaction.run, StateT.run, evaluated] at one
        simp only [Transaction.run, StateT.run, ran]
        exact one
      | error e =>
        have one := Reaches.call settings h ⟨now, .markFailed r.id 0⟩
        simp only [Call.apply, History.ago, List.getD_cons_zero, Transaction.run, StateT.run,
          evaluated] at one
        -- The failure comes from the present state, and is handled there.
        have fails := Transaction.bind_of_error evaluated fun _ =>
          (pure true : Transaction Rollouts.Error Bool)
        simp only [Transaction.run, StateT.run, fails]
        exact one
    · have same := Option.some.inj needs
      subst same
      obtain ⟨done, succeeds⟩ := purge_succeeds (ε := Rollouts.Error) r.id h.present
      have one := Reaches.call settings h ⟨now, .purge r.id⟩
      simp only [Call.apply, Transaction.run, StateT.run, succeeds] at one ⊢
      exact one
    · cases needs

/-- Calls that reach a state may be followed by others. -/
theorem Reaches.trans {h : History} {s s' : Store} (first : Reaches settings h s)
    (rest : ∀ h' : History, h'.present = s → Reaches settings h' s') : Reaches settings h s' := by
  obtain ⟨calls, reached⟩ := first
  obtain ⟨more, last⟩ := rest _ reached
  exact ⟨calls ++ more, by rw [List.foldl_append, last]⟩

/-- A tick over any list of rollouts, however old, is a run of calls. -/
theorem visits_reached (h : History) (now : Instant) (listed : List Rollout)
    (report : Rollouts.TickReport) :
    Reaches settings h
      (listed.foldl (Rollouts.visit settings now) (report, h.present)).2 := by
  -- Each visit goes on in the history that the earlier ones have left.
  induction listed generalizing h report with
  | nil => exact .refl settings h
  | cons r rest ih =>
    refine (visit_reached h now report r).trans fun h' reached => ?_
    have more := ih h' (Rollouts.visit settings now (report, h.present) r).1
    rw [reached] at more
    exact more

/-- A tick is a run of calls. -/
theorem tick_reached (h : History) (now : Instant) :
    Reaches settings h (Rollouts.tick settings now h.present).2 :=
  visits_reached h now (h.present.rolloutsOf none) .zero

end DeviceUpdate.Service
