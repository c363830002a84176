import DeviceUpdate.Proofs.Deployment.Index

/-! What is stored stays stored: actions only move, and logs only grow. -/

namespace DeviceUpdate.Deployments

/-- Every action is still stored, perhaps in another state, and all logs have at most grown. -/
structure Persists (s s' : Store) : Prop where
  action : ∀ {id : Nat} {a : Action}, s.actions.get? id = some a →
    ∃ status active now, s'.actions.get? id = some (a.moved status active now)
  log : ∀ id, s.logOf id <+: s'.logOf id

section Persistence

variable {settings : Settings} {s s' s'' : Store} {a cancel subject : Action} {now : Instant}

/-- What leaves actions and logs alone leaves them stored. -/
theorem Persists.of_eq (actions : s'.actions = s.actions) (log : s'.log = s.log) :
    Persists s s' where
  action {id a} stored := ⟨a.status, a.active, a.modifiedAt, by rw [actions]; exact stored⟩
  log id := by
    simp only [Store.logOf, log]
    exact List.prefix_rfl

theorem Persists.refl (s : Store) : Persists s s :=
  .of_eq rfl rfl

theorem Persists.trans (first : Persists s s') (second : Persists s' s'') : Persists s s'' where
  action stored := by
    obtain ⟨_, _, _, between⟩ := first.action stored
    obtain ⟨status, active, now, later⟩ := second.action between
    exact ⟨status, active, now, later⟩
  log id := (first.log id).trans (second.log id)

/-- Recording an action that was stored before moves it at most. -/
theorem Persists.record (persists : Persists s s') {b : Action} (e : LogEntry)
    (moves : ∀ c, s'.actions.get? b.id = some c →
      ∃ status active now, b = c.moved status active now) : Persists s (s'.record b e) := by
  refine persists.trans ⟨fun {id c} stored => ?_, Store.prefix_logOf_record s' b e⟩
  rw [Store.get?_record]
  split
  · rename_i here
    rw [here] at stored
    obtain ⟨status, active, now, same⟩ := moves c stored
    exact ⟨status, active, now, by rw [same]⟩
  · exact ⟨c.status, c.active, c.modifiedAt, stored⟩

/-- Recording the move of a stored action leaves all actions stored. -/
theorem Persists.moved (persists : Persists s s') (stored : s'.actions.get? a.id = some a)
    (status : Status) (active : Bool) (now : Instant) (e : LogEntry) :
    Persists s (s'.record (a.moved status active now) e) := by
  refine persists.record e fun c found => ?_
  rw [← Option.some.inj (stored.symm.trans found)]
  exact ⟨status, active, now, rfl⟩

/-- Recording a new action leaves all others stored. -/
theorem Persists.added (persists : Persists s s') {b : Action} (e : LogEntry)
    (absent : s'.actions.get? b.id = none) : Persists s (s'.record b e) :=
  persists.record e fun c found => by rw [absent] at found; cases found

/-- Storing a target leaves all actions stored. -/
theorem Persists.putTarget (persists : Persists s s') (t : Target) :
    Persists s (s'.putTarget t) :=
  persists.trans (.of_eq rfl rfl)

/-- A closing report leaves all actions stored. -/
theorem Persists.close (stored : s.actions.get? a.id = some a) (set : Nat) (t : Target)
    (f : Feedback) (now : Instant) : Persists s (s.close a set t f now) :=
  ((Persists.refl s).moved stored f.outcome.status false now _).putTarget _

/-- The parts of a pair move one after the other. -/
theorem Pending.still (pending : Pending s cancel subject) (status : Status) (active : Bool)
    (now : Instant) (e : LogEntry) :
    (s.record (cancel.moved status active now) e).actions.get? subject.id = some subject := by
  rw [Store.get?_record, Action.moved_id, if_neg (Ne.symm pending.id_ne)]
  exact pending.subjectStored

/-- No step removes an action or an entry of a log. -/
theorem Step.persists (step : Step settings s s') (indexed : Indexed s) : Persists s s' := by
  cases step with
  | published => exact .of_eq rfl rfl
  | registered => exact .of_eq rfl rfl
  | polled => exact .of_eq rfl rfl
  | described => exact .of_eq rfl rfl
  | requested subject now stored =>
    -- The subject moves, and what cancels it is new.
    have drawn : Persists s (s.advance sequence) := .of_eq rfl rfl
    refine (drawn.moved stored .canceling true now _).added _ ?_
    have new : s.nextNumber sequence ≠ subject.id := by
      have below := indexed.drawn stored
      omega
    exact (Store.get?_record _ _ _ _).trans ((if_neg new).trans indexed.next_absent)
  | deployed tenant controller t d rollout now =>
    have drawn : Persists s (s.advance sequence) := .of_eq rfl rfl
    refine (drawn.added _ ?_).putTarget _
    exact indexed.next_absent
  | progressed a f now step stored room going reported =>
    refine (Persists.refl s).record _ fun c found => ?_
    -- The action stays as it is, or its status has moved.
    rcases Action.report_going going reported with stays | ⟨-, status, -, moved⟩
    · rw [stays] at found ⊢
      rw [← Option.some.inj (stored.symm.trans found)]
      exact ⟨a.status, a.active, a.modifiedAt, rfl⟩
    · rw [moved] at found ⊢
      rw [← Option.some.inj (stored.symm.trans found)]
      exact ⟨status, true, now, rfl⟩
  | closed a d t f now stored => exact .close stored d.distributionSet t f now
  | superseded cancel a d t f now pending =>
    refine (Persists.close pending.subjectStored d.distributionSet t f now).moved ?_ .finished
      false now _
    rw [Store.get?_close, if_neg pending.id_ne]
    exact pending.cancelStored
  | confirmed cancel subject t f now pending =>
    exact (((Persists.refl s).moved pending.cancelStored .canceled false now _).moved
      (pending.still .canceled false now _) .canceled false now _).putTarget _

/-- The refusal of a cancellation removes neither. -/
theorem Resumption.persists (resumption : Resumption cancel subject s s') : Persists s s' := by
  cases resumption with | resumed now pending =>
  exact ((Persists.refl s).moved pending.cancelStored .cancelRejected false now _).moved
    (pending.still .cancelRejected false now _) .running true now _

end Persistence

end DeviceUpdate.Deployments
