import DeviceUpdate.Proofs.Deployment.Cancellation

/-! Deployments in flight to one target, where a target may have one only. -/

namespace DeviceUpdate.Deployments

/-- A deployment of this number is in flight to a target. -/
def InFlight (s : Store) (tenant controller : String) (id : Nat) : Prop :=
  ∃ a, s.actions.get? id = some a ∧ a.isInFlight = true ∧ a.tenant = tenant ∧
    a.controller = controller

/-- No target of a tenant has two deployments in flight. -/
def Single (tenant : String) (s : Store) : Prop :=
  ∀ (controller : String) (first second : Nat), InFlight s tenant controller first →
    InFlight s tenant controller second → first = second

theorem single_empty (tenant : String) : Single tenant .empty := by
  rintro controller first second ⟨a, found, -⟩
  simp [Store.empty] at found

section Exclusion

variable {settings : Settings} {s s' : Store} {tenant controller : String} {id : Nat}

theorem inFlight_iff : InFlight s tenant controller id ↔
    ((s.actions.get? id).any fun a =>
      a.isInFlight && a.tenant == tenant && a.controller == controller) = true := by
  simp [InFlight, Option.any_eq_true, and_assoc]

instance : Decidable (InFlight s tenant controller id) :=
  decidable_of_iff _ inFlight_iff.symm

/-- What is in flight depends on the actions alone. -/
theorem InFlight.kept (inFlight : InFlight s' tenant controller id)
    (found : s'.actions.get? id = s.actions.get? id) : InFlight s tenant controller id := by
  obtain ⟨a, stored, rest⟩ := inFlight
  exact ⟨a, found.symm.trans stored, rest⟩

/-- An action that is not in flight is not in flight under its number. -/
theorem InFlight.elim {a : Action} (inFlight : InFlight s tenant controller id)
    (stored : s.actions.get? id = some a) (stays : a.isInFlight = false) : False := by
  obtain ⟨b, found, runs, -⟩ := inFlight
  rw [stored] at found
  rw [← Option.some.inj found, stays] at runs
  cases runs

/-- Every deployment in flight to a target is listed for it. -/
theorem InFlight.listed (indexed : Indexed s) (inFlight : InFlight s tenant controller id) :
    ∃ a ∈ s.actionsOf tenant controller, a.isInFlight = true := by
  obtain ⟨a, found, runs, owner, target⟩ := inFlight
  have own := indexed.own found
  subst own owner target
  exact ⟨a, indexed.mem_actionsOf.mpr ⟨found, rfl⟩, runs⟩

/-- An action that is not active is not in flight. -/
theorem isInFlight_moved_inactive (a : Action) (status : Status) (now : Instant) :
    (a.moved status false now).isInFlight = false := by
  simp [Action.isInFlight]

/-- A report that does not close leaves in flight what was so before. -/
theorem InFlight.of_progressed {a : Action} {f : Feedback} {now : Instant} {step : Transition}
    {e : LogEntry} (inFlight : InFlight (s.record step.action e) tenant controller id)
    (stored : s.actions.get? a.id = some a) (going : f.execution ≠ .closed)
    (reported : a.report f now = .ok step) : InFlight s tenant controller id := by
  obtain ⟨b, found, runs, owner, target⟩ := inFlight
  rw [Store.get?_record] at found
  -- Under every other number the action is the one that was there before.
  split at found
  · rename_i here
    have same := Option.some.inj found
    subst same
    -- The action stays as it is, or it was in flight and only its status has moved.
    rcases Action.report_going going reported with stays | ⟨before, status, -, moved⟩
    · rw [stays] at here runs owner target
      exact ⟨a, by rw [here]; exact stored, runs, owner, target⟩
    · rw [moved] at here owner target
      exact ⟨a, by rw [here]; exact stored, before, owner, target⟩
  · exact ⟨b, found, runs, owner, target⟩

/-- What is in flight after a step was so before, or it is new and alone where it must be. -/
theorem Step.inFlight (step : Step settings s s') (indexed : Indexed s)
    (inFlight : InFlight s' tenant controller id) :
    InFlight s tenant controller id ∨ id = s.nextNumber sequence ∧
      ((settings.tenant tenant).multiAssignments = false →
        ∀ other, ¬ InFlight s tenant controller other) := by
  cases step with
  | published => exact Or.inl inFlight
  | registered => exact Or.inl inFlight
  | polled => exact Or.inl inFlight
  | described => exact Or.inl inFlight
  -- What cancels is not in flight, and its subject is not any more.
  | requested subject now =>
    have found := Store.get?_requestCancel s subject now id
    split at found
    · exact (inFlight.elim found (by simp [Action.isInFlight, Action.cancelling, Action.isCancel,
        Action.cancels?])).elim
    · split at found
      · exact (inFlight.elim found (by simp [Action.isInFlight])).elim
      · exact Or.inl (inFlight.kept found)
  | deployed owner device t d rollout now known here alone =>
    have found := Store.get?_deploy s t now owner device d rollout id
    split at found
    · -- The new deployment is to this very target.
      rename_i new
      obtain ⟨a, stored, -, rfl, rfl⟩ := inFlight
      rw [found] at stored
      rw [← Option.some.inj stored]
      refine Or.inr ⟨new, fun off other runs => ?_⟩
      obtain ⟨b, listed, inFlight⟩ := runs.listed indexed
      rw [alone off b listed] at inFlight
      cases inFlight
    · exact Or.inl (inFlight.kept found)
  | progressed a f now step stored room going reported =>
    exact Or.inl (inFlight.of_progressed stored going reported)
  -- What closes is not in flight any more.
  | closed a d t f now =>
    have found := Store.get?_close s a d.distributionSet t f now id
    split at found
    · exact (inFlight.elim found (isInFlight_moved_inactive a _ now)).elim
    · exact Or.inl (inFlight.kept found)
  -- Neither part of a pair that ends is in flight.
  | superseded cancel a d t f now =>
    have found := Store.get?_closeSuperseded s a cancel d.distributionSet t f now id
    split at found
    · exact (inFlight.elim found (isInFlight_moved_inactive cancel _ now)).elim
    · split at found
      · exact (inFlight.elim found (isInFlight_moved_inactive a _ now)).elim
      · exact Or.inl (inFlight.kept found)
  | confirmed cancel subject t f now =>
    have found := Store.get?_confirm s subject cancel t f now id
    split at found
    · exact (inFlight.elim found (isInFlight_moved_inactive subject _ now)).elim
    · split at found
      · exact (inFlight.elim found (isInFlight_moved_inactive cancel _ now)).elim
      · exact Or.inl (inFlight.kept found)

/-- Every step leaves at most one deployment in flight where there was at most one. -/
theorem Step.single (step : Step settings s s') (indexed : Indexed s)
    (off : (settings.tenant tenant).multiAssignments = false) (single : Single tenant s) :
    Single tenant s' := by
  intro controller first second one two
  -- Two that are in flight now are both old, or both new, since a new one is alone.
  rcases step.inFlight indexed one with oldOne | ⟨newOne, alone⟩ <;>
    rcases step.inFlight indexed two with oldTwo | ⟨newTwo, aloneTwo⟩
  · exact single controller first second oldOne oldTwo
  · exact (aloneTwo off first oldOne).elim
  · exact (alone off second oldTwo).elim
  · exact newOne.trans newTwo.symm

/-- What is in flight after a cancellation is refused was so before, or is the subject. -/
theorem Resumption.inFlight {cancel subject : Action} (resumption : Resumption cancel subject s s')
    (inFlight : InFlight s' tenant controller id) :
    InFlight s tenant controller id ∨
      id = subject.id ∧ subject.tenant = tenant ∧ subject.controller = controller := by
  cases resumption with | resumed now pending =>
  -- The refusal writes its two parts only, and the cancellation has ended.
  have found := Store.get?_resume s subject cancel now id
  split at found
  -- Only the subject is put back into flight.
  · rename_i here
    obtain ⟨a, stored, -, owner, target⟩ := inFlight
    rw [found] at stored
    rw [← Option.some.inj stored] at owner target
    exact Or.inr ⟨here, owner, target⟩
  · split at found
    · exact (inFlight.elim found (isInFlight_moved_inactive cancel _ now)).elim
    · exact Or.inl (inFlight.kept found)

/-- The refusal of a cancellation leaves one deployment in flight if it leaves the subject alone. -/
theorem Resumption.single {cancel subject : Action} (resumption : Resumption cancel subject s s')
    (single : Single tenant s)
    (alone : subject.tenant = tenant → ∀ other, ¬ InFlight s tenant subject.controller other) :
    Single tenant s' := by
  intro controller first second one two
  -- The subject is the only one that can have come to be in flight.
  rcases resumption.inFlight one with oldOne | ⟨newOne, owner, target⟩ <;>
    rcases resumption.inFlight two with oldTwo | ⟨newTwo, ownerTwo, targetTwo⟩
  · exact single controller first second oldOne oldTwo
  · exact (alone ownerTwo first (targetTwo ▸ oldOne)).elim
  · exact (alone owner second (target ▸ oldTwo)).elim
  · exact newOne.trans newTwo.symm

/-- After a cancellation is refused, its subject is in flight along with all that was before. -/
theorem Pending.resumed {cancel subject : Action} (pending : Pending s cancel subject)
    (tenant controller : String) (id : Nat) (now : Instant) :
    InFlight (s.resume cancel subject now) subject.tenant subject.controller subject.id ∧
      (InFlight s tenant controller id →
        InFlight (s.resume cancel subject now) tenant controller id ∧ id ≠ subject.id) := by
  constructor
  -- The subject runs again under its own number.
  · refine ⟨subject.moved .running true now, ?_, ?_, rfl, rfl⟩
    · rw [Store.get?_resume, if_pos rfl]
    · simp [Action.isInFlight, pending.deploys]
  · intro runs
    -- Neither part of the pair was in flight before.
    have notSubject : id ≠ subject.id := by
      rintro rfl
      exact runs.elim pending.subjectStored (by simp [Action.isInFlight, pending.canceling])
    have notCancel : id ≠ cancel.id := by
      rintro rfl
      exact runs.elim pending.cancelStored
        (by simp [Action.isInFlight, Action.isCancel_of_names pending.names])
    refine ⟨runs.kept ?_, notSubject⟩
    rw [Store.get?_resume, if_neg notSubject, if_neg notCancel]

end Exclusion

end DeviceUpdate.Deployments
