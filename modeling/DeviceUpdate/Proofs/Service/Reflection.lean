import DeviceUpdate.Proofs.Deployment.Reflection
import DeviceUpdate.Proofs.Service.Finality
import DeviceUpdate.Proofs.Service.Ownership

/-! Targets show which deployment has been assigned to them last, in every state of every run. -/

namespace DeviceUpdate

open Deployments (Endures Keyed Reflects Spares)

namespace Service

section Calls

variable {settings : Settings} {started : Nat → Prop} {past : List Store} {s s' : Store}
  {tenant controller : String} {h : History} {c : Call}

/-- What leaves targets and actions alone leaves targets showing what they show. -/
theorem reflects_of_frame (frame : Rollouts.Frame s s') (indexed : Deployments.Indexed s)
    (paired : Deployments.Paired s) (reflects : Reflects settings past s tenant controller) :
    Reflects settings past s' tenant controller := by
  -- A step of a rollout changes no action and no target, so that nothing is shown differently.
  have after := indexed_of_frame frame indexed
  have quiet : Deployments.Quiet s s' tenant controller := by
    refine ⟨fun a _ => ?_, fun t found => ⟨t, ?_, rfl, fun _ => rfl⟩⟩
    · rw [Store.actionsOf, frame.actions, frame.targetActions]
      rfl
    · rw [Store.target?, frame.targets]
      exact found
  exact reflects.evolution indexed after (.of_eq frame.actions) fun _ found shows _ _ _ =>
    shows.quiet quiet indexed paired after (paired_of_frame frame paired) found

/-- What had ended earlier is found as it was after every run of steps. -/
theorem Steps.endures (steps : Steps settings s s') (coherent : Coherent started s)
    (endures : Endures past s) : Endures past s' :=
  fun before member _ _ found closed =>
    steps.found coherent (endures before member found closed) closed

/-- A run of steps that ends no action leaves targets showing the last deployment. -/
theorem Steps.reflects (steps : Steps settings s s') (coherent : Coherent started s)
    (keyed : Keyed s) (endures : Endures past s) (spares : Spares s s')
    (reflects : Reflects settings past s tenant controller) :
    Reflects settings past s' tenant controller := by
  -- The parts of the run end no action either, so the induction goes through its steps.
  induction steps with
  | refl => exact reflects
  | tail before step ih =>
    obtain ⟨first, second⟩ := Steps.spares_parts before step coherent spares
    have between : Coherent started _ := Steps.coherent before coherent
    cases step with
    | deployment step =>
      exact step.reflects between.indexed between.paired (Steps.keyed before keyed)
        (Steps.endures before coherent endures) (Or.inr second) (ih first)
    | rollout step => exact reflects_of_frame step.frame between.indexed between.paired (ih first)

/-- A call that refuses no cancellation leaves targets showing the last deployment. -/
theorem Coherent.reflects (coherent : Coherent started h.present) (keyed : Keyed h.present)
    (endures : Endures h.past h.present)
    (accepts : ∀ tenant id, c.operation ≠ .rejectCancel tenant id)
    (reflects : Reflects settings h.past h.present tenant controller) :
    Reflects settings (h.next settings c).past (h.next settings c).present tenant controller := by
  -- The present state is noted first, since actions that end now have been active in it.
  have noted : Reflects settings (h.present :: h.past) h.present tenant controller :=
    reflects.noted coherent.indexed coherent.paired
  have remembered : Endures (h.present :: h.past) h.present := endures.noted
  have deed : Deed settings h c (c.apply settings h) := c.deed h coherent
  -- A call ends nothing, or it is a single step, or it refuses a cancellation.
  rcases deed.ends coherent with spares | step | ⟨cancel, subject, refused, -⟩
  · cases deed.effect coherent with
    | steps steps => exact steps.reflects coherent keyed remembered spares noted
    | resumed cancel subject own resumption => exact absurd own (accepts _ _)
    | started id start => exact reflects_of_frame start.frame coherent.indexed coherent.paired noted
    | failed id failure =>
      exact reflects_of_frame failure.frame coherent.indexed coherent.paired noted
  · exact step.reflects coherent.indexed coherent.paired keyed remembered
      (Or.inl List.mem_cons_self) noted
  · exact absurd refused (accepts _ _)

end Calls

section Runs

variable (settings : Settings)

/-- In every run, what has ended once is found as it was in all later states. -/
theorem endures_history (calls : List Call) :
    Endures (history settings calls).past (history settings calls).present := by
  -- What has ended before the last call has ended for good.
  induction calls using List.reverseRecOn with
  | nil => simp [Endures]
  | append_singleton calls c ih =>
    have coherent := coherent_history settings calls
    rw [history_concat]
    -- By induction on the calls from the end.
    intro before member id a found closed
    have stored := ih.noted before member found closed
    have own := coherent.indexed.own stored
    subst own
    exact ((c.effect _ coherent).untouched coherent stored closed).action.trans stored

/-- Without refusals, every target shows the deployment that has been assigned to it last. -/
theorem targets_reflect (calls : List Call)
    (accepts : ∀ c ∈ calls, ∀ tenant id, c.operation ≠ .rejectCancel tenant id)
    (tenant controller : String) :
    Reflects settings (history settings calls).past (history settings calls).present tenant
      controller := by
  -- By induction on the calls from the end.
  induction calls using List.reverseRecOn with
  | nil => exact Deployments.reflects_empty settings [] tenant controller
  | append_singleton calls c ih =>
    rw [history_concat]
    exact (coherent_history settings calls).reflects (keyed_history settings calls)
      (endures_history settings calls) (accepts c (by simp))
      (ih fun other member => accepts other (List.mem_append_left [c] member))

end Runs

/-- A run in which a deployment is replaced by another one. -/
def replacement : List Call :=
  [⟨.epoch, .createSet "t" "a" "1" []⟩,
   ⟨.epoch, .createSet "t" "b" "1" []⟩,
   ⟨.epoch, .createTarget "t" "d" .empty⟩,
   ⟨.epoch, .assign "t" "d" ⟨1, .forced, none, none, none⟩⟩,
   ⟨.epoch, .assign "t" "d" ⟨2, .forced, none, none, none⟩⟩]

/-- The new deployment is in flight, and it is what the target shows. -/
theorem targets_reflect_replacement :
    (∀ c ∈ replacement, ∀ tenant id, c.operation ≠ .rejectCancel tenant id) ∧
      (∃ a ∈ (history .standard replacement).present.actionsOf "t" "d", a.isInFlight = true) ∧
      Reflects .standard (history .standard replacement).past
        (history .standard replacement).present "t" "d" := by
  have accepts : ∀ c ∈ replacement, ∀ tenant id, c.operation ≠ .rejectCancel tenant id := by
    simp [replacement]
  refine ⟨accepts, ?_, targets_reflect .standard replacement accepts "t" "d"⟩
  decide +kernel

/-- While deployments are in flight to a target, it is pending on one of them. -/
def Mirrors (s : Store) (tenant controller : String) : Prop :=
  (∃ a ∈ s.actionsOf tenant controller, a.isInFlight = true) →
    ∃ t, s.target? tenant controller = some t ∧ t.status = .pending ∧
      ∃ a ∈ s.actionsOf tenant controller, a.isInFlight = true ∧ t.assigned = a.set?

theorem mirrors_iff {s : Store} {tenant controller : String} :
    Mirrors s tenant controller ↔
      ((∃ a ∈ s.actionsOf tenant controller, a.isInFlight = true) →
        ((s.target? tenant controller).any fun t => t.status == .pending &&
          (s.actionsOf tenant controller).any fun a => a.isInFlight && t.assigned == a.set?) =
            true) := by
  simp [Mirrors, Option.any_eq_true]

instance (s : Store) (tenant controller : String) : Decidable (Mirrors s tenant controller) :=
  decidable_of_iff _ mirrors_iff.symm

/-- The standard settings, where targets may have several deployments in flight. -/
def several : Settings :=
  { Settings.standard with
    defaults := { TenantSettings.standard with multiAssignments := true } }

/-- The later one of two deployments is to be cancelled, and the earlier one goes on. -/
def withdrawal : List Call :=
  replacement ++ [⟨.epoch, .cancel "t" 2⟩]

/-- A deployment fails after it has been replaced. -/
def lateFailure : List Call :=
  replacement ++ [⟨.epoch, .report "t" "d" 1 ⟨.closed, .failure, none, none, []⟩ false⟩]

/-- A deployment is given up after its set has been assigned once more. -/
def lateConsent : List Call :=
  replacement ++
    [⟨.epoch, .assign "t" "d" ⟨1, .forced, none, none, none⟩⟩,
     ⟨.epoch, .report "t" "d" 2 ⟨.closed, .none, none, none, []⟩ true⟩]

set_option maxRecDepth 10000 in
/-- Targets are not always pending on what is in flight, although no cancellation is refused. -/
theorem targets_not_mirrors :
    (∀ c ∈ withdrawal ++ lateFailure ++ lateConsent, ∀ tenant id,
      c.operation ≠ .rejectCancel tenant id) ∧
    ¬ Mirrors (history several withdrawal).present "t" "d" ∧
    ¬ Mirrors (history .standard lateFailure).present "t" "d" ∧
    ¬ Mirrors (history .standard lateConsent).present "t" "d" := by
  refine ⟨by simp [withdrawal, lateFailure, lateConsent, replacement], ?_, ?_, ?_⟩
  all_goals decide +kernel

end Service

end DeviceUpdate
