import DeviceUpdate.Proofs.Deployment.Exclusion
import DeviceUpdate.Proofs.Service.Coherence

/-! Where a target may have one deployment in flight only: which calls give it a second one. -/

namespace DeviceUpdate.Service

open Deployments (InFlight Single Pending)

/-- A call refuses to cancel a deployment to a target that has another one in flight. -/
def Revives (tenant : String) (s : Store) (c : Call) : Prop :=
  ∃ (cancel subject : Action) (other : Nat), c.operation = .rejectCancel tenant cancel.id ∧
    Pending s cancel subject ∧ subject.tenant = tenant ∧ InFlight s tenant subject.controller other

section Calls

variable {settings : Settings} {started : Nat → Prop} {tenant : String} {s s' : Store}

/-- The steps of rollouts leave at most one deployment in flight. -/
theorem single_of_frame (frame : Rollouts.Frame s s') (single : Single tenant s) :
    Single tenant s' := by
  intro controller first second one two
  exact single controller first second (one.kept (by rw [frame.actions]))
    (two.kept (by rw [frame.actions]))

/-- Every run of steps leaves at most one deployment in flight where there was at most one. -/
theorem Steps.single (steps : Steps settings s s') (coherent : Coherent started s)
    (off : (settings.tenant tenant).multiAssignments = false) (single : Single tenant s) :
    Single tenant s' := by
  -- Steps of rollouts move no action, so only those of deployments count.
  induction steps with
  | refl => exact single
  | tail before step ih =>
    have between : Coherent started _ := Steps.coherent before coherent
    cases step with
    | deployment step => exact step.single between.indexed off ih
    | rollout step => exact single_of_frame step.frame ih

/-- Every call but one that revives a deployment leaves at most one in flight. -/
theorem Coherent.single {h : History} {c : Call} (coherent : Coherent started h.present)
    (off : (settings.tenant tenant).multiAssignments = false) (single : Single tenant h.present)
    (clean : ¬ Revives tenant h.present c) : Single tenant (h.next settings c).present := by
  have effect : Effect settings c.operation h.present (c.apply settings h) := c.effect h coherent
  cases effect with
  | steps steps => exact steps.single coherent off single
  | started id start => exact single_of_frame start.frame single
  | failed id failure => exact single_of_frame failure.frame single
  | resumed cancel subject own resumption =>
    -- Another deployment in flight would make this call a revival.
    refine resumption.single single fun owner other runs => clean ?_
    have pending : Pending h.present cancel subject := resumption.pending
    rw [← pending.owner coherent.paired, owner] at own
    exact ⟨cancel, subject, other, own, pending, owner, runs⟩

/-- A call that revives a deployment leaves two in flight. -/
theorem Coherent.revived {h : History} {c : Call} (coherent : Coherent started h.present)
    (revives : Revives tenant h.present c) : ¬ Single tenant (h.next settings c).present := by
  obtain ⟨cancel, subject, other, operation, pending, rfl, runs⟩ := revives
  -- The cancellation is pending, so the call succeeds.
  have resumed : (h.next settings c).present = h.present.resume cancel subject c.now := by
    obtain ⟨rejected, done⟩ := pending.rejectCancel_eq_ok coherent.paired c.now
    rw [← pending.owner coherent.paired] at done
    simp only [History.next, Call.apply, operation, Transaction.run, StateT.run, done]
  rw [resumed]
  intro single
  -- The subject and the other deployment are then both in flight.
  obtain ⟨revived, kept⟩ := pending.resumed subject.tenant subject.controller other c.now
  exact (kept runs).2 (single _ _ _ (kept runs).1 revived)

end Calls

/-- Where targets may have one deployment only, they have a second one after revivals alone. -/
theorem single_iff_none_revived (settings : Settings) (calls : List Call) {tenant : String}
    (off : (settings.tenant tenant).multiAssignments = false) :
    (∀ before, before <+: calls → Single tenant (history settings before).present) ↔
      ∀ before c, before ++ [c] <+: calls →
        ¬ Revives tenant (history settings before).present c := by
  constructor
  -- A revival leaves two deployments in flight in the state after it.
  · intro single before c initial revives
    have after := single (before ++ [c]) initial
    rw [history_concat] at after
    exact (coherent_history settings before).revived revives after
  -- Without revivals every call keeps what the one before it has left.
  · intro clean before
    induction before using List.reverseRecOn with
    | nil => exact fun _ => Deployments.single_empty tenant
    | append_singleton before c ih =>
      intro initial
      rw [history_concat]
      exact (coherent_history settings before).single off
        (ih ((List.prefix_append before [c]).trans initial)) (clean before c initial)

/-- A run in which a deployment is replaced, and its cancellation then refused. -/
def refusal : List Call :=
  [⟨.epoch, .createSet "t" "a" "1" []⟩,
   ⟨.epoch, .createSet "t" "b" "1" []⟩,
   ⟨.epoch, .createTarget "t" "d" .empty⟩,
   ⟨.epoch, .assign "t" "d" ⟨1, .forced, none, none, none⟩⟩,
   ⟨.epoch, .assign "t" "d" ⟨2, .forced, none, none, none⟩⟩,
   ⟨.epoch, .rejectCancel "t" 2⟩]

set_option maxRecDepth 10000 in
/-- After the refusal, the replaced deployment is in flight again beside the new one. -/
theorem refusal_inFlight :
    InFlight (history .standard refusal).present "t" "d" 1 ∧
      InFlight (history .standard refusal).present "t" "d" 3 := by
  decide +kernel

/-- Targets that may have one deployment only can have two. -/
theorem refusal_not_single :
    (Settings.standard.tenant "t").multiAssignments = false ∧
      ¬ Single "t" (history .standard refusal).present := by
  refine ⟨by decide +kernel, fun single => ?_⟩
  have same : 1 = 3 := single "d" 1 3 refusal_inFlight.1 refusal_inFlight.2
  cases same

/-- Some call of the run revives the replaced deployment. -/
theorem refusal_revives :
    (Settings.standard.tenant "t").multiAssignments = false ∧
      ∃ before c, before ++ [c] <+: refusal ∧
        Revives "t" (history .standard before).present c := by
  have off : (Settings.standard.tenant "t").multiAssignments = false := by decide +kernel
  refine ⟨off, ?_⟩
  -- If no call revived one, two deployments in flight would be one and the same.
  by_contra none
  have clean := (single_iff_none_revived .standard refusal off).mpr
    fun before c initial revives => none ⟨before, c, initial, revives⟩
  have same : 1 = 3 := clean refusal List.prefix_rfl "d" 1 3 refusal_inFlight.1
    refusal_inFlight.2
  cases same

end DeviceUpdate.Service
