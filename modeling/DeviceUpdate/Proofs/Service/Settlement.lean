import DeviceUpdate.Proofs.Deployment.Settlement
import DeviceUpdate.Proofs.Service.Finality
import DeviceUpdate.Proofs.Service.Ownership

/-! Targets that pass for settled, in every state of every run. -/

namespace DeviceUpdate.Service

open Deployments (Calm Equipped Keyed Misled Settled Settling Spares Sustains)

section Calls

variable {settings : Settings} {started : Nat → Prop} {s s' : Store} {h : History} {c : Call}

/-- What is so between the states of single steps that end no action, and adds up, is so between
those of a whole run that ends none. -/
theorem Steps.relates {R : Store → Store → Prop} (refl : ∀ s, R s s)
    (trans : ∀ {s s' s''}, R s s' → R s' s'' → R s s'')
    (deployment : ∀ {s s'}, Deployments.Step settings s s' → Coherent started s → Keyed s →
      Spares s s' → R s s')
    (rollout : ∀ {s s'}, Rollouts.Step s s' → R s s') (steps : Steps settings s s')
    (coherent : Coherent started s) (keyed : Keyed s) (spares : Spares s s') : R s s' := by
  induction steps with
  | refl => exact refl s
  | tail before step ih =>
    obtain ⟨first, second⟩ := Steps.spares_parts before step coherent spares
    refine trans (ih first) ?_
    cases step with
    | deployment step =>
      exact deployment step (Steps.coherent before coherent) (Steps.keyed before keyed) second
    | rollout step => exact rollout step

/-- A run of steps that ends no action lets no target pass for settled. -/
theorem Steps.calm (steps : Steps settings s s') (coherent : Coherent started s)
    (keyed : Keyed s) (spares : Spares s s') : Calm s s' := by
  refine Steps.relates (fun _ => .of_eq rfl) Calm.trans ?_ ?_ steps coherent keyed spares
  · intro s s' step coherent keyed spares
    exact (step.settling coherent.indexed coherent.paired keyed).calm_of_spares spares
  · exact fun step => .of_eq step.frame.targets

/-- Every call ends one deployment at most, and only then comes a target to pass for settled. -/
theorem Call.settling (c : Call) (coherent : Coherent started h.present)
    (keyed : Keyed h.present) : Settling h.present (h.next settings c).present := by
  have deed : Deed settings h c (c.apply settings h) := c.deed h coherent
  -- A call ends nothing, or it is a single step, or it refuses a cancellation.
  rcases deed.ends coherent with spares | step | ⟨cancel, subject, -, resumption⟩
  · refine .calm spares.sustains ?_
    cases deed.effect coherent with
    | steps steps => exact steps.calm coherent keyed spares
    | resumed cancel subject own resumption => exact resumption.settling.calm_of_spares spares
    | started id start => exact .of_eq start.frame.targets
    | failed id failure => exact .of_eq failure.frame.targets
  · exact step.settling coherent.indexed coherent.paired keyed
  · exact resumption.settling

end Calls

section Runs

variable (settings : Settings)

/-- In every run, what passes for settled has a distribution set installed. -/
theorem inSync_installed (calls : List Call) : Equipped (history settings calls).present := by
  induction calls using List.reverseRecOn with
  | nil => exact Deployments.equipped_empty
  | append_singleton calls c ih =>
    rw [history_concat]
    exact (c.settling (coherent_history settings calls) (keyed_history settings calls)).equipped ih

/-- What passes for settled has a set installed, and that one is assigned while none misleads. -/
theorem settled_iff_none_misled (calls : List Call) :
    Equipped (history settings calls).present ∧
      ((∀ before, before <+: calls → Settled (history settings before).present) ↔
        ∀ before c, before ++ [c] <+: calls →
          ¬ Misled (history settings before).present (history settings (before ++ [c])).present) := by
  have settling (before : List Call) (c : Call) :
      Settling (history settings before).present (history settings (before ++ [c])).present := by
    rw [history_concat]
    exact c.settling (coherent_history settings before) (keyed_history settings before)
  refine ⟨inSync_installed settings calls, ?_, ?_⟩
  -- A call that misleads leaves an unsettled target behind.
  · intro settled before c initial misled
    exact (settling before c).misled misled (settled (before ++ [c]) initial)
  -- Where nothing misleads, every call keeps what the one before it has left.
  · intro clean before
    induction before using List.reverseRecOn with
    | nil => exact fun _ => Deployments.settled_empty
    | append_singleton before c ih =>
      intro initial
      exact (settling before c).settled (ih ((List.prefix_append before [c]).trans initial))
        (clean before c initial)

end Runs

/-- A run in which a new deployment fails, and the one that it replaced is installed after that. -/
def lateInstallation : List Call :=
  [⟨.epoch, .createSet "t" "a" "1" []⟩,
   ⟨.epoch, .createSet "t" "b" "1" []⟩,
   ⟨.epoch, .createTarget "t" "d" .empty⟩,
   ⟨.epoch, .assign "t" "d" ⟨1, .forced, none, none, none⟩⟩,
   ⟨.epoch, .assign "t" "d" ⟨2, .forced, none, none, none⟩⟩,
   ⟨.epoch, .report "t" "d" 3 ⟨.closed, .failure, none, none, []⟩ false⟩,
   ⟨.epoch, .report "t" "d" 1 ⟨.closed, .success, none, none, []⟩ false⟩]

set_option maxRecDepth 10000 in
/-- What passes for settled can have another set assigned than is installed. -/
theorem lateInstallation_not_settled :
    ¬ Settled (history .standard lateInstallation).present := by
  -- The target is in sync although what is installed is not what is assigned.
  intro settled
  have found : ((history .standard lateInstallation).present.target? "t" "d").any (fun t =>
      t.status == .inSync && t.assigned == some 2 && t.installed == some 1) = true := by
    decide +kernel
  obtain ⟨t, stored, shown⟩ := (Option.any_eq_true _ _).mp found
  simp only [Bool.and_eq_true, beq_iff_eq] at shown
  have same := (settled stored shown.1.1).assigned
  rw [shown.1.2, shown.2] at same
  cases same

end DeviceUpdate.Service
