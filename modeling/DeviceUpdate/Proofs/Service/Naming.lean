import DeviceUpdate.Proofs.Service.Isolation

/-! Tenants without slashes in their names: whatever they do, each of them is isolated. -/

namespace DeviceUpdate

open Deployments (Confined Indexed Keyed Separate)
open Service (Coherent apart_iff)
open Target (Slashless)

namespace Deployments

/-- All targets and actions are of tenants without slashes in their names. -/
structure Plain (s : Store) : Prop where
  targets : ∀ {key : String} {t : Target}, s.targets.get? key = some t → Slashless t.tenant
  actions : ∀ {id : Nat} {a : Action}, s.actions.get? id = some a → Slashless a.tenant

variable {tenant : String} {s s' : Store}

/-- Nothing is stored at the start. -/
theorem plain_empty : Plain .empty := by
  constructor <;> intros <;> simp_all [Store.empty]

/-- What a tenant without slashes does leaves only such tenants behind. -/
theorem Plain.confined (plain : Plain s) (slashless : Slashless tenant)
    (confined : Confined tenant s s') : Plain s' where
  -- Whoever has another tenant was there before.
  targets {key t} found := by
    by_cases own : t.tenant = tenant
    · rw [own]
      exact slashless
    · exact plain.targets ((confined.targets own).mp found)
  actions {id a} found := by
    by_cases own : a.tenant = tenant
    · rw [own]
      exact slashless
    · exact plain.actions ((confined.actions own).mp found)

/-- Where targets and actions are the same, their tenants are. -/
theorem Plain.unchanged (plain : Plain s) (targets : s'.targets = s.targets)
    (actions : s'.actions = s.actions) : Plain s' where
  targets found := plain.targets (by rw [← targets]; exact found)
  actions found := plain.actions (by rw [← actions]; exact found)

/-- A transaction leaves only tenants without slashes behind if its success does. -/
theorem Plain.run {ε α : Type} (plain : Plain s) (t : Transaction ε α)
    (succeeds : ∀ a s', t s = .ok (a, s') → Plain s') : Plain (t.run s).2 := by
  rcases t.run_cases s with same | ⟨a, done⟩
  · rw [same]
    exact plain
  · exact succeeds a _ done

/-- Among tenants without slashes, each finds its own alone. -/
theorem Plain.separate (plain : Plain s) (slashless : Slashless tenant) (indexed : Indexed s)
    (keyed : Keyed s) : Separate tenant s := by
  refine (apart_iff indexed keyed).mp ⟨fun found => ?_, fun found => ?_⟩
  · exact slashless.not_collides (plain.targets found) _
  · exact slashless.not_collides (plain.actions found) _

end Deployments

namespace Rollouts

/-- All rollouts are of tenants without slashes in their names. -/
def Plain (s : Store) : Prop :=
  ∀ ⦃id : Nat⦄ ⦃r : Rollout⦄, s.rollouts.get? id = some r → Slashless r.tenant

variable {settings : Settings} {started : Nat → Prop} {s s' : Store} {r : Rollout}
  {tenant controller : String} {group id : Nat} {now : Instant}

/-- Nothing is stored at the start. -/
theorem plain_empty : Plain .empty := by
  intro id r found
  simp [Store.empty] at found

/-- What is done for a member of a group is done for the tenant of the rollout. -/
theorem Enrols.confined {own : TenantSettings} (enrols : Enrols own r group now controller s s')
    (indexed : Indexed s) (keyed : Keyed s) (separate : Separate r.tenant s) :
    Confined r.tenant s s' := by
  cases enrols with
  | gone absent => exact .refl r.tenant s
  | assigned result assigns => exact assigns.confined indexed keyed separate

/-- What is done for all members of a group is done for the tenant of the rollout. -/
theorem Launch.confined {members : List String}
    (launch : Launch (settings.tenant r.tenant) r group now members s s')
    (slashless : Slashless r.tenant) (indexed : Indexed s) (keyed : Keyed s)
    (plain : Deployments.Plain s) : Confined r.tenant s s' := by
  induction launch with
  | nil s => exact .refl r.tenant s
  | cons first others ih =>
    -- The others are served in a state in which the tenant still finds its own alone.
    have steps : Deployments.Steps settings _ _ := first.steps indexed
    have served : Confined r.tenant _ _ :=
      first.confined indexed keyed (plain.separate slashless indexed keyed)
    exact served.trans (ih (steps.indexed indexed) (Service.Steps.keyed (.deployment steps) keyed)
      (plain.confined slashless served))

/-- Turns change neither targets nor actions. -/
theorem Turns.confined (turns : Turns id s s') (tenant : String) : Confined tenant s s' := by
  induction turns with
  | refl => exact .refl tenant s
  | tail _ turn ih => exact ih.trans (.of_eq turn.step.frame.targets turn.step.frame.actions)

/-- An evaluation of a rollout is confined to its tenant. -/
theorem Evaluation.confined (evaluation : Evaluation settings r.id s s')
    (stored : s.rollouts.get? r.id = some r) (coherent : Coherent started s) (keyed : Keyed s)
    (plain : Deployments.Plain s) (slashless : Slashless r.tenant) : Confined r.tenant s s' := by
  cases evaluation with | evaluated between round notes =>
  refine Confined.trans ?_ (notes.turns.confined r.tenant)
  cases round with
  | quiet turns => exact turns.confined r.tenant
  | launching before turns launches =>
    cases launches with | launched r' g now runs own waits turn launch =>
    -- The rollout that launches the group is the one that was stored before its turns.
    obtain ⟨status, check, moved, -⟩ := turns.conducts.moved stored
    rw [← own, runs.stored] at moved
    have owner : r'.tenant = r.tenant := by rw [Option.some.inj moved]
    have steps : Service.Steps settings s before := turns.steps
    have indexed := (steps.coherent coherent).indexed
    have kept := Service.Steps.keyed steps keyed
    have first := turns.confined r.tenant
    have begins : Confined r.tenant s (before.putGroup { g with status := .running }) :=
      first.trans (.of_eq rfl rfl)
    have launched : Confined r'.tenant _ between :=
      launch.confined (by rw [owner]; exact slashless)
        (indexed.putGroup _) (kept.unchanged rfl)
        (plain.confined slashless begins)
    rw [owner] at launched
    exact begins.trans launched

end Rollouts

namespace Service

variable {settings : Settings} {started : Nat → Prop} {h : History} {c : Call} {calls : List Call}
  {tenant : String}

/-- A call that is not issued under a tenant with a slash in its name. -/
def Call.Slashless (c : Call) : Prop :=
  ∀ tenant, c.operation.tenant? = some tenant → Target.Slashless tenant

/-- What a tick does leaves only targets and actions of tenants without slashes. -/
theorem Call.plain_of_tick (tick : c.operation.tenant? = none)
    (coherent : Coherent started h.present) (keyed : Keyed h.present)
    (rollouts : Rollouts.Plain h.present) (plain : Deployments.Plain h.present) :
    Deployments.Plain (c.apply settings h) := by
  obtain ⟨now, operation⟩ := c
  -- What belongs to the rollouts alone changes neither targets nor actions.
  have aside {s' : Store} (frame : Rollouts.Frame h.present s') : Deployments.Plain s' :=
    plain.unchanged frame.targets frame.actions
  cases operation with
  -- A tick starts, evaluates, marks or purges.
  | startDue id =>
    refine plain.run _ fun _ _ done => ?_
    rcases Rollouts.startIn_eq_ok coherent.placed done with same | start
    · rw [same]
      exact plain
    · exact aside start.frame
  | evaluate id =>
    refine plain.run _ fun _ _ done => ?_
    rcases Rollouts.evaluate_eq_ok coherent done with same | ⟨r, stored, -, evaluation⟩
    · rw [same]
      exact plain
    · have slashless := rollouts stored
      exact plain.confined slashless (evaluation.confined stored coherent keyed plain slashless)
  | markFailed id since =>
    simp only [Call.apply]
    split
    · exact plain
    · rename_i e _
      rcases Rollouts.onFailure_cases coherent.placed e with same | ⟨-, failure⟩
      · rw [same]
        exact plain
      · exact aside failure.frame
  | purge id =>
    refine plain.run _ fun _ _ done => ?_
    rcases Rollouts.purge_eq_ok coherent.placed done with same | ⟨r, stored, deleting, same⟩
    · rw [same]
      exact plain
    · rw [same]
      exact aside (Rollouts.Step.removed h.present r stored deleting).frame
  -- All other operations are issued under a tenant.
  | _ => cases tick

/-- Calls issued under tenants without slashes leave only their targets and actions. -/
theorem Call.plain (slashless : c.Slashless) (coherent : Coherent started h.present)
    (keyed : Keyed h.present) (owned : Rollouts.Owned h.present)
    (rollouts : Rollouts.Plain h.present) (plain : Deployments.Plain h.present) :
    Deployments.Plain (c.apply settings h) := by
  cases issued : c.operation.tenant? with
  -- A call under no tenant belongs to a tick, and any other is confined to its tenant.
  | none => exact c.plain_of_tick issued coherent keyed rollouts plain
  | some tenant =>
    have own := slashless tenant issued
    exact plain.confined own
      (c.confined issued coherent keyed owned (plain.separate own coherent.indexed keyed))

/-- A rollout is of the tenant that has asked for it, so it has no slash either. -/
theorem Call.plain_rollouts (slashless : c.Slashless) (coherent : Coherent started h.present)
    (plain : Rollouts.Plain h.present) : Rollouts.Plain (c.apply settings h) := by
  intro id r found
  rcases (c.deed h coherent).continues_or_plants coherent with
    continues | ⟨tenant, q, since, members, total, issued, same⟩
  -- A rollout keeps its tenant, and a new one has the tenant of its request.
  · obtain ⟨before, stored, plan⟩ := continues.origin found
    have own := plain stored
    rw [plan]
    exact own
  · rw [same, Store.rollout_plant] at found
    split at found
    · rw [← Option.some.inj found]
      exact slashless tenant (by rw [issued]; rfl)
    · exact plain found

/-- A run that is issued under tenants without slashes stores only what is theirs. -/
theorem plain_history (settings : Settings) (slashless : ∀ c ∈ calls, c.Slashless) :
    Deployments.Plain (history settings calls).present ∧
      Rollouts.Plain (history settings calls).present := by
  induction calls using List.reverseRecOn with
  -- Both are carried together, since rollouts deploy under their tenants.
  | nil => exact ⟨Deployments.plain_empty, Rollouts.plain_empty⟩
  | append_singleton calls c ih =>
    obtain ⟨plain, rollouts⟩ := ih fun d member => slashless d (List.mem_append_left _ member)
    have own : c.Slashless := slashless c (by simp)
    have coherent := coherent_history settings calls
    rw [history_concat]
    exact ⟨c.plain own coherent (keyed_history settings calls) (owned_history settings calls)
      rollouts plain, c.plain_rollouts own coherent rollouts⟩

/-- Where no tenant has a slash in its name, every tenant is isolated. -/
theorem isolated_of_slashless (settings : Settings) (slashless : ∀ c ∈ calls, c.Slashless)
    (own : Target.Slashless tenant) : Isolated settings (history settings calls) tenant := by
  obtain ⟨plain, -⟩ := plain_history settings slashless
  exact isolated_of_separate
    (plain.separate own (coherent_history settings calls).indexed (keyed_history settings calls))

end Service

end DeviceUpdate
