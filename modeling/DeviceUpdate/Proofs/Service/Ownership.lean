import DeviceUpdate.Proofs.Deployment.Tenancy
import DeviceUpdate.Proofs.Service.Lifecycle
import DeviceUpdate.Proofs.Service.Once

/-! Whose the targets and the deployments of groups are, in every state of every run. -/

namespace DeviceUpdate

open Deployments (Keyed Serves)

namespace Rollouts

/-- The deployments for the groups of a rollout are of its tenant. -/
def Owned (s : Store) : Prop :=
  ∀ ⦃id : Nat⦄ ⦃a : Action⦄ ⦃m : Membership⦄ ⦃g : RolloutGroup⦄, s.actions.get? id = some a →
    Serves a m → s.groups.get? m.group = some g →
    ∃ r, s.rollouts.get? g.rollout = some r ∧ r.tenant = a.tenant

variable {s s' : Store}

/-- Nothing is stored at the start. -/
theorem owned_empty : Owned .empty := by
  intro id a m g stored
  simp [Store.empty] at stored

/-- A rollout that stays stays as it was planned. -/
theorem Lives.samePlan (lives : Lives s s') {id : Nat} {r r' : Rollout}
    (before : s.rollouts.get? id = some r) (after : s'.rollouts.get? id = some r') :
    SamePlan r r' := by
  have passes := lives id
  rw [before, after] at passes
  cases passes with
  | kept plan same => exact plan
  | moved plan allowed => exact plan

end Rollouts

namespace Service

open Rollouts (Commences Owned SamePlan Served)

variable {settings : Settings} {started now : Nat → Prop} {h : History} {c : Call} {s' : Store}

/-- What is deployed for a stored group was so before, or is deployed now for its rollout. -/
theorem Deed.serving (deed : Deed settings h c s') (coherent : Coherent started h.present)
    (after : Coherent now s') (served : Served h.present) {id : Nat} {b : Action} {m : Membership}
    {g : RolloutGroup} (stored : s'.actions.get? id = some b) (serves : Serves b m)
    (found : s'.groups.get? m.group = some g) :
    ∃ r r', h.present.rollouts.get? g.rollout = some r ∧ s'.rollouts.get? g.rollout = some r' ∧
      SamePlan r r' ∧
      ((∃ a f status active now, h.present.actions.get? id = some a ∧ Serves a m ∧
          b = a.moved status active now ∧ h.present.groups.get? m.group = some f ∧
          f.rollout = g.rollout) ∨
        b.tenant = r.tenant ∧
          (b.deployment?.any fun d => d.distributionSet == r.distributionSet) = true) := by
  -- The rollout of the group is still stored, and as it was planned.
  have number := after.placed.groupOwn found
  obtain ⟨r', known, -⟩ := after.placed.within (g := g) (by rw [number]; exact found)
  have kept {r : Rollout} (before : h.present.rollouts.get? g.rollout = some r) : SamePlan r r' :=
    (deed.lives coherent).samePlan before known
  rcases deed.deploys coherent served stored serves with
    ⟨a, status, active, time, before, rfl⟩ | ⟨r, f, commences, here⟩
  -- An older deployment was made for the rollout as it is now, since its plan stays.
  · have same : Serves a m := ⟨serves.deploys, serves.member⟩
    obtain ⟨f, was, plan, -⟩ := (deed.ages coherent (served.drawn before same)).before found
    have own : f.rollout = g.rollout := by rw [plan]
    have numbered := coherent.placed.groupOwn was
    obtain ⟨r, storedR, -⟩ := coherent.placed.within (g := f) (by rw [numbered]; exact was)
    rw [own] at storedR
    exact ⟨r, r', storedR, known, kept storedR,
      Or.inl ⟨a, f, status, active, time, before, same, rfl, was, own⟩⟩
  -- A new deployment is made for the tenant of the rollout, and of its set.
  · obtain ⟨-, owner, -⟩ := commences.manned.own stored serves here
    obtain ⟨-, delivers⟩ := commences.manned.current stored serves here
    obtain ⟨before, storedR, tenant⟩ := commences.known
    have set := commences.set before storedR
    obtain ⟨waiting, -⟩ := commences.waits
    rw [here] at found
    obtain ⟨f', was, plan, -⟩ :=
      (deed.ages coherent (coherent.placed.groupDrawn waiting)).before found
    have own : g.rollout = r.id := by
      rw [plan, Option.some.inj (was.symm.trans waiting)]
      exact commences.own
    rw [own] at known kept ⊢
    exact ⟨before, r', storedR, known, kept storedR,
      Or.inr ⟨owner.trans tenant.symm, by rw [set]; exact delivers⟩⟩

/-- Every deed leaves the deployments for groups with the tenants of their rollouts. -/
theorem Deed.owned (deed : Deed settings h c s') (coherent : Coherent started h.present)
    (after : Coherent now s') (served : Served h.present) (owned : Owned h.present) :
    Owned s' := by
  intro id b m g stored serves found
  obtain ⟨r, r', before, known, plan, origin⟩ :=
    deed.serving coherent after served stored serves found
  refine ⟨r', known, ?_⟩
  have kept : r'.tenant = r.tenant := by rw [plan]
  -- The deployment was owned before, or it is made for the tenant of the rollout.
  rcases origin with ⟨a, f, _, _, _, was, same, moved, listed, own⟩ | ⟨owner, -⟩
  · obtain ⟨r₀, stored₀, owner⟩ := owned was same listed
    rw [own, before] at stored₀
    rw [kept, Option.some.inj stored₀, owner, moved]
    rfl
  · rw [kept, owner]

/-- In every state of every run, deployments for groups are of the tenants of their rollouts. -/
theorem owned_history (settings : Settings) (calls : List Call) :
    Owned (history settings calls).present :=
  history_holds Rollouts.owned_empty
    (fun calls c deed => deed.owned (coherent_history settings calls)
      (coherent_history settings (calls ++ [c])) (served_history settings calls)) calls

/-- Runs of steps leave targets under their keys. -/
theorem Steps.keyed {s : Store} (steps : Steps settings s s') (keyed : Keyed s) : Keyed s' := by
  induction steps with
  | refl => exact keyed
  | tail _ step ih =>
    cases step with
    | deployment step => exact step.keyed ih
    | rollout step => exact ih.unchanged step.frame.targets

/-- What a call comes to leaves targets under their keys. -/
theorem Effect.keyed {s : Store} {operation : Operation} (effect : Effect settings operation s s')
    (keyed : Keyed s) : Keyed s' := by
  -- Targets stay under their keys, whatever kind of effect it is.
  cases effect with
  | steps steps => exact Steps.keyed steps keyed
  | resumed cancel subject own resumption =>
    cases resumption with | resumed time pending =>
    exact keyed.unchanged rfl
  | started id start => exact keyed.unchanged start.frame.targets
  | failed id failure => exact keyed.unchanged failure.frame.targets

/-- In every state of every run, targets stand under their keys. -/
theorem keyed_history (settings : Settings) (calls : List Call) :
    Keyed (history settings calls).present :=
  history_holds Deployments.keyed_empty
    (fun calls _ deed => (deed.effect (coherent_history settings calls)).keyed) calls

end Service

end DeviceUpdate
