import DeviceUpdate.Proofs.Service.Coherence

/-! What calls are made of: writes of targets and actions, and rollouts and groups that move on. -/

namespace DeviceUpdate

/-- A group as it was planned, whatever has become of it. -/
def RolloutGroup.outline (g : RolloutGroup) : RolloutGroup :=
  { g with status := .ready }

/-- What does not depend on the status is told by the outline of a group as well. -/
theorem RolloutGroup.exists_outline_iff {P : RolloutGroup → Prop}
    (outlined : ∀ g, P g.outline ↔ P g) (stored : Option RolloutGroup) :
    (∃ g, stored.map (·.outline) = some g ∧ P g) ↔ ∃ g, stored = some g ∧ P g := by
  cases stored <;> simp [outlined]

namespace Rollouts

/-- Rollouts and groups may move on, and nothing else changes. -/
structure Stands (s s' : Store) : Prop where
  frame : Frame s s'
  members : s'.members = s.members
  groupActions : s'.groupActions = s.groupActions
  next : s'.nextNumber groupSequence = s.nextNumber groupSequence
  groups : ∀ id, (s'.groups.get? id).map (·.outline) = (s.groups.get? id).map (·.outline)

variable {s s' s'' : Store} {g : RolloutGroup} {id : Nat}

theorem Stands.refl (s : Store) : Stands s s :=
  ⟨.of_eq rfl rfl rfl rfl rfl rfl, rfl, rfl, rfl, fun _ => rfl⟩

theorem Stands.trans (first : Stands s s') (second : Stands s' s'') : Stands s s'' where
  -- What both leave alone is left alone by the two together.
  frame :=
    { targets := second.frame.targets.trans first.frame.targets
      sets := second.frame.sets.trans first.frame.sets
      actions := second.frame.actions.trans first.frame.actions
      targetActions := second.frame.targetActions.trans first.frame.targetActions
      log := second.frame.log.trans first.frame.log
      next := fun drawn other group =>
        (second.frame.next drawn other group).trans (first.frame.next drawn other group) }
  members := second.members.trans first.members
  groupActions := second.groupActions.trans first.groupActions
  next := second.next.trans first.next
  groups id := (second.groups id).trans (first.groups id)

/-- A group is stored exactly if it was, and for as many targets. -/
theorem Stands.outlined (stands : Stands s s') (found : s'.groups.get? id = some g) :
    ∃ before, s.groups.get? id = some before ∧ before.outline = g.outline := by
  have same := stands.groups id
  rw [found, Option.map_some] at same
  exact Option.map_eq_some_iff.mp same.symm

/-- A change of the record of a rollout leaves all else alone. -/
theorem Stands.putRollout (s : Store) (r : Rollout) : Stands s (s.putRollout r) :=
  ⟨.of_eq rfl rfl rfl rfl rfl rfl, rfl, rfl, rfl, fun _ => rfl⟩

/-- A change of the status of a group leaves all else alone. -/
theorem Stands.putGroup (stored : s.groups.get? g.id = some g) (status : GroupStatus) :
    Stands s (s.putGroup { g with status := status }) := by
  refine ⟨.of_eq rfl rfl rfl rfl rfl rfl, rfl, rfl, rfl, fun id => ?_⟩
  -- Of the group only the status is written, and that is no part of the outline.
  rw [get?_putGroup]
  split
  · rename_i here
    rw [here, stored]
    rfl
  · rfl

/-- The schedule of groups changes their statuses alone. -/
theorem Stands.schedule (placed : Placed s) (groups : List RolloutGroup) :
    Stands s (scheduleGroups groups s) := by
  -- The groups are moved one after the other.
  induction groups generalizing s with
  | nil => exact .refl s
  | cons g rest ih =>
    have moved : Stands s (s.moveGroup g.id [.ready] .scheduled).2 := by
      unfold Store.moveGroup
      split
      · rename_i h found
        split
        · exact .putGroup (by rw [placed.groupOwn found]; exact found) .scheduled
        · exact .refl s
      · exact .refl s
    exact moved.trans (ih (placed.moveGroup g.id [.ready] .scheduled))

theorem Start.stands (start : Start id s s') (placed : Placed s) : Stands s s' := by
  cases start with | started r stored own =>
  subst own
  have running : Placed (s.putRollout { r with status := .running }) :=
    placed.putRollout stored rfl rfl
  exact (Stands.putRollout s _).trans (.schedule running _)

theorem Failure.stands (failure : Failure id s s') : Stands s s' := by
  cases failure with | failed r =>
  exact .putRollout s _

theorem Turn.stands (turn : Turn id s s') : Stands s s' := by
  cases turn with
  | noted note => cases note <;> exact .putRollout s _
  | settled r g status runs => exact .putGroup runs.storedGroup status
  | skipped r g runs => exact .putGroup runs.storedGroup .finished

theorem Turns.stands (turns : Turns id s s') : Stands s s' := by
  induction turns with
  | refl => exact .refl s
  | tail _ turn ih => exact ih.trans turn.stands

end Rollouts

namespace Service

open Deployments (Indexed)
open Rollouts (Evaluation Stands)

/-- A relation of states that every single change establishes, and that adds up over a run. -/
structure Accrues (settings : Settings) (R : Store → Store → Prop) : Prop where
  refl : ∀ s, R s s
  trans : ∀ {s s' s'' : Store}, R s s' → R s' s'' → R s s''
  step : ∀ {s s' : Store}, Deployments.Step settings s s' → Indexed s → R s s'
  resumption : ∀ {s s' : Store} {cancel subject : Action},
    Deployments.Resumption cancel subject s s' → R s s'
  stands : ∀ {s s' : Store}, Stands s s' → R s s'

variable {settings : Settings} {started : Nat → Prop} {R : Store → Store → Prop} {s s' : Store}
  {h : History} {c : Call}

/-- Two relations that accrue do so together. -/
theorem Accrues.and {Q : Store → Store → Prop} (accrues : Accrues settings R)
    (other : Accrues settings Q) : Accrues settings fun s s' => R s s' ∧ Q s s' where
  refl s := ⟨accrues.refl s, other.refl s⟩
  trans first second := ⟨accrues.trans first.1 second.1, other.trans first.2 second.2⟩
  step step indexed := ⟨accrues.step step indexed, other.step step indexed⟩
  resumption resumption := ⟨accrues.resumption resumption, other.resumption resumption⟩
  stands stands := ⟨accrues.stands stands, other.stands stands⟩

/-- What accrues over single steps accrues over runs of them. -/
theorem Accrues.steps (accrues : Accrues settings R) (steps : Deployments.Steps settings s s')
    (indexed : Indexed s) : R s s' := by
  induction steps with
  | refl => exact accrues.refl s
  | tail before step ih =>
    have between : Indexed _ := Deployments.Steps.indexed before indexed
    exact accrues.trans ih (accrues.step step between)

/-- What accrues over single changes accrues over an evaluation. -/
theorem Accrues.evaluation (accrues : Accrues settings R) {id : Nat}
    (evaluation : Evaluation settings id s s') (coherent : Coherent started s) : R s s' := by
  cases evaluation with | evaluated between round notes =>
  refine accrues.trans ?_ (accrues.stands notes.turns.stands)
  -- Turns and notes stand, and a launch is made of a move and of steps.
  cases round with
  | quiet turns => exact accrues.stands turns.stands
  | launching before turns launches =>
    cases launches with | launched r g now runs own waits turn launch =>
    have first : Steps settings s before := turns.steps
    have indexed := (first.coherent coherent).indexed
    -- The group runs before its members are served.
    have begins : Stands s (before.putGroup { g with status := .running }) :=
      turns.stands.trans (.putGroup runs.storedGroup .running)
    have served : Indexed (before.putGroup { g with status := .running }) :=
      indexed.putGroup _
    exact accrues.trans (accrues.stands begins) (accrues.steps (launch.steps served) served)

/-- What accrues over single changes accrues over a call that neither plants nor removes. -/
theorem Deed.accrues (deed : Deed settings h c s') (coherent : Coherent started h.present)
    (accrues : Accrues settings R) :
    R h.present s' ∨
      (∃ tenant q since members total, c.operation = .createRollout tenant q since ∧
        s' = h.present.plant tenant q members total c.now) ∨
      ∃ r, h.present.rollouts.get? r.id = some r ∧ s' = (h.present.removeRollout r.id).2 := by
  -- Planning and removing are told apart, since they change which groups there are.
  cases deed with
  | acted steps => exact Or.inl (accrues.steps steps coherent.indexed)
  | resumed cancel subject own resumption => exact Or.inl (accrues.resumption resumption)
  | planned tenant q since members total own valid same =>
    exact Or.inr (Or.inl ⟨tenant, q, since, members, total, own, same⟩)
  | started id start => exact Or.inl (accrues.stands (start.stands coherent.placed))
  | moved r status stored moves requests =>
    have indexed := coherent.indexed
    have steps : Deployments.Steps settings _ s' := requests.steps
    exact Or.inl (accrues.trans (accrues.stands (.putRollout h.present _))
      (accrues.steps steps (indexed.putRollout _)))
  | evaluated r stored running evaluation =>
    exact Or.inl (accrues.evaluation evaluation coherent)
  | failed id since expression fault fails failure => exact Or.inl (accrues.stands failure.stands)
  | removed r stored deleting same => exact Or.inr (Or.inr ⟨r, stored, same⟩)

end Service

end DeviceUpdate
