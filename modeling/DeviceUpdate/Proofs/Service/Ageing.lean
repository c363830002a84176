import DeviceUpdate.Proofs.Service.Coherence

/-! Groups only go forward: from waiting to running, and from running to an end. -/

namespace DeviceUpdate

/-- How far a group has come. -/
def GroupStatus.rank : GroupStatus → Nat
  | creating | ready => 0
  | scheduled => 1
  | running => 2
  | finished | error => 3

/-- A group that can be started has not come as far as to run. -/
theorem GroupStatus.rank_of_startable {status : GroupStatus} (waits : status ∈ Rollouts.startable) :
    status.rank ≤ 1 := by
  cases status <;> simp_all [Rollouts.startable, GroupStatus.rank]

/-- A settled group has come as far as it can. -/
theorem GroupStatus.rank_of_settled {status : GroupStatus} (ends : status.isSettled = true) :
    status.rank = 3 := by
  cases status <;> simp_all [GroupStatus.isSettled, GroupStatus.rank]

/-- Only what runs has come exactly as far. -/
theorem GroupStatus.rank_eq_running {status : GroupStatus} :
    status.rank = 2 ↔ status = running := by
  cases status <;> simp [GroupStatus.rank]

namespace Rollouts

/-- A group that is found later was there before, on the same plan, and has not gone back. -/
structure Ages (id : Nat) (s s' : Store) : Prop where
  next : s.nextNumber groupSequence ≤ s'.nextNumber groupSequence
  before : ∀ {h : RolloutGroup}, s'.groups.get? id = some h → ∃ g, s.groups.get? id = some g ∧
    h = { g with status := h.status } ∧ g.status.rank ≤ h.status.rank

section Changes

variable {settings : Settings} {s s' s'' : Store} {id rollout : Nat}

/-- Nothing about a group changes where it is found as it was. -/
theorem Ages.of_found (next : s'.nextNumber groupSequence = s.nextNumber groupSequence)
    (found : s'.groups.get? id = s.groups.get? id) : Ages id s s' where
  next := Nat.le_of_eq next.symm
  before here := ⟨_, found.symm.trans here, rfl, Nat.le_refl _⟩

theorem Ages.refl (id : Nat) (s : Store) : Ages id s s :=
  .of_found rfl rfl

theorem Ages.trans (first : Ages id s s') (second : Ages id s' s'') : Ages id s s'' where
  next := Nat.le_trans first.next second.next
  before here := by
    obtain ⟨g, between, same, up⟩ := second.before here
    obtain ⟨f, stored, equal, before⟩ := first.before between
    exact ⟨f, stored, by rw [same, equal], Nat.le_trans before up⟩

/-- A change of the record of a rollout changes no group. -/
theorem Ages.putRollout (id : Nat) (s : Store) (r : Rollout) : Ages id s (s.putRollout r) :=
  .of_found rfl rfl

/-- The steps of targets and actions change no group. -/
theorem Ages.of_frame (frame : Deployments.Frame s s') (id : Nat) : Ages id s s' :=
  .of_found (frame.next _ (by decide) (by decide)) (by rw [frame.groups])

/-- A group may change to a status that is further on. -/
theorem Ages.putGroup {g : RolloutGroup} (stored : s.groups.get? g.id = some g)
    {status : GroupStatus} (up : g.status.rank ≤ status.rank) (id : Nat) :
    Ages id s (s.putGroup { g with status := status }) where
  next := Nat.le_refl _
  before here := by
    rw [get?_putGroup] at here
    split at here
    -- What is found under the number of the group is the group.
    · rename_i same
      rw [← Option.some.inj here, same]
      exact ⟨g, stored, rfl, up⟩
    · exact ⟨_, here, rfl, Nat.le_refl _⟩

/-- Planting a rollout changes no group that has a number already. -/
theorem Ages.plant {tenant : String} {q : Request} {members : List (List String)} {total : Nat}
    {now : Instant} (drawn : id < s.nextNumber groupSequence) :
    Ages id s (s.plant tenant q members total now) where
  next := by
    rw [Store.nextNumber_plant]
    omega
  -- An old group is not among those that are laid.
  before here := by
    rw [Store.group_plant_of_old (Or.inl drawn)] at here
    exact ⟨_, here, rfl, Nat.le_refl _⟩

/-- Removing a rollout leaves the groups of others as they are. -/
theorem Ages.removeRollout (placed : Placed s) (rollout id : Nat) :
    Ages id s (s.removeRollout rollout).2 where
  next := Nat.le_of_eq (nextNumber_removeRollout s rollout groupSequence).symm
  before here := ⟨_, (placed.group_removeRollout.mp here).1, rfl, Nat.le_refl _⟩

/-- The start of a rollout takes its groups forward to their schedule. -/
theorem Start.ages (start : Start rollout s s') (placed : Placed s) (id : Nat) : Ages id s s' := by
  cases start with | started r stored own =>
  subst own
  have running : Placed (s.putRollout { r with status := .running }) :=
    placed.putRollout stored rfl rfl
  constructor
  -- The start draws no number.
  case next =>
    rw [scheduleGroups_frame]
    exact Nat.le_refl _
  case before =>
    intro h here
    rw [running.get?_scheduleGroups] at here
    obtain ⟨g, found, same⟩ := Option.map_eq_some_iff.mp here
    refine ⟨g, found, ?_⟩
    -- Only what is ready is scheduled.
    split at same
    · rename_i listed
      rw [← same]
      exact ⟨rfl, by simp [listed.2, GroupStatus.rank]⟩
    · rw [← same]
      exact ⟨rfl, Nat.le_refl _⟩

/-- The failure of a rollout changes no group. -/
theorem Failure.ages (failure : Failure rollout s s') (id : Nat) : Ages id s s' := by
  cases failure with | failed r =>
  exact .putRollout id s _

/-- A change of the record in an evaluation changes no group. -/
theorem Note.groups (note : Note rollout s s') : s'.groups = s.groups := by
  cases note <;> rfl

/-- Every turn takes groups forward. -/
theorem Turn.ages (turn : Turn rollout s s') (id : Nat) : Ages id s s' := by
  cases turn with
  | noted note =>
    cases note with
    | paused r => exact .putRollout id s _
    | completed r => exact .putRollout id s _
    | examined r => exact .putRollout id s _
  -- A group that settles has been running.
  | settled r g status runs own active ends =>
    refine .putGroup runs.storedGroup ?_ id
    rw [active, GroupStatus.rank_of_settled ends]
    decide
  -- A group that is skipped has been waiting.
  | skipped r g runs own waits =>
    refine .putGroup runs.storedGroup ?_ id
    have low := GroupStatus.rank_of_startable waits
    exact Nat.le_trans low (by decide)

theorem Turns.ages (turns : Turns rollout s s') (id : Nat) : Ages id s s' := by
  induction turns with
  | refl => exact .refl id s
  | tail _ turn ih => exact ih.trans (turn.ages id)

/-- A launch takes its group forward, and no other changes. -/
theorem Launches.ages (launches : Launches settings rollout s s') (indexed : Deployments.Indexed s)
    (id : Nat) : Ages id s s' := by
  cases launches with | launched r g now runs own waits turn launch =>
  have low := GroupStatus.rank_of_startable waits
  have begins : Ages id s (s.putGroup { g with status := .running }) :=
    .putGroup runs.storedGroup (Nat.le_trans low (by decide)) id
  -- The assignments to the members leave all groups as they are.
  have steps : Deployments.Steps settings _ s' :=
    launch.steps (indexed.putGroup _)
  exact begins.trans (.of_frame steps.frame id)

/-- Every evaluation takes groups forward. -/
theorem Evaluation.ages {started : Nat → Prop} (evaluation : Evaluation settings rollout s s')
    (coherent : Service.Coherent started s) (id : Nat) : Ages id s s' := by
  cases evaluation with | evaluated between round notes =>
  -- The notes behind the round age the groups like any other turns.
  refine Ages.trans ?_ (notes.turns.ages id)
  cases round with
  | quiet turns => exact turns.ages id
  | launching before turns launches =>
    have steps : Service.Steps settings s before := turns.steps
    exact (turns.ages id).trans (launches.ages (steps.coherent coherent).indexed id)

end Changes

end Rollouts

namespace Service

open Rollouts (Ages groupSequence)

variable {settings : Settings} {started : Nat → Prop} {h : History} {c : Call} {s' : Store}
  {id : Nat}

/-- How a group comes to be found as it is after a call. -/
inductive GroupOrigin (settings : Settings) (s s' : Store) (id : Nat) (g : RolloutGroup) : Prop
  | kept (before : s.groups.get? id = some g)
  | planted (absent : s.groups.get? id = none) (ready : g.status = .ready)
  /-- The start of a rollout schedules its own groups. -/
  | scheduled (r : Rollout) (f : RolloutGroup) (stored : s.rollouts.get? f.rollout = some r)
      (ready : r.status = .ready) (before : s.groups.get? id = some f)
      (same : g = { f with status := .scheduled })
  | evaluated (r : Rollout) (stored : s.rollouts.get? r.id = some r)
      (running : r.status = .running) (evaluation : Rollouts.Evaluation settings r.id s s')

/-- A group is found after a deed as it was, or the deed is one of those that change groups. -/
theorem Deed.group_origin (deed : Deed settings h c s') (coherent : Coherent started h.present)
    {g : RolloutGroup} (found : s'.groups.get? id = some g) :
    GroupOrigin settings h.present s' id g := by
  -- Most deeds leave the table of the groups alone.
  have kept (same : s'.groups = h.present.groups) : GroupOrigin settings h.present s' id g :=
    .kept (by rw [← same]; exact found)
  cases deed with
  | acted steps => exact kept steps.frame.groups
  | resumed cancel subject own resumption => exact kept resumption.frame.groups
  | planned tenant q since members total own valid same =>
    rw [same] at found
    rcases coherent.placed.plant_group found with ⟨old, -⟩ | ⟨i, -, number, new⟩
    · exact .kept old
    · refine .planted ?_ (by rw [new]; rfl)
      -- The number has not been drawn before, so nothing is stored under it.
      rw [Option.eq_none_iff_forall_ne_some]
      intro f stored
      have drawn := coherent.placed.groupDrawn stored
      omega
  | started rollout start =>
    cases start with | started r stored own ready =>
    subst own
    have placed : Rollouts.Placed (h.present.putRollout { r with status := .running }) :=
      coherent.placed.putRollout stored rfl rfl
    rw [placed.get?_scheduleGroups] at found
    obtain ⟨f, before, becomes⟩ := Option.map_eq_some_iff.mp found
    split at becomes
    -- What is scheduled is listed for the rollout, and so belongs to it.
    · rename_i listed
      obtain ⟨⟨member, within, number⟩, -⟩ := listed
      obtain ⟨here, belongs⟩ := coherent.placed.mem_groupsOf.mp within
      have same : f = member := by
        rw [number] at here
        exact Option.some.inj (before.symm.trans here)
      refine .scheduled r f ?_ ready before becomes.symm
      rw [same, belongs]
      exact stored
    · rw [becomes] at before
      exact .kept before
  -- Moving a rollout leaves its groups alone, and so do the cancellations of a stop.
  | moved r status stored moves requests =>
    have steps : Deployments.Steps settings _ s' := requests.steps
    exact kept steps.frame.groups
  | evaluated r stored running evaluation => exact .evaluated r stored running evaluation
  | failed rollout since expression fault fails failure =>
    cases failure with | failed r =>
    exact kept rfl
  | removed r stored deleting same =>
    -- The groups of the removed rollout are gone, and the others are as they were.
    rw [same] at found
    exact .kept (coherent.placed.group_removeRollout.mp found).1

/-- Every deed takes groups forward, if it does not plant a rollout with groups of its own. -/
theorem Deed.ages_or_plants (deed : Deed settings h c s') (coherent : Coherent started h.present) :
    (∀ id, Ages id h.present s') ∨ ∃ tenant q members total,
      Rollouts.Request.validate q = .ok () ∧ s' = h.present.plant tenant q members total c.now := by
  cases deed with
  | planned tenant q since members total own valid same =>
    -- Only a plan brings groups that were not there before.
    exact Or.inr ⟨tenant, q, members, total, valid, same⟩
  | acted steps inherits => exact Or.inl fun id => .of_frame steps.frame id
  | resumed cancel subject own resumption => exact Or.inl fun id => .of_frame resumption.frame id
  | started rollout start => exact Or.inl fun id => start.ages coherent.placed id
  | moved r status stored moves requests =>
    have steps : Deployments.Steps settings _ s' := requests.steps
    exact Or.inl fun id => Ages.trans (.putRollout id h.present _) (.of_frame steps.frame id)
  | evaluated r stored running evaluation => exact Or.inl fun id => evaluation.ages coherent id
  | failed rollout since expression fault fails failure => exact Or.inl fun id => failure.ages id
  | removed r stored deleting same =>
    rw [same]
    exact Or.inl fun id => .removeRollout coherent.placed r.id id

/-- No call takes a group back that has its number. -/
theorem Deed.ages (deed : Deed settings h c s') (coherent : Coherent started h.present)
    (drawn : id < h.present.nextNumber groupSequence) : Ages id h.present s' := by
  rcases deed.ages_or_plants coherent with ages | ⟨tenant, q, members, total, -, same⟩
  · exact ages id
  · rw [same]
    exact .plant drawn

/-- However a run goes on, no group goes back that has its number. -/
theorem history_ages (settings : Settings) (calls more : List Call)
    (drawn : id < (history settings calls).present.nextNumber groupSequence) :
    Ages id (history settings calls).present (history settings (calls ++ more)).present := by
  induction more using List.reverseRecOn with
  | nil =>
    rw [List.append_nil]
    exact .refl id _
  | append_singleton more c ih =>
    -- The number stays drawn, so one more call leads on from there.
    have coherent := coherent_history settings (calls ++ more)
    rw [← List.append_assoc, history_concat]
    exact ih.trans ((c.deed _ coherent).ages coherent (Nat.lt_of_lt_of_le drawn ih.next))

end Service

end DeviceUpdate
