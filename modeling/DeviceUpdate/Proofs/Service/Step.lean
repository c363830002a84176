import DeviceUpdate.Proofs.Deployment.Administration
import DeviceUpdate.Proofs.Rollout.Arrangement
import DeviceUpdate.Proofs.Rollout.Lifecycle
import DeviceUpdate.Proofs.Service.Filing

/-! The steps of the whole service, those of evaluations among them, and their invariant. -/

namespace DeviceUpdate.Service

/-- One step of the targets, the actions, the rollouts or the groups. -/
inductive Step (settings : Settings) (s s' : Store) : Prop
  | deployment (step : Deployments.Step settings s s')
  | rollout (step : Rollouts.Step s s')

/-- Any number of steps of the service. -/
def Steps (settings : Settings) : Store → Store → Prop :=
  Relation.ReflTransGen (Step settings)

/-- What holds of every store, given which rollouts have been started. -/
structure Coherent (started : Nat → Prop) (s : Store) : Prop where
  indexed : Deployments.Indexed s
  filed : Deployments.Filed s
  paired : Deployments.Paired s
  placed : Rollouts.Placed s
  arranged : Rollouts.Arranged started s

/-- Nothing is stored at the start, and no rollout has been started. -/
theorem coherent_empty : Coherent (fun _ => False) .empty :=
  -- Nothing is listed, so there is nothing that could be out of order.
  ⟨Deployments.indexed_empty, Deployments.filed_empty, Deployments.paired_empty, Rollouts.placed_empty,
    Rollouts.arranged_empty⟩

section Frames

variable {started : Nat → Prop} {s s' : Store}

/-- What the steps of targets and actions leave alone is in order as it was. -/
theorem Coherent.deployments (coherent : Coherent started s) (frame : Deployments.Frame s s') :
    Rollouts.Placed s' ∧ Rollouts.Arranged started s' := by
  -- Rollouts and groups have sequences of their own.
  have next : s'.nextNumber Rollouts.sequence = s.nextNumber Rollouts.sequence :=
    frame.next _ (by decide) (by decide)
  have nextGroup : s'.nextNumber Rollouts.groupSequence = s.nextNumber Rollouts.groupSequence :=
    frame.next _ (by decide) (by decide)
  have groups (id : Nat) : s'.groups.get? id = s.groups.get? id := by rw [frame.groups]
  have positions (place : Nat × Nat) :
      s'.groupPositions.get? place = s.groupPositions.get? place := by rw [frame.groupPositions]
  exact ⟨coherent.placed.unchanged frame.rollouts groups positions next nextGroup,
    coherent.arranged.unchanged frame.rollouts groups next⟩

/-- What the steps of rollouts leave alone is indexed as it was. -/
theorem indexed_of_frame (frame : Rollouts.Frame s s') (indexed : Deployments.Indexed s) :
    Deployments.Indexed s' := by
  -- Actions have a sequence of their own.
  have next : s'.nextNumber Deployments.sequence = s.nextNumber Deployments.sequence :=
    frame.next _ (by decide) (by decide)
  refine ⟨?_, ?_, ?_⟩
  · rw [frame.actions]
    exact indexed.own
  · rw [frame.actions, next]
    exact indexed.drawn
  · rw [frame.actions, frame.targetActions]
    exact indexed.listed

/-- What the steps of rollouts leave alone is paired as it was. -/
theorem paired_of_frame (frame : Rollouts.Frame s s') (paired : Deployments.Paired s) :
    Deployments.Paired s' :=
  paired.unchanged fun id => by rw [frame.actions]

/-- What the steps of rollouts leave alone is in order as it was. -/
theorem Coherent.rollouts (coherent : Coherent started s) (frame : Rollouts.Frame s s') :
    Deployments.Indexed s' ∧ Deployments.Paired s' :=
  ⟨indexed_of_frame frame coherent.indexed, paired_of_frame frame coherent.paired⟩

end Frames

section Steps

variable {settings : Settings} {started : Nat → Prop} {s s' s'' : Store}

/-- Every step keeps the invariant. -/
theorem Step.coherent (step : Step settings s s') (coherent : Coherent started s) :
    Coherent started s' := by
  cases step with
  -- A deployment step touches neither rollouts nor groups.
  | deployment step =>
    obtain ⟨placed, arranged⟩ := coherent.deployments step.frame
    exact ⟨step.indexed coherent.indexed, step.filed coherent.indexed coherent.filed,
      step.paired coherent.indexed coherent.paired, placed, arranged⟩
  -- A rollout step touches no action.
  | rollout step =>
    obtain ⟨indexed, paired⟩ := coherent.rollouts step.frame
    exact ⟨indexed, step.filed coherent.filed, paired, step.placed coherent.placed,
      step.arranged coherent.placed coherent.arranged⟩

/-- Every run of steps keeps the invariant. -/
theorem Steps.coherent (steps : Steps settings s s') (coherent : Coherent started s) :
    Coherent started s' := by
  -- By induction on the steps, each of which starts from a store in order.
  induction steps with
  | refl => exact coherent
  | tail _ step ih => exact step.coherent ih

/-- The refusal of a cancellation keeps the invariant. -/
theorem Coherent.resumption (coherent : Coherent started s) {cancel subject : Action}
    (resumption : Deployments.Resumption cancel subject s s') : Coherent started s' := by
  -- The refusal is no step, but has the same frame.
  obtain ⟨placed, arranged⟩ := coherent.deployments resumption.frame
  exact ⟨resumption.indexed coherent.indexed, resumption.filed coherent.filed,
    resumption.paired coherent.paired, placed, arranged⟩

/-- The start of a rollout keeps the invariant, with one more rollout started. -/
theorem Coherent.start (coherent : Coherent started s) {id : Nat}
    (start : Rollouts.Start id s s') : Coherent (fun other => started other ∨ other = id) s' := by
  obtain ⟨indexed, paired⟩ := coherent.rollouts start.frame
  exact ⟨indexed, start.filed coherent.filed, paired, start.placed coherent.placed,
    start.arranged coherent.placed coherent.arranged⟩

/-- The failure of a rollout keeps the invariant. -/
theorem Coherent.failure (coherent : Coherent started s) {id : Nat}
    (failure : Rollouts.Failure id s s') : Coherent started s' := by
  obtain ⟨indexed, paired⟩ := coherent.rollouts failure.frame
  exact ⟨indexed, failure.filed coherent.filed, paired, failure.placed coherent.placed,
    failure.arranged coherent.arranged⟩

theorem Steps.trans (first : Steps settings s s') (second : Steps settings s' s'') :
    Steps settings s s'' :=
  Relation.ReflTransGen.trans first second

/-- A step of a rollout is a run of steps of the service. -/
theorem Steps.rollout (step : Rollouts.Step s s') : Steps settings s s' :=
  Relation.ReflTransGen.single (.rollout step)

/-- A run of steps of the targets and actions is one of the service. -/
theorem Steps.deployment (steps : Deployments.Steps settings s s') : Steps settings s s' :=
  Relation.ReflTransGen.mono (fun _ _ step => Step.deployment step) _ _ steps

end Steps

end DeviceUpdate.Service

namespace DeviceUpdate.Rollouts

open Service (Coherent Steps)

/-- What the start of a group does for one member. -/
inductive Enrols (own : TenantSettings) (r : Rollout) (group : Nat) (now : Instant)
    (controller : String) (s : Store) : Store → Prop
  /-- A member that no longer exists gets nothing. -/
  | gone (absent : s.target? r.tenant controller = none) : Enrols own r group now controller s s
  /-- Any other is assigned the set of the rollout on behalf of the group. -/
  | assigned {s' : Store} (result : Deployments.Assigned)
      (assigns : Deployments.Assigns own r.tenant controller (requestOf r) (some ⟨r.id, group⟩) now
        s result s') : Enrols own r group now controller s s'

/-- What the start of a group does for its members, one after another. -/
inductive Launch (own : TenantSettings) (r : Rollout) (group : Nat) (now : Instant) :
    List String → Store → Store → Prop
  | nil (s : Store) : Launch own r group now [] s s
  | cons {controller : String} {rest : List String} {s s₁ s₂ : Store}
      (first : Enrols own r group now controller s s₁)
      (others : Launch own r group now rest s₁ s₂) :
    Launch own r group now (controller :: rest) s s₂

/-- What an evaluation of a rollout does to its record. -/
inductive Note (id : Nat) (s : Store) : Store → Prop
  -- A group has failed, or its success asks for a pause.
  | paused (r : Rollout) (stored : s.rollouts.get? r.id = some r) (own : r.id = id)
      (running : r.status = .running) : Note id s (s.putRollout { r with status := .paused })
  -- All groups have settled.
  | completed (r : Rollout) (stored : s.rollouts.get? r.id = some r) (own : r.id = id)
      (running : r.status = .running)
      (settled : ∀ g ∈ s.groupsOf r.id, g.status.isSettled = true) :
    Note id s (s.putRollout { r with status := outcomeOf (s.groupsOf r.id) })
  -- The time of the check is noted, whatever has happened.
  | examined (r : Rollout) (now : Instant) (stored : s.rollouts.get? r.id = some r)
      (own : r.id = id) : Note id s (s.putRollout { r with lastCheck := some now })

/-- What an evaluation of a rollout does to its record and to its groups, without launching one. -/
inductive Turn (id : Nat) (s : Store) : Store → Prop
  | noted {s' : Store} (note : Note id s s') : Turn id s s'
  | settled (r : Rollout) (g : RolloutGroup) (status : GroupStatus) (runs : Runs s r g)
      (own : r.id = id) (active : g.status = .running) (ends : status.isSettled = true) :
    Turn id s (s.putGroup { g with status := status })
  /-- A group without members has nothing to wait for. -/
  | skipped (r : Rollout) (g : RolloutGroup) (runs : Runs s r g) (own : r.id = id)
      (waits : g.status ∈ startable)
      (turn : ∀ h ∈ s.groupsOf r.id, h.position < g.position → h.status.isSettled = true)
      (empty : g.totalTargets = 0) : Turn id s (s.putGroup { g with status := .finished })

/-- A group whose turn it is starts to run, and its members are assigned the set. -/
inductive Launches (settings : Settings) (id : Nat) (s s' : Store) : Prop
  | launched (r : Rollout) (g : RolloutGroup) (now : Instant) (runs : Runs s r g) (own : r.id = id)
      (waits : g.status ∈ startable)
      (turn : ∀ h ∈ s.groupsOf r.id, h.position < g.position → h.status.isSettled = true)
      (launch : Launch (settings.tenant r.tenant) r g.id now (s.membersOf g.id)
        (s.putGroup { g with status := .running }) s')
      (occupied : g.totalTargets ≠ 0)

/-- Any number of changes of the record. -/
def Notes (id : Nat) : Store → Store → Prop :=
  Relation.ReflTransGen (Note id)

/-- Any number of changes of the record and the groups. -/
def Turns (id : Nat) : Store → Store → Prop :=
  Relation.ReflTransGen (Turn id)

/-- How a rollout advances: at most one group is launched, and nothing comes after that. -/
inductive Round (settings : Settings) (id : Nat) (s s' : Store) : Prop
  | quiet (turns : Turns id s s')
  | launching (between : Store) (turns : Turns id s between)
      (launches : Launches settings id between s')

/-- An evaluation advances the rollout and then notes the outcome on its record. -/
inductive Evaluation (settings : Settings) (id : Nat) (s s' : Store) : Prop
  | evaluated (between : Store) (round : Round settings id s between) (notes : Notes id between s')

variable {settings : Settings} {started : Nat → Prop} {s s' s'' : Store} {r : Rollout} {id : Nat}
  {group : Nat} {now : Instant}

theorem Turns.refl (s : Store) : Turns id s s :=
  Relation.ReflTransGen.refl

theorem Turn.turns (turn : Turn id s s') : Turns id s s' :=
  Relation.ReflTransGen.single turn

/-- Changes of the record are turns. -/
theorem Notes.turns (notes : Notes id s s') : Turns id s s' :=
  Relation.ReflTransGen.mono (fun _ _ note => Turn.noted note) _ _ notes

theorem Turns.trans (first : Turns id s s') (second : Turns id s' s'') : Turns id s s'' :=
  Relation.ReflTransGen.trans first second

/-- Turns in front of a round belong to it. -/
theorem Turns.round (first : Turns id s s') (round : Round settings id s' s'') :
    Round settings id s s'' := by
  cases round with
  -- Turns are put together, and a launch stays the last thing that happens.
  | quiet turns => exact .quiet (first.trans turns)
  | launching between turns launches => exact .launching between (first.trans turns) launches

/-- What the start of a group does for a member is a run of steps. -/
theorem Enrols.steps {controller : String}
    (enrols : Enrols (settings.tenant r.tenant) r group now controller s s')
    (indexed : Deployments.Indexed s) : Deployments.Steps settings s s' := by
  cases enrols with
  | gone absent => exact Relation.ReflTransGen.refl
  | assigned result assigns => exact assigns.steps indexed

/-- What the start of a group does for its members is a run of steps. -/
theorem Launch.steps {members : List String}
    (launch : Launch (settings.tenant r.tenant) r group now members s s')
    (indexed : Deployments.Indexed s) : Deployments.Steps settings s s' := by
  induction launch with
  | nil s => exact Relation.ReflTransGen.refl
  | cons first others ih =>
    -- The others are assigned in the state that the first one leaves.
    have steps : Deployments.Steps settings _ _ := first.steps indexed
    exact steps.trans (ih (steps.indexed indexed))

/-- Every turn is a step of the rollouts. -/
theorem Turn.step (turn : Turn id s s') : Step s s' := by
  cases turn with
  | noted note =>
    cases note with
    | paused r stored own running =>
      exact .moved s r .paused stored (by rw [running]; exact .pause)
    | completed r stored own running settled => exact .completed s r stored running settled
    | examined r now stored => exact .examined s r now stored
  | settled r g status runs own active ends => exact .settled s r g status runs active ends
  -- A group without members begins with its end.
  | skipped r g runs own waits turn empty =>
    exact .begun s r g .finished runs waits turn (Or.inr ⟨empty, rfl⟩)

/-- Turns are steps of the service. -/
theorem Turns.steps (turns : Turns id s s') : Steps settings s s' :=
  Relation.ReflTransGen.mono (fun _ _ turn => .rollout turn.step) _ _ turns

/-- A launch is a run of steps: the group runs before its members are assigned anything. -/
theorem Launches.steps (launches : Launches settings id s s') (coherent : Coherent started s) :
    Steps settings s s' := by
  cases launches with | launched r g now runs own waits turn launch =>
  -- The group begins first, which the assignments rely on.
  have begins : Steps settings s (s.putGroup { g with status := .running }) :=
    .rollout (.begun s r g .running runs waits turn (Or.inl rfl))
  exact begins.trans (.deployment (launch.steps (begins.coherent coherent).indexed))

/-- A round is a run of steps. -/
theorem Round.steps (round : Round settings id s s') (coherent : Coherent started s) :
    Steps settings s s' := by
  cases round with
  | quiet turns => exact turns.steps
  | launching between turns launches =>
    have first : Steps settings s between := turns.steps
    -- The launch finds the invariant as the turns before it have left it.
    exact first.trans (launches.steps (first.coherent coherent))

/-- An evaluation is a run of steps. -/
theorem Evaluation.steps (evaluation : Evaluation settings id s s')
    (coherent : Coherent started s) : Steps settings s s' := by
  cases evaluation with | evaluated between round notes =>
  exact (round.steps coherent).trans notes.turns.steps

end DeviceUpdate.Rollouts
