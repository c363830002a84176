import DeviceUpdate.Proofs.Service.Step

/-! What an evaluation leaves alone, and how it may move the rollout that it is about. -/

namespace DeviceUpdate.Rollouts

open Service (Coherent)

/-- How an evaluation may move a rollout: from running to a pause or to an end. -/
def Halts (old new : RolloutStatus) : Prop :=
  old = .running ∧ (new = .paused ∨ new = .finished ∨ new = .error)

/-- A rollout may halt, and no other rollout and none of its groups changes. -/
structure Conducts (id : Nat) (s s' : Store) : Prop where
  moved : ∀ {r : Rollout}, s.rollouts.get? id = some r → ∃ status check,
    s'.rollouts.get? id = some { r with status := status, lastCheck := check } ∧
      (status = r.status ∨ Halts r.status status)
  others : ∀ {other : Nat}, other ≠ id → s'.rollouts.get? other = s.rollouts.get? other
  spared : ∀ {group : Nat} {g : RolloutGroup}, s.groups.get? group = some g → g.rollout ≠ id →
    s'.groups.get? group = some g

/-- Neither actions nor members of groups change. -/
structure Rests (s s' : Store) : Prop where
  actions : s'.actions = s.actions
  members : s'.members = s.members

variable {settings : Settings} {started : Nat → Prop} {s s' s'' : Store} {r : Rollout}
  {g : RolloutGroup} {id : Nat}

theorem outcomeOf_cases (groups : List RolloutGroup) :
    outcomeOf groups = .finished ∨ outcomeOf groups = .error := by
  unfold outcomeOf
  split
  · exact Or.inr rfl
  · exact Or.inl rfl

theorem Rests.refl (s : Store) : Rests s s :=
  ⟨rfl, rfl⟩

theorem Rests.trans (first : Rests s s') (second : Rests s' s'') : Rests s s'' :=
  ⟨second.actions.trans first.actions, second.members.trans first.members⟩

/-- What is found as it was has not been moved. -/
theorem Conducts.of_found (rollouts : s'.rollouts = s.rollouts)
    (spared : ∀ {group : Nat} {g : RolloutGroup}, s.groups.get? group = some g → g.rollout ≠ id →
      s'.groups.get? group = some g) : Conducts id s s' where
  moved {r} stored := ⟨r.status, r.lastCheck, by rw [rollouts]; exact stored, Or.inl rfl⟩
  others _ := by rw [rollouts]
  spared := spared

theorem Conducts.refl (id : Nat) (s : Store) : Conducts id s s :=
  .of_found rfl fun stored _ => stored

theorem Conducts.trans (first : Conducts id s s') (second : Conducts id s' s'') :
    Conducts id s s'' where
  moved stored := by
    obtain ⟨between, check, found, one⟩ := first.moved stored
    obtain ⟨status, last, after, two⟩ := second.moved found
    refine ⟨status, last, after, ?_⟩
    -- A rollout that has halted does not run, so it does not halt again.
    rcases one with same | ⟨running, halted⟩
    · rwa [same] at two
    · rcases two with same | ⟨again, -⟩
      · rw [same]
        exact Or.inr ⟨running, halted⟩
      · dsimp only at again
        simp [again] at halted
  others other := (second.others other).trans (first.others other)
  spared stored other := second.spared (first.spared stored other) other

/-- A stored rollout may halt, and the time of its last check may change. -/
theorem Conducts.putRollout {r' : Rollout} {status : RolloutStatus} {check : Option Instant}
    (stored : s.rollouts.get? r.id = some r)
    (same : r' = { r with status := status, lastCheck := check })
    (moves : status = r.status ∨ Halts r.status status) : Conducts r.id s (s.putRollout r') := by
  subst same
  have found (other : Nat) :
      (s.putRollout { r with status := status, lastCheck := check }).rollouts.get? other =
        if other = r.id then some { r with status := status, lastCheck := check }
        else s.rollouts.get? other := Table.get?_insert s.rollouts r.id other _
  constructor
  -- The record is the one of the rollout, and it halts or goes on.
  case moved =>
    intro old here
    have equal : old = r := Option.some.inj (here.symm.trans stored)
    subst equal
    exact ⟨status, check, (found old.id).trans (if_pos rfl), moves⟩
  case others => exact fun {other} apart => (found other).trans (if_neg apart)
  case spared => exact fun here _ => here

/-- A group of the rollout may change. -/
theorem Conducts.putGroup (stored : s.groups.get? g.id = some g) (own : g.rollout = id)
    (status : GroupStatus) : Conducts id s (s.putGroup { g with status := status }) := by
  refine .of_found rfl fun {group h} here other => ?_
  -- A group of another rollout is another group.
  have apart : group ≠ g.id := by
    rintro rfl
    rw [Option.some.inj (here.symm.trans stored)] at other
    exact other own
  rw [get?_putGroup, if_neg apart]
  exact here

/-- The steps of targets and actions move no rollout. -/
theorem Conducts.of_frame (frame : Deployments.Frame s s') (id : Nat) : Conducts id s s' :=
  .of_found frame.rollouts fun stored _ => by rw [frame.groups]; exact stored

theorem Turn.rests (turn : Turn id s s') : Rests s s' := by
  cases turn with
  | noted note => cases note <;> exact ⟨rfl, rfl⟩
  | settled => exact ⟨rfl, rfl⟩
  | skipped => exact ⟨rfl, rfl⟩

theorem Turns.rests (turns : Turns id s s') : Rests s s' := by
  induction turns with
  | refl => exact .refl s
  | tail _ turn ih => exact ih.trans turn.rests

/-- Every turn is about the rollout alone. -/
theorem Turn.conducts (turn : Turn id s s') : Conducts id s s' := by
  cases turn with
  -- A turn ends the rollout, examines it, or moves one of its groups.
  | noted note =>
    cases note with
    | paused r stored own running =>
      subst own
      exact .putRollout stored rfl (Or.inr ⟨running, Or.inl rfl⟩)
    | completed r stored own running settled =>
      subst own
      exact .putRollout stored rfl (Or.inr ⟨running, Or.inr (outcomeOf_cases _)⟩)
    | examined r now stored own =>
      subst own
      exact .putRollout stored rfl (Or.inl rfl)
  | settled r g status runs own active ends =>
    exact .putGroup runs.storedGroup (runs.own.trans own) status
  | skipped r g runs own waits turn empty =>
    exact .putGroup runs.storedGroup (runs.own.trans own) .finished

theorem Turns.conducts (turns : Turns id s s') : Conducts id s s' := by
  induction turns with
  | refl => exact .refl id s
  | tail _ turn ih => exact ih.trans turn.conducts

/-- A launch is about one group of the rollout. -/
theorem Launches.conducts (launches : Launches settings id s s')
    (indexed : Deployments.Indexed s) : Conducts id s s' := by
  cases launches with | launched r g now runs own waits turn launch =>
  have begins : Conducts id s (s.putGroup { g with status := .running }) :=
    .putGroup runs.storedGroup (runs.own.trans own) .running
  -- The assignments to the members leave all rollouts and groups as they are.
  have steps : Deployments.Steps settings _ s' :=
    launch.steps (indexed.putGroup _)
  exact begins.trans (.of_frame steps.frame id)

/-- An evaluation is about one rollout. -/
theorem Evaluation.conducts (evaluation : Evaluation settings id s s')
    (coherent : Coherent started s) : Conducts id s s' := by
  cases evaluation with | evaluated between round notes =>
  -- The notes follow the round, and both conduct the rollout.
  refine Conducts.trans ?_ notes.turns.conducts
  cases round with
  | quiet turns => exact turns.conducts
  | launching before turns launches =>
    have steps : Service.Steps settings s before := turns.steps
    exact turns.conducts.trans (launches.conducts (steps.coherent coherent).indexed)

end DeviceUpdate.Rollouts
