import DeviceUpdate.Proofs.Rollout.Verdict
import DeviceUpdate.Proofs.Service.Accounting
import Mathlib.Algebra.Order.BigOperators.Group.List
import Mathlib.Algebra.Order.Ring.Nat

/-! Evaluations: each takes a running rollout further, or finds it waiting for a member. -/

namespace DeviceUpdate

/-- How far a group is from its end: one that waits has to start first. -/
def GroupStatus.distance : GroupStatus → Nat
  | creating | ready | scheduled => 2
  | running => 1
  | finished | error => 0

/-- Whatever has come further is not further from its end. -/
theorem GroupStatus.distance_le {old new : GroupStatus} (up : old.rank ≤ new.rank) :
    new.distance ≤ old.distance := by
  -- Ranks rise from waiting over running to an end, where distances fall.
  cases old <;> cases new <;> simp_all [rank, distance]

namespace Store

/-- How far the groups of a rollout are from their ends. -/
def outstanding (s : Store) (rollout : Nat) : Nat :=
  ((s.groupsOf rollout).map (·.status.distance)).sum

/-- How far the group with a number is from its end, if there is one. -/
def distance (s : Store) (group : Nat) : Nat :=
  ((s.groups.get? group).map (·.status.distance)).getD 0

/-- The distances of groups add up over the places of their rollout. -/
theorem outstanding_eq (s : Store) (rollout : Nat) :
    s.outstanding rollout = ((valuesUnder s.groupPositions rollout).map s.distance).sum := by
  rw [outstanding, groupsOf]
  -- A place whose group is not stored is not listed, and has nothing left to do.
  induction valuesUnder s.groupPositions rollout with
  | nil => rfl
  | cons group rest ih =>
    cases found : s.groups.get? group with
    | none =>
      have none : s.distance group = 0 := by rw [distance, found]; rfl
      rw [List.filterMap_cons_none found, List.map_cons, List.sum_cons, none, ih, Nat.zero_add]
    | some g =>
      have own : s.distance group = g.status.distance := by rw [distance, found]; rfl
      rw [List.filterMap_cons_some found, List.map_cons, List.sum_cons, List.map_cons,
        List.sum_cons, own, ih]

end Store

namespace Rollouts

open Service (Coherent)

variable {settings : Settings} {started : Nat → Prop} {s s' : Store} {r : Rollout}
  {g h : RolloutGroup} {own : TenantSettings} {now : Instant} {rollout : Nat}

/-- Where groups keep their places and none goes back, one that goes on leaves less to do. -/
theorem outstanding_lt (positions : ∀ position,
      s'.groupPositions.get? (rollout, position) = s.groupPositions.get? (rollout, position))
    (ages : ∀ id, Ages id s s') (placed : Placed s) (listed : g ∈ s.groupsOf rollout)
    (found : s'.groups.get? g.id = some h) (closer : h.status.distance < g.status.distance) :
    s'.outstanding rollout < s.outstanding rollout := by
  rw [Store.outstanding_eq, Store.outstanding_eq, Store.valuesUnder_congr positions]
  -- Place by place, nothing is further from its end than before, and one group is closer.
  refine List.sum_lt_sum _ _ (fun id _ => ?_) ⟨g.id, ?_, ?_⟩
  · unfold Store.distance
    cases after : s'.groups.get? id with
    | none => exact Nat.zero_le _
    | some f =>
      obtain ⟨e, before, -, up⟩ := (ages id).before after
      rw [before]
      exact GroupStatus.distance_le up
  · obtain ⟨id, place, stored⟩ := List.mem_filterMap.mp listed
    -- The closer group is among those listed.
    rw [placed.groupOwn stored]
    exact place
  · obtain ⟨stored, -⟩ := placed.mem_groupsOf.mp listed
    rw [Store.distance, Store.distance, found, stored]
    exact closer

section Moves

/-- The status with which a group starts: one without members is done at once. -/
def opening (g : RolloutGroup) : GroupStatus :=
  if g.totalTargets = 0 then .finished else .running

/-- The move of a rollout changes no group. -/
theorem moveRollout_groups (s : Store) (id : Nat) (expected : List RolloutStatus)
    (status : RolloutStatus) : (s.moveRollout id expected status).2.groups = s.groups := by
  rcases moveRollout_cases s id expected status with stays | ⟨r, -, -, moves⟩
  · rw [stays]
  · rw [moves]
    rfl

/-- The start of a group moves that group, and changes no other. -/
theorem startGroup_groups (indexed : Deployments.Indexed s)
    (done : startGroup (settings.tenant r.tenant) r g now s = .ok ((), s')) :
    s'.groups = (s.moveGroup g.id startable (opening g)).2.groups := by
  unfold startGroup at done
  unfold opening
  split at done
  -- A group without members is moved, and that is all.
  · rename_i empty
    rw [Transaction.moveGroup_bind_apply] at done
    rw [if_pos empty, ← Transaction.state_eq done]
  · rename_i occupied
    rw [Transaction.moveGroup_bind_apply] at done
    rw [if_neg occupied]
    split at done
    -- The assignments to the members leave all groups as they are.
    · rw [Transaction.read_bind_apply] at done
      have launch := assignMembers_launch (Transaction.mapError_eq_ok.mp done)
      have moved := Service.indexed_of_frame (moveGroup_frame s g.id startable .running) indexed
      have steps : Deployments.Steps settings _ s' := launch.steps moved
      exact steps.frame.groups
    · rw [← Transaction.state_eq done]

/-- A running group that has succeeded is stored as finished, whatever starts after it. -/
theorem finishGroup_finished (coherent : Coherent started s) (runs : Runs s r g)
    (active : g.status = .running)
    (done : finishGroup (settings.tenant r.tenant) r g (s.groupsOf r.id) now s = .ok ((), s')) :
    s'.groups.get? g.id = some { g with status := .finished } := by
  have moves : s.moveGroup g.id [.running] .finished =
      (true, s.putGroup { g with status := .finished }) := by
    simp [Store.moveGroup, runs.storedGroup, active]
  -- The group is stored before anything else is done, and that state is in order again.
  have finished : (s.putGroup { g with status := .finished }).groups.get? g.id =
      some { g with status := .finished } := by
    rw [get?_putGroup, if_pos rfl]
  have placed := coherent.placed.putGroup runs.storedGroup .finished
  have indexed : Deployments.Indexed (s.putGroup { g with status := .finished }) :=
    coherent.indexed.putGroup _
  simp only [finishGroup, Transaction.moveGroup_bind_apply, moves, ↓reduceIte] at done
  -- What follows knows only that the group is stored, whatever has become of it.
  generalize { g with status := GroupStatus.finished } = f at done finished placed indexed ⊢
  generalize s.putGroup f = s₁ at done finished placed indexed
  cases action : g.onSuccess with
  | nextGroup =>
    simp only [action] at done
    cases next : (s.groupsOf r.id).find? fun n =>
        g.position < n.position && !n.status.isSettled with
    | none =>
      simp only [next] at done
      rw [← Transaction.state_eq done]
      exact finished
    | some n =>
      simp only [next] at done
      -- The next group stands behind the one that has finished, so it is another one.
      have other : n.id ≠ g.id := fun same => by
        have stored := (coherent.placed.mem_groupsOf.mp (List.mem_of_find?_eq_some next)).1
        rw [same, runs.storedGroup] at stored
        have passes := List.find?_some next
        simp [Option.some.inj stored] at passes
      rw [startGroup_groups indexed done, placed.get?_moveGroup, finished, Option.map_some,
        if_neg fun here => other here.1]
  | pause =>
    simp only [action, Transaction.moveRollout_bind_apply] at done
    rw [← Transaction.state_eq done, moveRollout_groups]
    exact finished

/-- A rollout that does not run is not completed. -/
theorem complete_idle {id : Nat} (stored : s.rollouts.get? id = some r)
    (idle : r.status ≠ .running) (done : complete id s = .ok ((), s')) : s' = s := by
  simp only [complete, Transaction.read_bind_apply] at done
  split at done
  -- Even where all groups have settled, only a running rollout is moved.
  · rw [Transaction.moveRollout_bind_apply] at done
    rcases moveRollout_cases s id [.running] (outcomeOf (s.groupsOf id)) with
      stays | ⟨other, found, allowed, -⟩
    · exact (Transaction.state_eq done).symm.trans (congrArg Prod.snd stays)
    · rw [Option.some.inj (stored.symm.trans found)] at idle
      exact absurd (List.mem_singleton.mp allowed) idle
  · exact (Transaction.state_eq done).symm

/-- A running rollout whose groups have all settled is completed. -/
theorem complete_settled (stored : s.rollouts.get? r.id = some r) (running : r.status = .running)
    (settled : ∀ g ∈ s.groupsOf r.id, g.status.isSettled = true)
    (done : complete r.id s = .ok ((), s')) :
    s' = s.putRollout { r with status := outcomeOf (s.groupsOf r.id) } := by
  -- The rollout runs, so the move from running takes place.
  have moves : s.moveRollout r.id [.running] (outcomeOf (s.groupsOf r.id)) =
      (true, s.putRollout { r with status := outcomeOf (s.groupsOf r.id) }) := by
    simp [Store.moveRollout, stored, running]
  simp only [complete, Transaction.read_bind_apply, List.all_eq_true.mpr settled, ↓reduceIte,
    Transaction.moveRollout_bind_apply] at done
  exact (Transaction.state_eq done).symm.trans (congrArg Prod.snd moves)

/-- The time of an examination is noted on the rollout. -/
theorem noteCheck_found (stored : s.rollouts.get? r.id = some r) :
    (noteCheck r.id now s).rollouts.get? r.id = some { r with lastCheck := some now } := by
  simp only [noteCheck, stored]
  exact (Table.get?_insert s.rollouts r.id r.id _).trans (if_pos rfl)

end Moves

section Evaluations

/-- A group that has not settled behind settled ones only is the first that is found. -/
theorem find?_unsettled (placed : Placed s) (stored : s.rollouts.get? r.id = some r)
    (listed : g ∈ s.groupsOf r.id) (unsettled : g.status.isSettled = false)
    (turn : ∀ h ∈ s.groupsOf r.id, h.position < g.position → h.status.isSettled = true) :
    ((s.groupsOf r.id).find? fun h => !h.status.isSettled) = some g := by
  cases found : (s.groupsOf r.id).find? fun h => !h.status.isSettled with
  | none =>
    -- Then all groups were settled, against the one that is not.
    have settled := List.find?_eq_none.mp found g listed
    simp [unsettled] at settled
  | some h =>
    have member := List.mem_of_find?_eq_some found
    have passes := List.find?_some found
    -- Neither of the two groups stands before the other.
    have after : ¬ h.position < g.position := fun before => by
      simp [turn h member before] at passes
    have ahead : ¬ g.position < h.position := fun before => by
      have settled := find?_first (placed.groupsOf_pairwise stored) found listed before
      simp [unsettled] at settled
    obtain ⟨storedG, ownG⟩ := placed.mem_groupsOf.mp listed
    obtain ⟨storedH, ownH⟩ := placed.mem_groupsOf.mp member
    rw [placed.unique storedH storedG (ownH.trans ownG.symm) (by omega)]

/-- A group that runs stands behind settled groups only. -/
theorem settled_before (coherent : Coherent started s) (stored : s.rollouts.get? r.id = some r)
    (running : r.status = .running) (listed : g ∈ s.groupsOf r.id) (active : g.status = .running)
    (h : RolloutGroup) (member : h ∈ s.groupsOf r.id) (before : h.position < g.position) :
    h.status.isSettled = true := by
  -- A running rollout has been started, so its groups have their turns.
  have begun : started r.id :=
    coherent.arranged.begun stored (by rw [running]; decide)
  obtain ⟨turn, inTurn⟩ := coherent.arranged.turn begun
  obtain ⟨storedG, ownG⟩ := coherent.placed.mem_groupsOf.mp listed
  obtain ⟨storedH, ownH⟩ := coherent.placed.mem_groupsOf.mp member
  -- It is the turn of the group that runs.
  have here := (inTurn storedG ownG).position_of_running active
  exact (inTurn storedH ownH).before (by omega)

/-- What an evaluation does about the first group that has not settled. -/
inductive Handles (r : Rollout) (g : RolloutGroup) (now : Instant) (s s' : Store) : Prop
  | starts (waits : g.status ∈ startable)
      (found : s'.groups.get? g.id = some { g with status := opening g })
  | fails (active : g.status = .running)
      (verdict : Failing s r g ∨ ¬ Succeeding s r g ∧ ¬ Pending s r g)
      (found : s'.groups.get? g.id = some { g with status := .error })
      (paused : s'.rollouts.get? r.id =
        some { r with status := .paused, lastCheck := some now })
  | finishes (active : g.status = .running) (sound : ¬ Failing s r g)
      (succeeds : Succeeding s r g)
      (found : s'.groups.get? g.id = some { g with status := .finished })
  | waits (active : g.status = .running) (sound : ¬ Failing s r g)
      (short : ¬ Succeeding s r g) (pending : Pending s r g) (same : s'.groups = s.groups)

/-- The check of a running group fails it, finishes it or leaves it, as its members decide. -/
theorem checkGroup_cases (peopled : Peopled s) (runs : Runs s r g) (legible : LegibleGroup g)
    (narrow : g.totalTargets < 2 ^ 32) {groups : List RolloutGroup}
    (done : checkGroup own r g groups now s = .ok ((), s')) :
    (Failing s r g ∨ ¬ Succeeding s r g ∧ ¬ Pending s r g) ∧ failGroup r g s = .ok ((), s') ∨
      (¬ Failing s r g ∧ Succeeding s r g) ∧ finishGroup own r g groups now s = .ok ((), s') ∨
      (¬ Failing s r g ∧ ¬ Succeeding s r g ∧ Pending s r g) ∧ s' = s := by
  -- Both conditions can be decided before it is known what the check does.
  obtain ⟨failed, fails, failing⟩ :=
    hasFailed_decides (r := r) peopled runs.storedGroup legible narrow
  obtain ⟨succeeded, succeeds, succeeding⟩ :=
    successReached_decides (r := r) peopled runs.storedGroup legible narrow
  simp only [checkGroup, Transaction.read_bind_apply, Transaction.lift_bind_eq_ok] at done
  obtain ⟨b, first, done⟩ := done
  rw [fails] at first
  rw [← Except.ok.inj first] at done
  -- Failure comes first, then success, and then the question whether anybody is on the way.
  by_cases fail : Failing s r g
  · rw [if_pos (failing.mpr fail)] at done
    exact Or.inl ⟨Or.inl fail, done⟩
  rw [if_neg fun holds => fail (failing.mp holds), Transaction.lift_bind_eq_ok] at done
  obtain ⟨b, second, done⟩ := done
  rw [succeeds] at second
  rw [← Except.ok.inj second] at done
  by_cases success : Succeeding s r g
  · rw [if_pos (succeeding.mpr success)] at done
    exact Or.inr (Or.inl ⟨⟨fail, success⟩, done⟩)
  rw [if_neg fun holds => success (succeeding.mp holds)] at done
  by_cases pending : Pending s r g
  · rw [if_neg fun complete => complete_iff.mp complete pending] at done
    exact Or.inr (Or.inr ⟨⟨fail, success, pending⟩, (Transaction.state_eq done).symm⟩)
  · rw [if_pos (complete_iff.mpr pending)] at done
    exact Or.inl ⟨Or.inr ⟨success, pending⟩, done⟩

variable (coherent : Coherent started s) (stored : s.rollouts.get? r.id = some r)
  (running : r.status = .running) (done : evaluate settings r.id now s = .ok ((), s'))

include coherent stored running done

/-- An evaluation handles the first group that has not settled. -/
theorem evaluate_handles (peopled : Peopled s) (readable : Readable s)
    (found : ((s.groupsOf r.id).find? fun h => !h.status.isSettled) = some g)
    (narrow : g.totalTargets < 2 ^ 32) : Handles r g now s s' := by
  obtain ⟨s₁, s₂, advances, -, completes, completed, noted, notes⟩ :=
    evaluate_parts coherent stored running done
  -- What follows the advance changes the record of the rollout alone.
  have groups : s'.groups = s₁.groups := notes.groups.trans completed.groups
  obtain ⟨storedGroup, belongs⟩ :=
    coherent.placed.mem_groupsOf.mp (List.mem_of_find?_eq_some found)
  have runs : Runs s r g := ⟨stored, running, storedGroup, belongs⟩
  have unsettled := List.find?_some found
  simp only [advance, Transaction.read_bind_apply, found] at advances
  by_cases active : g.status = .running
  · rw [if_pos active] at advances
    rcases checkGroup_cases peopled runs (readable storedGroup) narrow advances with
      ⟨verdict, fails⟩ | ⟨⟨sound, succeeds⟩, finishes⟩ | ⟨⟨sound, short, pending⟩, same⟩
    · have failed := failGroup_eq_ok runs active fails
      subst failed
      -- A rollout that has been paused is not completed any more.
      have paused : ((s.putGroup { g with status := .error }).putRollout
          { r with status := .paused }).rollouts.get? r.id = some { r with status := .paused } :=
        (Table.get?_insert s.rollouts r.id r.id _).trans (if_pos rfl)
      have idle := complete_idle paused (by simp) completes
      subst idle
      refine .fails active verdict ?_ ?_
      · rw [groups]
        exact (get?_putGroup s g .error g.id).trans (if_pos rfl)
      · rw [noted]
        exact noteCheck_found (r := { r with status := .paused }) paused
    -- What starts after the group that has finished is another group.
    · refine .finishes active sound succeeds ?_
      rw [groups]
      exact finishGroup_finished coherent runs active finishes
    · refine .waits active sound short pending ?_
      rw [groups, same]
  -- What has neither settled nor run so far can be started.
  · rw [if_neg active] at advances
    have waits : g.status ∈ startable := by
      cases status : g.status <;> simp_all [startable, GroupStatus.isSettled]
    refine .starts waits ?_
    rw [groups, startGroup_groups coherent.indexed advances, coherent.placed.get?_moveGroup,
      storedGroup, Option.map_some, if_pos ⟨rfl, waits⟩]

/-- An evaluation completes a rollout whose groups have all settled. -/
theorem evaluate_completes (settled : ∀ h ∈ s.groupsOf r.id, h.status.isSettled = true) :
    s'.groups = s.groups ∧ s'.rollouts.get? r.id =
      some { r with status := outcomeOf (s.groupsOf r.id), lastCheck := some now } := by
  obtain ⟨s₁, s₂, advances, -, completes, completed, noted, notes⟩ :=
    evaluate_parts coherent stored running done
  have found : ((s.groupsOf r.id).find? fun h => !h.status.isSettled) = none := by
    rw [List.find?_eq_none]
    intro h member
    simp [settled h member]
  -- The advance finds no group, so the completion starts from the same state.
  simp only [advance, Transaction.read_bind_apply, found] at advances
  rw [← Transaction.state_eq advances] at completes completed
  have ended := complete_settled stored running settled completes
  -- The note of the check touches the rollout only, and is the last thing written to it.
  refine ⟨notes.groups.trans completed.groups, ?_⟩
  rw [noted, ended]
  exact noteCheck_found (r := { r with status := outcomeOf (s.groupsOf r.id) })
    ((Table.get?_insert s.rollouts r.id r.id _).trans (if_pos rfl))

/-- A group that an evaluation brings closer to its end leaves less to do. -/
theorem evaluate_closer (listed : g ∈ s.groupsOf r.id)
    (found : s'.groups.get? g.id = some h) (closer : h.status.distance < g.status.distance) :
    s'.outstanding r.id < s.outstanding r.id := by
  have evaluation : Evaluation settings r.id s s' :=
    evaluate_evaluation coherent stored running done
  have after : Coherent started s' := (evaluation.steps coherent).coherent coherent
  -- Groups keep their outlines, and with them their places.
  obtain ⟨-, outlines⟩ := (Service.accrues_members settings).evaluation evaluation coherent
  exact outstanding_lt (coherent.placed.position_congr after.placed outlines)
    (evaluation.ages coherent) coherent.placed listed found closer

end Evaluations

section Members

/-- Every group that runs or has failed has members. -/
def Occupied (s : Store) : Prop :=
  ∀ ⦃id : Nat⦄ ⦃g : RolloutGroup⦄, s.groups.get? id = some g →
    g.status = .running ∨ g.status = .error → g.totalTargets ≠ 0

/-- Nothing is stored at the start. -/
theorem occupied_empty : Occupied .empty := by
  intro id g stored
  simp [Store.empty] at stored

/-- What leaves the groups alone leaves them occupied. -/
theorem Occupied.unchanged (occupied : Occupied s) (same : s'.groups = s.groups) :
    Occupied s' := by
  intro id g stored
  rw [same] at stored
  exact occupied stored

/-- A group may change to a status that it can have with the members that it has. -/
theorem Occupied.putGroup (occupied : Occupied s) {status : GroupStatus}
    (allowed : status = .running ∨ status = .error → g.totalTargets ≠ 0) :
    Occupied (s.putGroup { g with status := status }) := by
  intro id h stored
  rw [get?_putGroup] at stored
  split at stored
  -- What is found under the number of the group is the group.
  · rw [← Option.some.inj stored]
    exact allowed
  · exact occupied stored

/-- A turn settles a group that has members, or finishes one that has none. -/
theorem Turn.occupied {id : Nat} (turn : Turn id s s') (occupied : Occupied s) : Occupied s' := by
  cases turn with
  | noted note => exact occupied.unchanged note.groups
  -- A group that settles has been running, with members.
  | settled r g status runs own active =>
    exact occupied.putGroup fun _ => occupied runs.storedGroup (Or.inl active)
  | skipped r g =>
    refine occupied.putGroup fun ended => ?_
    simp at ended

theorem Turns.occupied {id : Nat} (turns : Turns id s s') (occupied : Occupied s) :
    Occupied s' := by
  induction turns with
  | refl => exact occupied
  | tail _ turn ih => exact turn.occupied ih

/-- An evaluation launches no group without members. -/
theorem Evaluation.occupied {id : Nat} (evaluation : Evaluation settings id s s')
    (coherent : Coherent started s) (occupied : Occupied s) : Occupied s' := by
  cases evaluation with | evaluated between round notes =>
  -- The visits before and after the round leave every group at least as settled as it was.
  refine notes.turns.occupied ?_
  cases round with
  | quiet turns => exact turns.occupied occupied
  | launching before turns launches =>
    cases launches with | launched r g now runs own waits turn launch manned =>
    have first : Service.Steps settings s before := turns.steps
    have indexed := (first.coherent coherent).indexed
    -- The group runs before its members are served, which changes no group.
    have begun : Occupied (before.putGroup { g with status := .running }) :=
      (turns.occupied occupied).putGroup fun _ => manned
    have steps : Deployments.Steps settings _ between :=
      launch.steps (indexed.putGroup _)
    exact begun.unchanged steps.frame.groups

end Members

/-- A rollout comes closer to its end, or has reached it, or waits for a member of a group. -/
inductive Advances (s : Store) (r : Rollout) (now : Instant) (s' : Store) : Prop
  | closer (less : s'.outstanding r.id < s.outstanding r.id)
  | completed (settled : ∀ g ∈ s.groupsOf r.id, g.status.isSettled = true)
      (same : s'.groups = s.groups)
      (ended : s'.rollouts.get? r.id =
        some { r with status := outcomeOf (s.groupsOf r.id), lastCheck := some now })
  | waiting (g : RolloutGroup) (listed : g ∈ s.groupsOf r.id) (active : g.status = .running)
      (pending : Pending s r g) (sound : ¬ Failing s r g) (short : ¬ Succeeding s r g)
      (same : s'.groups = s.groups)

/-- What an evaluation makes of a rollout that runs. -/
structure Evaluated (s : Store) (r : Rollout) (now : Instant) (s' : Store) : Prop where
  advances : Advances s r now s'
  /-- Without a member on its way, a running group that does not succeed fails. -/
  fails : ∀ g ∈ s.groupsOf r.id, g.status = .running →
    Failing s r g ∨ ¬ Succeeding s r g ∧ ¬ Pending s r g →
    s'.groups.get? g.id = some { g with status := .error } ∧
      s'.rollouts.get? r.id = some { r with status := .paused, lastCheck := some now }
  finishes : ∀ g ∈ s.groupsOf r.id, g.status = .running → ¬ Failing s r g → Succeeding s r g →
    s'.groups.get? g.id = some { g with status := .finished }
  /-- A group without members finishes when its turn comes. -/
  skips : ∀ g ∈ s.groupsOf r.id, s.membersOf g.id = [] → g.status.isSettled = false →
    (∀ h ∈ s.groupsOf r.id, h.position < g.position → h.status.isSettled = true) →
    s'.groups.get? g.id = some { g with status := .finished }
  /-- Such a group neither runs nor has failed, before the evaluation and after it. -/
  spares : ∀ t ∈ [s, s'], ∀ g ∈ t.groupsOf r.id, t.membersOf g.id = [] →
    g.status ≠ .running ∧ g.status ≠ .error

section Outcomes

/-- The visit of a tick to a rollout that was listed as running is an evaluation. -/
theorem visit_running {listed : Rollout} (own : listed.id = r.id)
    (running : listed.status = .running) (done : evaluate settings r.id now s = .ok ((), s'))
    (report : TickReport) :
    visit settings now (report, s) listed = (report.count .running true, s') := by
  have needs : visit? settings listed now =
      some (do evaluate settings r.id now; pure true) := by
    rw [visit?, running, own]
  -- The evaluation succeeds, and all that the visit adds is that it has been made.
  have ran : (do evaluate settings r.id now; pure true : Transaction Error Bool).run s =
      (.ok true, s') :=
    Transaction.run_of_ok (Transaction.bind_eq_ok.mpr ⟨(), s', done, rfl⟩)
  rw [visit, needs]
  dsimp only
  rw [ran, running]

/-- The start of a group brings it closer to its end. -/
theorem distance_opening (waits : g.status ∈ startable) :
    (opening g).distance < g.status.distance := by
  -- Whether it runs or is done at once, it has been two steps away.
  unfold opening
  split <;> cases status : g.status <;> simp_all [startable, GroupStatus.distance]

/-- A group that has no members is said to have none, and neither runs nor has failed. -/
theorem Occupied.spares (occupied : Occupied s) (peopled : Peopled s) (placed : Placed s)
    (listed : g ∈ s.groupsOf rollout) (empty : s.membersOf g.id = []) :
    g.totalTargets = 0 ∧ g.status ≠ .running ∧ g.status ≠ .error := by
  obtain ⟨stored, -⟩ := placed.mem_groupsOf.mp listed
  -- An empty group has no targets, and neither a running nor a failed one is without targets.
  have length := peopled.length_membersOf stored
  rw [empty, List.length_nil] at length
  refine ⟨length.symm, fun runs => ?_, fun failed => ?_⟩
  · exact occupied stored (Or.inl runs) length.symm
  · exact occupied stored (Or.inr failed) length.symm

variable (coherent : Coherent started s) (peopled : Peopled s) (readable : Readable s)
  (stored : s.rollouts.get? r.id = some r) (running : r.status = .running)
  (narrow : ∀ g ∈ s.groupsOf r.id, g.totalTargets < 2 ^ 32)
  (done : evaluate settings r.id now s = .ok ((), s'))

include coherent peopled readable stored running narrow done

/-- An evaluation advances the rollout, whatever it does about the first open group. -/
theorem evaluate_advances : Advances s r now s' := by
  cases found : (s.groupsOf r.id).find? fun h => !h.status.isSettled with
  -- Without an open group, the rollout has nothing left but to be completed.
  | none =>
    have settled (h : RolloutGroup) (member : h ∈ s.groupsOf r.id) :
        h.status.isSettled = true := by
      simpa using List.find?_eq_none.mp found h member
    obtain ⟨same, ended⟩ := evaluate_completes coherent stored running done settled
    exact .completed settled same ended
  | some g =>
    have listed := List.mem_of_find?_eq_some found
    have closer {f : RolloutGroup} (after : s'.groups.get? g.id = some f)
        (less : f.status.distance < g.status.distance) : Advances s r now s' :=
      .closer (evaluate_closer coherent stored running done listed after less)
    -- Only a group that waits for its members stays where it is.
    cases evaluate_handles coherent stored running done peopled readable found
        (narrow g listed) with
    | starts waits after => exact closer after (distance_opening waits)
    | fails active verdict after =>
      -- A running group is further from its end than a failed one.
      refine closer after ?_
      rw [active]
      show GroupStatus.distance .error < GroupStatus.distance .running
      decide
    | finishes active sound succeeds after =>
      -- So it is from a finished one.
      refine closer after ?_
      rw [active]
      show GroupStatus.distance .finished < GroupStatus.distance .running
      decide
    | waits active sound short pending same =>
      exact .waiting g listed active pending sound short same

/-- A group that runs is the one that an evaluation handles. -/
theorem evaluate_running (listed : g ∈ s.groupsOf r.id) (active : g.status = .running) :
    Handles r g now s s' := by
  have turn := settled_before coherent stored running listed active
  have unsettled : g.status.isSettled = false := by
    rw [active]
    rfl
  have found := find?_unsettled coherent.placed stored listed unsettled turn
  exact evaluate_handles coherent stored running done peopled readable found (narrow g listed)

/-- A running group whose members decide so fails, and its rollout pauses. -/
theorem evaluate_fails (listed : g ∈ s.groupsOf r.id) (active : g.status = .running)
    (verdict : Failing s r g ∨ ¬ Succeeding s r g ∧ ¬ Pending s r g) :
    s'.groups.get? g.id = some { g with status := .error } ∧
      s'.rollouts.get? r.id = some { r with status := .paused, lastCheck := some now } := by
  cases evaluate_running coherent peopled readable stored running narrow done listed active with
  -- A running group cannot be started.
  | starts waits =>
    rw [active] at waits
    simp [startable] at waits
  | fails _ _ after paused => exact ⟨after, paused⟩
  -- The other outcomes are those of another verdict.
  | finishes _ sound succeeds =>
    rcases verdict with failing | ⟨short, -⟩
    · exact absurd failing sound
    · exact absurd succeeds short
  | waits _ sound short pending =>
    rcases verdict with failing | ⟨-, still⟩
    · exact absurd failing sound
    · exact absurd pending still

/-- A running group that succeeds without failing finishes. -/
theorem evaluate_finishes (listed : g ∈ s.groupsOf r.id) (active : g.status = .running)
    (sound : ¬ Failing s r g) (succeeds : Succeeding s r g) :
    s'.groups.get? g.id = some { g with status := .finished } := by
  cases evaluate_running coherent peopled readable stored running narrow done listed active with
  -- A running group cannot be started, and its members have succeeded without failing.
  | starts waits =>
    rw [active] at waits
    simp [startable] at waits
  | fails _ verdict =>
    rcases verdict with failing | ⟨short, -⟩
    · exact absurd failing sound
    · exact absurd succeeds short
  | finishes _ _ _ after => exact after
  | waits _ _ short => exact absurd succeeds short

/-- A group without members finishes as soon as it is its turn. -/
theorem evaluate_skips (occupied : Occupied s) (listed : g ∈ s.groupsOf r.id)
    (empty : s.membersOf g.id = []) (unsettled : g.status.isSettled = false)
    (turn : ∀ h ∈ s.groupsOf r.id, h.position < g.position → h.status.isSettled = true) :
    s'.groups.get? g.id = some { g with status := .finished } := by
  obtain ⟨none, idle, -⟩ := occupied.spares peopled coherent.placed listed empty
  have found := find?_unsettled coherent.placed stored listed unsettled turn
  cases evaluate_handles coherent stored running done peopled readable found
      (narrow g listed) with
  | starts waits after => rwa [opening, if_pos none] at after
  -- It does not run, so there is nothing to check.
  | fails active => exact absurd active idle
  | finishes active => exact absurd active idle
  | waits active => exact absurd active idle

end Outcomes

end Rollouts

namespace Service

open Rollouts (Evaluated Occupied)

variable {settings : Settings} {started : Nat → Prop} {h : History} {c : Call} {s' : Store}

/-- No deed makes a group without members run or fail. -/
theorem Deed.occupied (deed : Deed settings h c s') (coherent : Coherent started h.present)
    (occupied : Occupied h.present) : Occupied s' := by
  intro id g found active
  cases deed.group_origin coherent found with
  | kept before => exact occupied before active
  -- What is ready or scheduled neither runs nor has failed.
  | planted absent ready =>
    rw [ready] at active
    simp at active
  | scheduled r f stored ready before same =>
    rw [same] at active
    simp at active
  | evaluated r stored running evaluation =>
    exact evaluation.occupied coherent occupied found active

/-- In every state of every run, each group that runs or has failed has members. -/
theorem occupied_history (settings : Settings) (calls : List Call) :
    Occupied (history settings calls).present :=
  history_holds Rollouts.occupied_empty
    (fun calls _ deed => deed.occupied (coherent_history settings calls)) calls

section Runs

variable (settings : Settings) {calls : List Call} {id : Nat} {r : Rollout}

/-- In every reachable state, an evaluation takes a running rollout further, or finds it waiting. -/
theorem evaluations_advance
    (stored : (history settings calls).present.rollouts.get? id = some r)
    (running : r.status = .running)
    -- The setting is a number of 32 bits.
    (limit : (settings.tenant r.tenant).maxGroupTargets < 2 ^ 32) (now : Instant) :
    ∃ s', (∀ report (listed : Rollout), listed.id = id → listed.status = .running →
        Rollouts.visit settings now (report, (history settings calls).present) listed =
          (report.count .running true, s')) ∧
      Evaluated (history settings calls).present r now s' := by
  have coherent := coherent_history settings calls
  have own := coherent.placed.own stored
  subst own
  obtain ⟨s', done⟩ := evaluate_succeeds settings calls r.id now
  have peopled := peopled_history settings calls
  have readable := readable_history settings calls
  have occupied := occupied_history settings calls
  -- The groups are as small as the settings of the tenant demand.
  obtain ⟨before, c, q, since, members, founded⟩ := founded_history settings calls stored
  have narrow (g : RolloutGroup)
      (listed : g ∈ (history settings calls).present.groupsOf r.id) :
      g.totalTargets < 2 ^ 32 := Nat.lt_of_le_of_lt (founded.within stored listed) limit
  -- What the evaluation leaves behind is reached by one more call.
  have next : (history settings (calls ++ [⟨now, .evaluate r.id⟩])).present = s' := by
    rw [history_concat]
    exact congrArg Prod.snd (Transaction.run_of_ok done)
  refine ⟨s', fun report listed same active => ?_, ?_⟩
  -- A visit of a running rollout is its evaluation, whatever has been counted before.
  · exact Rollouts.visit_running same active done report
  constructor
  case advances =>
    exact Rollouts.evaluate_advances coherent peopled readable stored running narrow done
  case fails =>
    intro g listed active verdict
    exact Rollouts.evaluate_fails coherent peopled readable stored running narrow done listed
      active verdict
  case finishes =>
    intro g listed active sound succeeds
    exact Rollouts.evaluate_finishes coherent peopled readable stored running narrow done listed
      active sound succeeds
  case skips =>
    intro g listed empty unsettled turn
    exact Rollouts.evaluate_skips coherent peopled readable stored running narrow done occupied
      listed empty unsettled turn
  case spares =>
    intro t member g listed empty
    simp only [List.mem_cons, List.not_mem_nil, or_false] at member
    rcases member with rfl | rfl
    · exact (occupied.spares peopled coherent.placed listed empty).2
    -- The state after the evaluation is one of a run as well.
    · rw [← next] at listed empty
      exact ((occupied_history settings _).spares (peopled_history settings _)
        (coherent_history settings _).placed listed empty).2

end Runs

set_option maxRecDepth 10000 in
/-- The rollout that has been launched waits for its only target, or advances. -/
theorem evaluations_advance_launch :
    ∃ r, (history .standard launch).present.rollouts.get? 1 = some r ∧ r.status = .running ∧
      (Settings.standard.tenant r.tenant).maxGroupTargets < 2 ^ 32 ∧
      ∃ s', (∀ report (listed : Rollout), listed.id = 1 → listed.status = .running →
          Rollouts.visit .standard .epoch (report, (history .standard launch).present) listed =
            (report.count .running true, s')) ∧
        Evaluated (history .standard launch).present r .epoch s' := by
  -- The rollout is read off the run, its tenant too, since the limit is that of the tenant.
  have runs : ((history .standard launch).present.rollouts.get? 1).any
      (fun r => r.status == .running && r.tenant == "t") = true := by
    decide +kernel
  obtain ⟨r, stored, status⟩ := (Option.any_eq_true _ _).mp runs
  rw [Bool.and_eq_true, beq_iff_eq, beq_iff_eq] at status
  obtain ⟨running, tenant⟩ := status
  have limit : (Settings.standard.tenant r.tenant).maxGroupTargets < 2 ^ 32 := by
    rw [tenant]
    decide +kernel
  exact ⟨r, stored, running, limit, evaluations_advance .standard stored running limit .epoch⟩

end Service

end DeviceUpdate
