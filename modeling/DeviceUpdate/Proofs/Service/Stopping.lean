import DeviceUpdate.Proofs.Rollout.Membership
import DeviceUpdate.Proofs.Service.Feasibility
import DeviceUpdate.Proofs.Service.Ownership
import DeviceUpdate.Proofs.Service.Removal
import DeviceUpdate.Proofs.Service.Replacement

/-! Stopped rollouts: their deployments are withdrawn, and nothing is done for them any more. -/

namespace DeviceUpdate

open Deployments (Names Serves Untouched Withdrawn)

namespace Rollouts

/-- The groups of deployments belong to the rollouts that the deployments name. -/
structure Attached (s : Store) : Prop where
  drawn : ∀ {id : Nat} {a : Action} {m : Membership}, s.actions.get? id = some a → Serves a m →
    m.rollout < s.nextNumber sequence
  own : ∀ {id : Nat} {a : Action} {m : Membership} {g : RolloutGroup},
    s.actions.get? id = some a → Serves a m → s.groups.get? m.group = some g →
    g.rollout = m.rollout
  kept : ∀ {id : Nat} {a : Action} {m : Membership} {r : Rollout}, s.actions.get? id = some a →
    Serves a m → s.rollouts.get? m.rollout = some r → ∃ g, s.groups.get? m.group = some g

/-- Nothing is deployed at the start. -/
theorem attached_empty : Attached .empty := by
  constructor <;> intros <;> simp_all [Store.empty]

/-- A rollout of an old number was there before, and has stayed or moved as it can move. -/
theorem Lives.before {s s' : Store} (lives : Lives s s') {id : Nat} {r' : Rollout}
    (drawn : id < s.nextNumber sequence) (after : s'.rollouts.get? id = some r') :
    ∃ r, s.rollouts.get? id = some r ∧ SamePlan r r' ∧
      (r'.status = r.status ∨ r.status.canBecome r'.status = true) := by
  -- What is under the number afterwards was kept or moved, or has just been created under a new
  -- one.
  have passes := lives id
  rw [after] at passes
  generalize s.rollouts.get? id = stored at passes
  cases passes with
  | created new ready => exact absurd drawn (by omega)
  | kept plan same => exact ⟨_, rfl, plan, Or.inl same⟩
  | moved plan allowed => exact ⟨_, rfl, plan, Or.inr allowed⟩

end Rollouts

namespace Service

open Rollouts (Attached Served)

variable {settings : Settings} {started now : Nat → Prop} {h : History} {c : Call} {s' : Store}

/-- A group stays as it was planned, as long as its rollout is stored. -/
theorem Deed.group_kept (deed : Deed settings h c s') (coherent : Coherent started h.present)
    {id : Nat} {g : RolloutGroup} {r : Rollout} (stored : h.present.groups.get? id = some g)
    (known : s'.rollouts.get? g.rollout = some r) :
    ∃ g', s'.groups.get? id = some g' ∧ g'.outline = g.outline := by
  -- Members accrue with the outlines, a planted rollout takes new numbers, and a removal is at the
  -- end.
  rcases deed.accrues coherent (accrues_members settings) with
    ⟨-, groups⟩ | ⟨tenant, q, since, members, total, -, same⟩ | ⟨r', -, same⟩
  · have outline := groups id
    rw [stored, Option.map_some] at outline
    exact Option.map_eq_some_iff.mp outline
  · rw [same, Store.group_plant_of_old (Or.inl (coherent.placed.groupDrawn stored))]
    exact ⟨g, stored, rfl⟩
  · rw [same] at known ⊢
    -- The groups of the removed rollout are gone, and so is the rollout.
    rw [Rollouts.rollout_removeRollout] at known
    split at known
    · cases known
    · rename_i other
      exact ⟨g, coherent.placed.group_removeRollout.mpr ⟨stored, other⟩, rfl⟩

/-- Every deed leaves deployments attached to their rollouts. -/
theorem Deed.attached (deed : Deed settings h c s') (coherent : Coherent started h.present)
    (served : Served h.present) (attached : Attached h.present) : Attached s' := by
  have next : h.present.nextNumber Rollouts.sequence ≤ s'.nextNumber Rollouts.sequence :=
    (deed.effect coherent).next
  constructor
  case drawn =>
    intro id b m stored serves
    rcases deed.deploys coherent served stored serves with
      -- A deployment was one before, or it comes from a launch.
      ⟨a, _, _, _, before, rfl⟩ | ⟨r, g, commences, here⟩
    · have drawn := attached.drawn before ⟨serves.deploys, serves.member⟩
      omega
    · obtain ⟨r', known, -⟩ := commences.known
      have drawn := coherent.placed.drawn known
      have named := (commences.manned.own stored serves here).1
      omega
  case own =>
    intro id b m g stored serves found
    rcases deed.deploys coherent served stored serves with
      ⟨a, _, _, _, before, rfl⟩ | ⟨r, f, commences, here⟩
    · -- The group was there before, and it has not changed its rollout.
      have same : Serves a m := ⟨serves.deploys, serves.member⟩
      obtain ⟨f, was, plan, -⟩ := (deed.ages coherent (served.drawn before same)).before found
      have named := attached.own before same was
      rw [plan]
      exact named
    · obtain ⟨waits, -⟩ := commences.waits
      -- It comes from a launch, and a launch goes to the group that waits.
      rw [here] at found
      obtain ⟨f', was, plan, -⟩ :=
        (deed.ages coherent (coherent.placed.groupDrawn waits)).before found
      have named := (commences.manned.own stored serves here).1
      rw [plan, Option.some.inj (was.symm.trans waits), named]
      exact commences.own
  case kept =>
    intro id b m r stored serves known
    rcases deed.deploys coherent served stored serves with
      ⟨a, _, _, _, before, rfl⟩ | ⟨r', f, commences, here⟩
    · have same : Serves a m := ⟨serves.deploys, serves.member⟩
      -- The rollout was there before, and so the group is still with it.
      obtain ⟨r₀, was, -⟩ := (deed.lives coherent).before (attached.drawn before same) known
      obtain ⟨g, there⟩ := attached.kept before same was
      rw [← attached.own before same there] at known
      obtain ⟨g', still, -⟩ := deed.group_kept coherent there known
      exact ⟨g', still⟩
    · obtain ⟨g', runs, -⟩ := commences.runs
      exact ⟨g', by rw [here]; exact runs⟩

/-- In every state of every run, deployments are attached to their rollouts. -/
theorem attached_history (settings : Settings) (calls : List Call) :
    Attached (history settings calls).present :=
  history_holds Rollouts.attached_empty
    (fun calls _ deed => deed.attached (coherent_history settings calls)
      (served_history settings calls)) calls

end Service

/-- A group is what it was planned to be, and its status. -/
theorem RolloutGroup.eq_of_outline {g h : RolloutGroup} (same : g.outline = h.outline)
    (status : g.status = h.status) : g = h := by
  have planned : { g.outline with status := g.status } = { h.outline with status := h.status } := by
    rw [same, status]
  exact planned

/-- A rollout that has been stopped can only be deleted. -/
theorem RolloutStatus.of_stopped {new : RolloutStatus} (allowed : stopped.canBecome new = true) :
    new = .deleting := by
  cases new <;> first | rfl | cases allowed

namespace Rollouts

variable {s s' : Store} {now : Instant}

/-- Requests for cancellations take nothing off the lists of groups. -/
theorem listed_requestCancels {subjects : List Action} {place : Nat × Nat}
    (listed : s.groupActions.contains place = true) :
    (s.requestCancels subjects now).groupActions.contains place = true := by
  -- By induction on the subjects: a request only adds to the lists.
  induction subjects generalizing s with
  | nil => exact listed
  | cons subject rest ih =>
    refine ih ?_
    unfold Store.requestCancel
    rw [Deployments.contains_record, Deployments.contains_record]
    exact Or.inr (Or.inr listed)

/-- Once groups have been gone through, nothing that is listed for them is in flight. -/
theorem cancelGroups_clear {groups : List RolloutGroup} {units : List Unit}
    (done : (groups.mapM (cancelGroup now)) s = .ok (units, s')) {a : Action}
    (found : s'.actions.get? a.id = some a) (inFlight : a.isInFlight = true) :
    s.actions.get? a.id = some a ∧
      ∀ g ∈ groups, ¬ s.groupActions.contains (g.id, a.id) = true := by
  induction groups generalizing s units with
  | nil =>
    rw [Transaction.state_eq done]
    exact ⟨found, by simp⟩
  | cons g rest ih =>
    rw [List.mapM_cons] at done
    obtain ⟨_, s₁, first, more⟩ := Transaction.bind_eq_ok.mp done
    obtain ⟨_, s₂, others, last⟩ := Transaction.bind_eq_ok.mp more
    rw [Transaction.state_eq last] at others
    -- What is in flight at the end was so before, and has not been a subject of the first requests.
    obtain ⟨between, unlisted⟩ := ih others
    rw [cancelGroup_eq_ok first] at between unlisted
    obtain ⟨stored, spared⟩ := Deployments.inFlight_requestCancels between inFlight
    refine ⟨stored, fun h member listed => ?_⟩
    -- An action listed for the first group would be one of its subjects.
    rcases List.mem_cons.mp member with rfl | later
    · refine spared (List.mem_filter.mpr ⟨?_, inFlight⟩)
      exact List.mem_filterMap.mpr ⟨a.id, Store.mem_keysUnder.mpr listed, stored⟩
    · exact unlisted h later (listed_requestCancels listed)

end Rollouts

namespace Service

open Rollouts (Attached)

/-- A rollout that is stopped, with the deployments that are withdrawn for it. -/
structure Stops (id : Nat) (r : Rollout) (now : Instant) (s s' : Store) : Prop where
  rollout : s'.rollouts.get? id = some { r with status := .stopped }
  withdrawn : ∀ {a : Action} {m : Membership}, s.actions.get? a.id = some a →
    a.isInFlight = true → a.rollout = some m → m.rollout = id →
    ∃ number, Withdrawn s s' a number now
  others : ∀ {a : Action}, s.actions.get? a.id = some a →
    ¬ (a.isInFlight = true ∧ ∃ m, a.rollout = some m ∧ m.rollout = id) → Untouched a.id s s'

/-- Nothing has been done for a rollout between two states, except that it may have been deleted. -/
structure Halted (id : Nat) (s s' : Store) : Prop where
  status : ∀ {r : Rollout}, s'.rollouts.get? id = some r →
    r.status = .stopped ∨ r.status = .deleting
  groups : (s'.rollouts.get? id).isSome = true →
    ∀ g, g ∈ s'.groupsOf id ↔ g ∈ s.groupsOf id
  deployments : ∀ {b : Action} {m : Membership}, s'.actions.get? b.id = some b → Serves b m →
    m.rollout = id → ∃ a, s.actions.get? b.id = some a ∧ Serves a m

section Stop

variable (settings : Settings)

/-- A deployment for a stored rollout is listed for one of its groups. -/
theorem listed_of_serves (calls : List Call) {a : Action} {m : Membership} {r : Rollout}
    (stored : (history settings calls).present.actions.get? a.id = some a) (serves : Serves a m)
    (known : (history settings calls).present.rollouts.get? m.rollout = some r) :
    ∃ g ∈ (history settings calls).present.groupsOf m.rollout,
      (history settings calls).present.groupActions.contains (g.id, a.id) = true := by
  -- The group that the action names is stored as long as its rollout is.
  have placed := (coherent_history settings calls).placed
  have attached := attached_history settings calls
  obtain ⟨g, there⟩ := attached.kept stored serves known
  have number := placed.groupOwn there
  refine ⟨g, placed.mem_groupsOf.mpr ⟨by rw [number]; exact there,
    attached.own stored serves there⟩, ?_⟩
  rw [number]
  -- The list of a stored group has all that belongs to it.
  exact (listed_history settings calls).mpr
    ⟨⟨a, stored, m, serves.member, rfl⟩, Or.inl ⟨g, there⟩⟩

/-- What stops a rollout withdraws its deployments in flight, and touches no other action. -/
theorem stops_of_stop (calls : List Call) {tenant : String} {id : Nat} {r stopped : Rollout}
    {now : Instant} {s' : Store}
    (found : (history settings calls).present.rollouts.get? id = some r)
    (done : Rollouts.stop tenant id now (history settings calls).present = .ok (stopped, s'))
    (paired : Deployments.Paired s') : Stops id r now (history settings calls).present s' := by
  -- The stop writes the rollout first and then asks for the cancellations.
  have coherent := coherent_history settings calls
  obtain ⟨r', units, stored, -, -, cancels⟩ := Rollouts.stop_cancels done
  have same : r' = r := Option.some.inj (stored.symm.trans found)
  subst same
  have indexed : Deployments.Indexed
      ((history settings calls).present.putRollout { r' with status := .stopped }) :=
    coherent.indexed.putRollout _
  have requests := Rollouts.cancelGroups_requests indexed (coherent.filed.unchanged rfl rfl) cancels
  have own := coherent.placed.own stored
  subst own
  constructor
  case rollout =>
    have steps : Deployments.Steps settings _ s' := requests.steps
    rw [steps.frame.rollouts]
    exact (Table.get?_insert _ _ _ _).trans (if_pos rfl)
  case withdrawn =>
    intro a m here inFlight member named
    rcases requests.withdraws indexed paired here with untouched | ⟨-, -, number, withdrawn⟩
    · -- What is in flight and listed for a group is not left alone.
      have serves : Serves a m := ⟨(Action.isInFlight_iff.mp inFlight).2.1, member⟩
      obtain ⟨g, within, listed⟩ :=
        listed_of_serves settings calls here serves (by rw [named]; exact stored)
      rw [named] at within
      obtain ⟨-, clear⟩ := Rollouts.cancelGroups_clear cancels (untouched.action.trans here) inFlight
      exact absurd listed (clear g within)
    · exact ⟨number, withdrawn.canceling, withdrawn.fresh, withdrawn.cancel, withdrawn.alone⟩
  case others =>
    intro a here apart
    rcases requests.withdraws indexed paired here with untouched | ⟨belongs, inFlight, -⟩
    · exact ⟨untouched.action, untouched.log⟩
    · -- What is withdrawn for a group is a deployment for its rollout.
      obtain ⟨g, within, m, member, named⟩ := belongs
      obtain ⟨there, rollout⟩ := coherent.placed.mem_groupsOf.mp within
      have serves : Serves a m := ⟨(Action.isInFlight_iff.mp inFlight).2.1, member⟩
      have attached := (attached_history settings calls).own here serves (by rw [named]; exact there)
      exact absurd ⟨inFlight, m, member, attached.symm.trans rollout⟩ apart

end Stop

section Rest

variable {settings : Settings} {started begun : Nat → Prop} {h : History} {c : Call}
  {s₀ s' : Store} {id : Nat} {r r' : Rollout}

/-- A group of a rollout that neither runs nor is about to stays as it is while it is stored. -/
theorem Deed.group_rests (deed : Deed settings h c s') (coherent : Coherent started h.present)
    (stored : h.present.rollouts.get? id = some r)
    (rests : r.status = .stopped ∨ r.status = .deleting)
    (known : s'.rollouts.get? id = some r') {g : RolloutGroup}
    (there : h.present.groups.get? g.id = some g) (own : g.rollout = id) :
    s'.groups.get? g.id = some g := by
  subst own
  obtain ⟨g', still, outline⟩ := deed.group_kept coherent there known
  -- A group that keeps its outline can only have changed its status.
  by_cases same : g'.status = g.status
  · rw [still, RolloutGroup.eq_of_outline outline same]
  · -- Only a rollout that runs or is ready changes its groups.
    obtain ⟨q, found, stirs⟩ := deed.stirs coherent there still same
    rw [stored] at found
    rw [← Option.some.inj found] at stirs
    rcases rests with stopped | deleting
    · simp [stopped] at stirs
    · simp [deleting] at stirs

/-- The groups of such a rollout are the same before and after, while it is stored. -/
theorem Deed.groups_rest (deed : Deed settings h c s') (coherent : Coherent started h.present)
    (after : Coherent begun s') (stored : h.present.rollouts.get? id = some r)
    (rests : r.status = .stopped ∨ r.status = .deleting) (plan : Rollouts.SamePlan r r')
    (known : s'.rollouts.get? id = some r') (g : RolloutGroup) :
    g ∈ s'.groupsOf id ↔ g ∈ h.present.groupsOf id := by
  rw [after.placed.mem_groupsOf, coherent.placed.mem_groupsOf]
  constructor
  · rintro ⟨found, own⟩
    -- The place of the group had a group before, and that one is still at its place.
    obtain ⟨q, here, within⟩ := after.placed.within found
    rw [own, known] at here
    have count : r'.groupCount = r.groupCount := by rw [plan]
    rw [← Option.some.inj here, count] at within
    obtain ⟨f, there, belongs, position⟩ := coherent.placed.exists_group stored within
    have still := deed.group_rests coherent stored rests known there belongs
    have same : f = g := after.placed.unique still found (belongs.trans own.symm) position
    rw [← same]
    exact ⟨there, belongs⟩
  · rintro ⟨there, own⟩
    exact ⟨deed.group_rests coherent stored rests known there own, own⟩

/-- Whatever a call does, nothing is done for a rollout that has been stopped. -/
theorem Halted.deed (halted : Halted id s₀ h.present) (deed : Deed settings h c s')
    (coherent : Coherent started h.present) (after : Coherent begun s')
    (served : Rollouts.Served h.present)
    (drawn : id < h.present.nextNumber Rollouts.sequence) : Halted id s₀ s' := by
  have lives := deed.lives coherent
  constructor
  case status =>
    intro r' known
    -- A rollout goes on from stopped to deletion only.
    obtain ⟨r, stored, -, same | allowed⟩ := lives.before drawn known
    · rw [same]
      exact halted.status stored
    · refine Or.inr ?_
      rcases halted.status stored with stopped | deleting
      · exact RolloutStatus.of_stopped (stopped ▸ allowed)
      · rw [deleting] at allowed
        cases allowed
  case groups =>
    intro present g
    obtain ⟨r', known⟩ := Option.isSome_iff_exists.mp present
    -- Neither the rollout nor its groups have changed, since the rollout does not run.
    obtain ⟨r, stored, plan, -⟩ := lives.before drawn known
    rw [deed.groups_rest coherent after stored (halted.status stored) plan known,
      halted.groups (by rw [stored]; rfl)]
  case deployments =>
    intro b m stored serves named
    rcases deed.deploys coherent served stored serves with
      ⟨a, _, _, _, before, rfl⟩ | ⟨r, g, commences, here⟩
    -- The deployment was there before the call.
    · have same : Serves a m := ⟨serves.deploys, serves.member⟩
      have earlier : ∃ o, s₀.actions.get? a.id = some o ∧ Serves o m :=
        halted.deployments before same named
      exact earlier
    · -- A launch belongs to a rollout that runs.
      obtain ⟨waits, low⟩ := commences.waits
      obtain ⟨g', runs, running⟩ := commences.runs
      have changes : g'.status ≠ g.status := fun same => by
        rw [← same, running] at low
        simp [GroupStatus.rank] at low
      obtain ⟨q, known, active⟩ := deed.progress coherent waits runs changes (Or.inl running)
      rw [commences.own, ← (commences.manned.own stored serves here).1, named] at known
      rcases halted.status known with stopped | deleting
      · rw [stopped] at active
        cases active
      · rw [deleting] at active
        cases active

/-- However a run goes on, nothing is done for a rollout that has been stopped. -/
theorem halted_history (settings : Settings) (calls more : List Call) {id : Nat} {r : Rollout}
    (stored : (history settings calls).present.rollouts.get? id = some r)
    (stopped : r.status = .stopped) :
    Halted id (history settings calls).present (history settings (calls ++ more)).present := by
  -- By induction on the calls after the stop: none of them ends the halt.
  have drawn := (coherent_history settings calls).placed.drawn stored
  induction more using List.reverseRecOn with
  | nil =>
    rw [List.append_nil]
    refine ⟨fun found => ?_, fun _ _ => Iff.rfl, fun found serves _ => ⟨_, found, serves⟩⟩
    rw [← Option.some.inj (stored.symm.trans found)]
    exact Or.inl stopped
  | append_singleton more c ih =>
    have coherent := coherent_history settings (calls ++ more)
    rw [← List.append_assoc]
    have deed : Deed settings (history settings (calls ++ more)) c
        (history settings (calls ++ more ++ [c])).present := by
      rw [history_concat]
      exact c.deed _ coherent
    exact ih.deed deed coherent (coherent_history settings (calls ++ more ++ [c]))
      (served_history settings (calls ++ more))
      (Nat.lt_of_lt_of_le drawn (next_history settings calls more))

end Rest

/-- A rollout that is stopped stays so, with its groups and without new deployments. -/
theorem stop_halts (settings : Settings) (calls : List Call) {tenant : String} {id : Nat}
    {r : Rollout} (found : (history settings calls).present.rollout? tenant id = some r)
    (stoppable : r.status = .ready ∨ r.status = .running ∨ r.status = .paused) (now : Instant) :
    ∃ stopped s',
      (Rollouts.stop tenant id now).run (history settings calls).present = (.ok stopped, s') ∧
      Stops id r now (history settings calls).present s' ∧
      ∀ more, Halted id s'
        (history settings (calls ++ [⟨now, .stopRollout tenant id⟩] ++ more)).present := by
  -- A rollout of one of the three statuses can be stopped, so that the call succeeds.
  have allowed : r.status ∈ Rollouts.stoppable := by simpa [Rollouts.stoppable] using stoppable
  obtain ⟨stopped, s', done⟩ := stop_succeeds settings calls found allowed now
  have carried := Transaction.run_of_ok done
  have left : (history settings (calls ++ [⟨now, .stopRollout tenant id⟩])).present = s' := by
    rw [history_concat]
    simp only [History.next, Call.apply, carried]
  have paired := (coherent_history settings (calls ++ [⟨now, .stopRollout tenant id⟩])).paired
  rw [left] at paired
  have stops := stops_of_stop settings calls (Option.filter_eq_some_iff.mp found).1 done paired
  refine ⟨stopped, s', carried, stops, fun more => ?_⟩
  have rollout := stops.rollout
  rw [← left] at rollout ⊢
  exact halted_history settings _ more rollout rfl

/-- The first group of the launched rollout runs when the rollout is stopped. -/
theorem stop_halts_launch :
    ∃ r stopped s', r.status = .running ∧
      (Rollouts.stop "t" 1 .epoch).run (history .standard launch).present = (.ok stopped, s') ∧
      Stops 1 r .epoch (history .standard launch).present s' ∧
      ∀ more, Halted 1 s'
        (history .standard (launch ++ [⟨.epoch, .stopRollout "t" 1⟩] ++ more)).present := by
  have runs : (((history .standard launch).present.rollout? "t" 1).any
      fun r => r.status == .running) = true := by
    decide +kernel
  obtain ⟨r, found, status⟩ := (Option.any_eq_true _ _).mp runs
  rw [beq_iff_eq] at status
  obtain ⟨stopped, s', done, stops, halted⟩ :=
    stop_halts .standard launch found (Or.inr (Or.inl status)) .epoch
  exact ⟨r, stopped, s', status, done, stops, halted⟩

end Service

end DeviceUpdate
