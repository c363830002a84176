import DeviceUpdate.Proofs.Deployment.Feasibility
import DeviceUpdate.Proofs.Service.Coverage
import DeviceUpdate.Proofs.Service.Lifecycle
import DeviceUpdate.Proofs.Service.Order

/-! Ticks and stops do not fail: whatever a rollout asks for can be done in every reachable state. -/

namespace DeviceUpdate

namespace Rollouts

open Deployments (Filed Indexed Paired Shelved Stocks)

/-- What a rollout asks for can be assigned, at any time and under any settings. -/
structure Assignable (s : Store) (r : Rollout) : Prop where
  known : (s.set? r.tenant r.distributionSet).isSome = true
  valid : ∀ (own : TenantSettings) (now : Instant),
    ∃ weight, (requestOf r).validate own now = .ok weight

/-- What all stored rollouts ask for can be assigned. -/
def Feasible (s : Store) : Prop :=
  ∀ ⦃id : Nat⦄ ⦃r : Rollout⦄, s.rollouts.get? id = some r → Assignable s r

/-- All that the groups of a rollout need in order to start. -/
structure Equipped (r : Rollout) (s : Store) : Prop where
  indexed : Indexed s
  paired : Paired s
  shelved : Shelved s
  assignable : Assignable s r

variable {settings : Settings} {started : Nat → Prop} {s s' : Store} {r r' : Rollout}
  {g : RolloutGroup} {now : Instant}

section Requests

/-- A valid request has the time that its urgency needs, and a weight within the limit. -/
theorem validate_eq_ok {q : Request} (valid : q.validate = .ok ()) :
    (q.urgency == .timeForced && q.forcedTime.isNone) = false ∧
      ∀ w, q.weight = some w → w ≤ maxWeight := by
  simp only [Request.validate, bind, Except.bind, pure, Except.pure, throw, throwThe,
    MonadExceptOf.throw] at valid
  -- Each check would refuse the request at its place, and none has.
  by_cases named : (Text.trim q.name.toList).isEmpty = true
  · simp only [named, ↓reduceIte] at valid
    cases valid
  by_cases timed : (q.urgency == .timeForced && q.forcedTime.isNone) = true
  · simp only [named, timed, ↓reduceIte] at valid
    cases valid
  refine ⟨Bool.eq_false_iff.mpr timed, fun w given => ?_⟩
  -- The weight is the last to be checked, after the conditions.
  by_contra heavy
  rw [Nat.not_le] at heavy
  cases checked : q.conditions.mapM percentage <;>
    simp [named, timed, given, checked, heavy] at valid

/-- A rollout of a valid request asks for what is valid. -/
theorem requestOf_valid {q : Request} (valid : q.validate = .ok ()) {r : Rollout}
    (urgency : r.urgency = q.urgency) (forcedTime : r.forcedTime = q.forcedTime)
    (weight : r.weight = q.weight) (own : TenantSettings) (now : Instant) :
    ∃ weight, (requestOf r).validate own now = .ok weight := by
  obtain ⟨timed, light⟩ := validate_eq_ok valid
  simp only [AssignmentRequest.validate, requestOf, urgency, forcedTime, weight, timed,
    Bool.false_eq_true, ↓reduceIte]
  -- There is no window to be read, so that the weight decides.
  cases given : q.weight with
  | none => exact ⟨_, rfl⟩
  | some w =>
    have within := light w given
    exact ⟨some w, by simp only [if_neg (Nat.not_lt.mpr within)]; rfl⟩

/-- A rollout is planned only for a set that is known. -/
theorem planned_known {own : TenantSettings} {tenant : String} {q : Request}
    {plan : List (List String) × Nat} (done : planned own tenant q s = .ok plan) :
    (s.set? tenant q.distributionSet).isSome = true := by
  unfold planned at done
  rw [planned_valid done] at done
  -- A plan is made only behind this check.
  cases shares : q.plan with
  | error e =>
    rw [shares] at done
    cases done
  | ok p =>
    -- The set is looked for before any target is selected.
    rw [shares] at done
    by_cases missing : (s.set? tenant q.distributionSet).isNone = true
    · simp only [bind, Except.bind, missing, ↓reduceIte] at done
      cases done
    · simpa [Option.isSome_iff_ne_none] using missing

end Requests

section Starts

/-- Steps of the targets and actions leave a rollout equipped. -/
theorem Equipped.steps (equipped : Equipped r s) (steps : Deployments.Steps settings s s') :
    Equipped r s' := by
  have stocks := steps.stocks equipped.shelved
  exact ⟨steps.indexed equipped.indexed, steps.paired equipped.indexed equipped.paired,
    stocks.shelved, stocks.known equipped.assignable.known, equipped.assignable.valid⟩

/-- What the steps of rollouts leave alone leaves a rollout equipped. -/
theorem Equipped.frame (equipped : Equipped r s) (frame : Frame s s') : Equipped r s' := by
  have stocks : Stocks s s' :=
    .of_eq equipped.shelved frame.sets (frame.next _ (by decide) (by decide))
  exact ⟨Service.indexed_of_frame frame equipped.indexed,
    Service.paired_of_frame frame equipped.paired, stocks.shelved,
    stocks.known equipped.assignable.known, equipped.assignable.valid⟩

/-- Serving a member does not fail, whether the member still exists or not. -/
theorem assignMember_succeeds (equipped : Equipped r s) (own : TenantSettings) (group : Nat)
    (now : Instant) (controller : String) :
    ∃ s', assignMember own r group now controller s = .ok ((), s') := by
  obtain ⟨weight, valid⟩ := equipped.assignable.valid own now
  simp only [assignMember, Transaction.read_bind_apply]
  -- A target that has gone in the meantime is passed over, and the others are assigned to.
  by_cases registered : (s.target? r.tenant controller).isSome = true
  · obtain ⟨assigned, s', assigns⟩ := Deployments.assignIn_succeeds equipped.indexed
      equipped.paired valid registered equipped.assignable.known (some ⟨r.id, group⟩)
    rw [if_pos registered]
    exact ⟨s', Transaction.bind_eq_ok.mpr ⟨assigned, s', assigns, rfl⟩⟩
  · rw [if_neg registered]
    exact ⟨s, Transaction.lift_bind_eq_ok.mpr ⟨weight, valid, rfl⟩⟩

/-- Serving the members of a group does not fail. -/
theorem assignMembers_succeed {members : List String} (equipped : Equipped r s) (group : Nat)
    (now : Instant) :
    ∃ s', (members.forM (assignMember (settings.tenant r.tenant) r group now)) s =
      .ok ((), s') := by
  -- One member after the other is served, each in a state with the same equipment.
  induction members generalizing s with
  | nil => exact ⟨s, rfl⟩
  | cons controller rest ih =>
    obtain ⟨s₁, first⟩ :=
      assignMember_succeeds equipped (settings.tenant r.tenant) group now controller
    -- The others are served in the state that the first one leaves.
    have steps : Deployments.Steps settings s s₁ :=
      (assignMember_enrols first).steps equipped.indexed
    obtain ⟨s₂, others⟩ := ih (equipped.steps steps)
    refine ⟨s₂, ?_⟩
    rw [List.forM_eq_forM, List.forM_cons]
    exact Transaction.bind_eq_ok.mpr ⟨(), s₁, first, others⟩

/-- The start of a group does not fail. -/
theorem startGroup_ne_error (equipped : Equipped r s) {e : Error} :
    startGroup (settings.tenant r.tenant) r g now s ≠ .error e := by
  intro fails
  unfold startGroup at fails
  -- An empty group is finished at once, and one with members serves them.
  split at fails
  · rw [Transaction.moveGroup_bind_apply] at fails
    cases fails
  · rw [Transaction.moveGroup_bind_apply] at fails
    split at fails
    · rw [Transaction.read_bind_apply] at fails
      obtain ⟨d, served, -⟩ := Transaction.mapError_eq_error fails
      -- The members are served once the group has moved, which takes nothing away from them.
      have ready := equipped.frame (moveGroup_frame s g.id startable .running)
      obtain ⟨s', succeeds⟩ : ∃ s', (List.forM _ (assignMember (settings.tenant r.tenant) r g.id
          now)) _ = .ok ((), s') := assignMembers_succeed ready g.id now
      rw [succeeds] at served
      cases served
    · cases fails

end Starts

section Stops

/-- A rollout that is stored in one of the expected statuses moves. -/
theorem transition_succeeds {tenant : String} {id : Nat} (found : s.rollout? tenant id = some r)
    {expected : List RolloutStatus} (allowed : r.status ∈ expected) (status : RolloutStatus)
    (operation : Operation) :
    ∃ moved s', transition tenant id expected status operation s = .ok (moved, s') := by
  -- The rollout is found in a status that allows the move.
  obtain ⟨stored, -⟩ := Option.filter_eq_some_iff.mp found
  have moves : s.moveRollout id expected status =
      (true, s.putRollout { r with status := status }) := by
    simp [Store.moveRollout, stored, allowed]
  simp only [transition, find, bind_assoc, Transaction.read_bind_apply,
    Transaction.orElse_bind_eq_ok, Transaction.moveRollout_bind_apply, moves]
  exact ⟨_, _, r, found, rfl⟩

/-- The deployments in flight of a group can be cancelled. -/
theorem cancelGroup_succeeds (indexed : Indexed s) (paired : Paired s) (g : RolloutGroup)
    (now : Instant) : ∃ s', cancelGroup now g s = .ok ((), s') := by
  -- What is in flight is open, so it can be cancelled.
  have each (a : Action) (member : a ∈ (s.actionsOfGroup g.id).filter (·.isInFlight)) :
      a.isInFlight = true ∧ a.isClosed = false := by
    obtain ⟨listed, inFlight⟩ := List.mem_filter.mp member
    have active := (Action.isInFlight_iff.mp inFlight).1
    exact ⟨inFlight, paired.open_of_active (indexed.mem_actionsOfGroup listed) active⟩
  obtain ⟨cancels, s', done⟩ := Deployments.mapM_cancelIn_succeeds each now s
  simp only [cancelGroup, Transaction.read_bind_apply]
  exact ⟨s', Transaction.bind_eq_ok.mpr ⟨cancels, s', done, rfl⟩⟩

/-- The deployments in flight of several groups can be cancelled one by one. -/
theorem cancelGroups_succeed (indexed : Indexed s) (filed : Filed s) (paired : Paired s)
    (groups : List RolloutGroup) (now : Instant) :
    ∃ units s', (groups.mapM (cancelGroup now)) s = .ok (units, s') := by
  induction groups generalizing s with
  | nil => exact ⟨[], s, rfl⟩
  -- Cancelling one group leaves the others as cancellable as before.
  | cons g rest ih =>
    obtain ⟨s₁, first⟩ := cancelGroup_succeeds indexed paired g now
    have requests := cancelGroup_requests indexed filed first
    have steps : Deployments.Steps .standard s s₁ := requests.steps
    obtain ⟨units, s₂, others⟩ := ih (requests.indexed indexed) (requests.filed indexed filed)
      (steps.paired indexed paired)
    refine ⟨() :: units, s₂, ?_⟩
    rw [List.mapM_cons]
    exact Transaction.bind_eq_ok.mpr ⟨(), s₁, first,
      Transaction.bind_eq_ok.mpr ⟨units, s₂, others, rfl⟩⟩

end Stops

section Plans

/-- What can be assigned stays so while the plan stays the same and no set is lost. -/
theorem Assignable.kept (assignable : Assignable s r) (plan : SamePlan r r')
    (stocks : Stocks s s') : Assignable s' r' := by
  rw [plan]
  exact ⟨stocks.known assignable.known, assignable.valid⟩

/-- Nothing is stored at the start. -/
theorem feasible_empty : Feasible .empty := by
  intro id r found
  simp [Store.empty] at found

/-- Rollouts that go on ask for the same as before. -/
theorem Feasible.continues (feasible : Feasible s) (continues : Continues s s')
    (stocks : Stocks s s') : Feasible s' := by
  intro id r found
  obtain ⟨before, stored, plan⟩ := continues.origin found
  exact (feasible stored).kept plan stocks

/-- A new rollout asks for what was valid and known when it was planned. -/
theorem Feasible.plant (feasible : Feasible s) {own : TenantSettings} {tenant : String}
    {q : Request} {members : List (List String)} {total : Nat} {earlier : Store}
    (done : planned own tenant q earlier = .ok (members, total)) (past : Stocks earlier s)
    (stocks : Stocks s (s.plant tenant q members total now)) :
    Feasible (s.plant tenant q members total now) := by
  intro id r found
  rw [Store.rollout_plant] at found
  split at found
  -- The set has not been lost since the plan was made, however long ago that was.
  · rw [← Option.some.inj found]
    exact ⟨(past.trans stocks).known (planned_known done),
      requestOf_valid (planned_valid done) rfl rfl rfl⟩
  · exact (feasible found).kept rfl stocks

end Plans

end Rollouts

namespace Service

open Deployments (Shelved Stocks)
open Rollouts (Continues Feasible)

variable {settings : Settings} {started : Nat → Prop} {s s' : Store} {h : History} {c : Call}

section Runs

/-- What leaves the sets and their sequence alone loses no distribution set. -/
theorem stocks_of_frame (frame : Rollouts.Frame s s') (shelved : Shelved s) : Stocks s s' :=
  .of_eq shelved frame.sets (frame.next _ (by decide) (by decide))

/-- No run of steps of the service loses a distribution set. -/
theorem Steps.stocks (steps : Steps settings s s') (shelved : Shelved s) : Stocks s s' := by
  induction steps with
  | refl => exact .refl shelved
  | tail _ step ih =>
    cases step with
    | deployment step => exact ih.trans (step.stocks ih.shelved)
    | rollout step => exact ih.trans (stocks_of_frame step.frame ih.shelved)

/-- No call loses a distribution set. -/
theorem Effect.stocks {operation : Operation} (effect : Effect settings operation s s')
    (shelved : Shelved s) : Stocks s s' := by
  cases effect with
  | steps steps => exact steps.stocks shelved
  | resumed cancel subject own resumption => exact resumption.stocks shelved
  | started id start => exact stocks_of_frame start.frame shelved
  | failed id failure => exact stocks_of_frame failure.frame shelved

/-- The distribution sets of all states that a history knows are still there. -/
theorem stocks_history (settings : Settings) (calls : List Call) {s : Store}
    (member : s ∈ (history settings calls).present :: (history settings calls).past) :
    Stocks s (history settings calls).present := by
  -- The state is the present one or an earlier one, and from each to the next nothing is lost.
  induction calls using List.reverseRecOn generalizing s with
  | nil =>
    rw [history_nil, List.mem_singleton] at member
    rw [member]
    exact .refl Deployments.shelved_empty
  | append_singleton calls c ih =>
    have coherent := coherent_history settings calls
    have last : Stocks (history settings calls).present (history settings (calls ++ [c])).present := by
      rw [history_concat]
      exact (c.effect _ coherent).stocks (ih List.mem_cons_self).shelved
    rcases List.mem_cons.mp member with same | earlier
    · rw [same]
      exact .refl last.shelved
    -- What an earlier state has lost nothing of, the last call does not lose either.
    · rw [history_concat] at earlier
      exact (ih earlier).trans last

/-- A call moves rollouts as they can move, or plants one that was planned in a known state. -/
theorem Call.continues_or_plans (c : Call) (h : History) (coherent : Coherent started h.present) :
    Continues h.present (c.apply settings h) ∨ ∃ tenant q since members total,
      c.operation = .createRollout tenant q since ∧
        Rollouts.planned (settings.tenant tenant) tenant q (h.ago since) = .ok (members, total) ∧
        c.apply settings h = h.present.plant tenant q members total c.now := by
  rcases (c.deed h coherent).continues_or_plants coherent with
    continues | ⟨tenant, q, since, -, -, own, -⟩
  · exact Or.inl continues
  · obtain ⟨now, operation⟩ := c
    subst own
    simp only [Call.apply]
    -- Only what has been planned is stored.
    split
    · rename_i members total planned
      rcases Transaction.run_cases (Rollouts.storePlanned tenant q members total now) h.present with
        same | ⟨detail, done⟩
      · rw [same]
        exact Or.inl (.of_eq rfl)
      · exact Or.inr
          ⟨tenant, q, since, members, total, rfl, planned, Rollouts.storePlanned_eq_ok done⟩
    · exact Or.inl (.of_eq rfl)

/-- In every state of every run, what all rollouts ask for can be assigned. -/
theorem feasible_history (settings : Settings) (calls : List Call) :
    -- Either the call goes on with what there is, or it plans a rollout that is feasible.
    Feasible (history settings calls).present := by
  induction calls using List.reverseRecOn with
  | nil => exact Rollouts.feasible_empty
  | append_singleton calls c ih =>
    have coherent := coherent_history settings calls
    have known {s : Store} := stocks_history settings calls (s := s)
    have stocks : Stocks (history settings calls).present (c.apply settings (history settings calls)) :=
      (c.effect _ coherent).stocks (known List.mem_cons_self).shelved
    rw [history_concat]
    rcases c.continues_or_plans (history settings calls) coherent with
      continues | ⟨tenant, q, since, members, total, -, planned, same⟩
    · exact ih.continues continues stocks
    · refine (congrArg Feasible same).mpr (ih.plant planned (known (History.ago_mem _ since)) ?_)
      rw [← same]
      exact stocks

end Runs

section Success

/-- In every reachable state, stored rollouts are equipped. -/
theorem equipped_history (settings : Settings) (calls : List Call) {id : Nat} {r : Rollout}
    (stored : (history settings calls).present.rollouts.get? id = some r) :
    Rollouts.Equipped r (history settings calls).present where
  indexed := (coherent_history settings calls).indexed
  paired := (coherent_history settings calls).paired
  shelved := (stocks_history settings calls List.mem_cons_self).shelved
  assignable := feasible_history settings calls stored

/-- In every reachable state, rollouts can be evaluated. -/
theorem evaluate_succeeds (settings : Settings) (calls : List Call) (id : Nat) (now : Instant) :
    ∃ s', Rollouts.evaluate settings id now (history settings calls).present = .ok ((), s') := by
  cases outcome : Rollouts.evaluate settings id now (history settings calls).present with
  | ok done => exact ⟨done.2, rfl⟩
  | error e =>
    -- Only a group that cannot start could hold the rollout up.
    obtain ⟨r, g, s', stored, frame, fails⟩ :=
      Rollouts.evaluate_error (readable_history settings calls) outcome
    have equipped := (equipped_history settings calls stored).frame frame
    exact absurd fails (Rollouts.startGroup_ne_error equipped)

/-- What a tick does for a rollout succeeds in every reachable state, however it was listed. -/
theorem visit?_succeeds (settings : Settings) (calls : List Call) {r : Rollout} {now : Instant}
    {t : Transaction Rollouts.Error Bool} (needs : Rollouts.visit? settings r now = some t) :
    ∃ flag s', t (history settings calls).present = .ok (flag, s') := by
  unfold Rollouts.visit? at needs
  -- Starts, evaluations and purges are the three things a visit can do.
  split at needs
  · split at needs
    · rw [← Option.some.inj needs]
      obtain ⟨done, succeeds⟩ := startIn_succeeds r.id (history settings calls).present
      exact ⟨done.1, done.2, succeeds⟩
    · cases needs
  · rw [← Option.some.inj needs]
    obtain ⟨s', succeeds⟩ := evaluate_succeeds settings calls r.id now
    exact ⟨true, s', Transaction.bind_eq_ok.mpr ⟨(), s', succeeds, rfl⟩⟩
  · rw [← Option.some.inj needs]
    obtain ⟨done, succeeds⟩ := purge_succeeds r.id (history settings calls).present
    exact ⟨done.1, done.2, succeeds⟩
  · cases needs

/-- What succeeds is not counted as a failure. -/
theorem failed_count (report : Rollouts.TickReport) (status : RolloutStatus) (flag : Bool) :
    (report.count status flag).failed = report.failed := by
  cases status <;> rfl

/-- A visit in a reachable state adds no failure to the report. -/
theorem visit_failed (settings : Settings) (calls : List Call) (now : Instant)
    (report : Rollouts.TickReport) (r : Rollout) :
    (Rollouts.visit settings now (report, (history settings calls).present) r).1.failed =
      report.failed := by
  unfold Rollouts.visit
  cases needs : Rollouts.visit? settings r now with
  | none => rfl
  | some t =>
    -- The visit succeeds, so it is not counted as a failure.
    obtain ⟨flag, s', succeeds⟩ := visit?_succeeds settings calls needs
    simp only [Transaction.run, StateT.run, succeeds]
    exact failed_count report r.status flag

/-- Visits that begin in a reachable state add no failure to the report. -/
theorem visits_failed (settings : Settings) (calls : List Call) (now : Instant)
    (listed : List Rollout) (report : Rollouts.TickReport) :
    (listed.foldl (Rollouts.visit settings now)
      (report, (history settings calls).present)).1.failed = report.failed := by
  induction listed generalizing calls report with
  | nil => rfl
  | cons r rest ih =>
    -- The other visits begin in the state that the first one reaches.
    obtain ⟨more, reached⟩ : Reaches settings (history settings calls) _ :=
      visit_reached (history settings calls) now report r
    rw [← history_append] at reached
    have first := visit_failed settings calls now report r
    have others := ih (calls ++ more)
      (Rollouts.visit settings now (report, (history settings calls).present) r).1
    rw [reached] at others
    exact others.trans first

/-- A rollout that can be stopped is stopped, in every reachable state. -/
theorem stop_succeeds (settings : Settings) (calls : List Call) {tenant : String} {id : Nat}
    {r : Rollout} (found : (history settings calls).present.rollout? tenant id = some r)
    (allowed : r.status ∈ Rollouts.stoppable) (now : Instant) :
    ∃ stopped s', Rollouts.stop tenant id now (history settings calls).present =
      .ok (stopped, s') := by
  have coherent := coherent_history settings calls
  obtain ⟨moved, s₁, first⟩ :=
    Rollouts.transition_succeeds found allowed .stopped .stop
  obtain ⟨r', stored, -, -, same⟩ := Rollouts.transition_eq_ok first
  -- The move leaves the actions alone, so that those of the groups can be cancelled.
  have frame : Rollouts.Frame (history settings calls).present s₁ := by
    rw [same]
    exact .of_eq rfl rfl rfl rfl rfl rfl
  have filed : Deployments.Filed s₁ := by
    rw [same]
    exact coherent.filed.unchanged rfl rfl
  obtain ⟨units, s₂, cancels⟩ := Rollouts.cancelGroups_succeed
    (indexed_of_frame frame coherent.indexed) filed (paired_of_frame frame coherent.paired)
    (s₁.groupsOf id) now
  refine ⟨moved, s₂, Transaction.bind_eq_ok.mpr ⟨moved, s₁, first, ?_⟩⟩
  rw [Transaction.read_bind_apply]
  exact Transaction.bind_eq_ok.mpr ⟨units, s₂, Transaction.mapError_eq_ok.mpr cancels, rfl⟩

end Success

/-- Nothing that rollouts need fails in a state. -/
structure Unhindered (settings : Settings) (s : Store) : Prop where
  tick : ∀ now : Instant, (Rollouts.tick settings now s).1.failed = 0
  /-- A tick may come upon the state with a rollout that it has listed at any time before. -/
  visit : ∀ {r : Rollout} {now : Instant} {t : Transaction Rollouts.Error Bool},
    Rollouts.visit? settings r now = some t → ∃ flag, (t.run s).1 = .ok flag
  stop : ∀ {tenant : String} {id : Nat} {r : Rollout} (now : Instant),
    s.rollout? tenant id = some r → r.status ∈ Rollouts.stoppable →
    ∃ stopped, ((Rollouts.stop tenant id now).run s).1 = .ok stopped
  start : ∀ {id : Nat} {r : Rollout} {g : RolloutGroup} {now : Instant} {e : Rollouts.Error},
    s.rollouts.get? id = some r →
    Rollouts.startGroup (settings.tenant r.tenant) r g now s ≠ .error e
  readable : Rollouts.Readable s

/-- In every reachable state, ticks fail for no rollout, and rollouts can be stopped. -/
theorem rollouts_unhindered (settings : Settings) (calls : List Call) :
    -- Each part has been shown for a single state, and it holds for every state that is reached.
    Unhindered settings (history settings calls).present where
  tick now := visits_failed settings calls now _ .zero
  visit := by
    intro r now t needs
    obtain ⟨flag, s', succeeds⟩ := visit?_succeeds settings calls needs
    exact ⟨flag, by simp only [Transaction.run, StateT.run, succeeds]⟩
  stop := by
    intro tenant id r now found allowed
    obtain ⟨stopped, s', succeeds⟩ := stop_succeeds settings calls found allowed now
    exact ⟨stopped, by simp only [Transaction.run, StateT.run, succeeds]⟩
  start stored := Rollouts.startGroup_ne_error (equipped_history settings calls stored)
  readable := readable_history settings calls

set_option maxRecDepth 10000 in
/-- The rollout that has been launched can be stopped. -/
theorem rollouts_unhindered_launch :
    ∃ r, (history .standard launch).present.rollout? "t" 1 = some r ∧ r.status = .running ∧
      ∃ stopped, ((Rollouts.stop "t" 1 .epoch).run (history .standard launch).present).1 =
        .ok stopped := by
  -- The first rollout of the run is running, and so it can be stopped.
  have runs : ((history .standard launch).present.rollout? "t" 1).any
      (fun r => r.status == .running) = true := by
    decide +kernel
  obtain ⟨r, found, status⟩ := (Option.any_eq_true _ _).mp runs
  have running : r.status = .running := beq_iff_eq.mp status
  have allowed : r.status ∈ Rollouts.stoppable := by
    rw [running]
    decide
  exact ⟨r, found, running, (rollouts_unhindered .standard launch).stop .epoch found allowed⟩

end Service

end DeviceUpdate
