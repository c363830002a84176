import DeviceUpdate.Proofs.Rollout.Condition
import DeviceUpdate.Proofs.Rollout.Outcome
import DeviceUpdate.Proofs.Service.Ageing
import DeviceUpdate.Proofs.Service.Conduct

/-! The life of rollouts: from which status to which other one they can move, and how they end. -/

namespace DeviceUpdate

/-- Whether a rollout can move from one status to another in one transaction. -/
def RolloutStatus.canBecome : RolloutStatus → RolloutStatus → Bool
  | ready, running | running, paused | paused, running | running, finished | running, error => true
  | ready, stopped | running, stopped | paused, stopped => true
  | creating, deleting | ready, deleting | stopped, deleting | finished, deleting
  | error, deleting => true
  | _, _ => false

namespace Rollouts

/-- A rollout of which nothing has changed but its status and the time of its last check. -/
def SamePlan (r r' : Rollout) : Prop :=
  r' = { r with status := r'.status, lastCheck := r'.lastCheck }

/-- How what is stored under a number may change, where the number may be new or not. -/
inductive Passes (new : Prop) : Option Rollout → Option Rollout → Prop
  | absent : Passes new none none
  | created {r : Rollout} (here : new) (ready : r.status = .ready) : Passes new none (some r)
  | kept {r r' : Rollout} (plan : SamePlan r r') (same : r'.status = r.status) :
    Passes new (some r) (some r')
  | moved {r r' : Rollout} (plan : SamePlan r r')
      (allowed : r.status.canBecome r'.status = true) : Passes new (some r) (some r')
  | removed {r : Rollout} (deleting : r.status = .deleting) : Passes new (some r) none

/-- How a transaction that makes no rollout may change the rollouts. -/
def Continues (s s' : Store) : Prop :=
  ∀ id, Passes False (s.rollouts.get? id) (s'.rollouts.get? id)

/-- How a transaction may change the rollouts. -/
def Lives (s s' : Store) : Prop :=
  ∀ id, Passes (id = s.nextNumber sequence) (s.rollouts.get? id) (s'.rollouts.get? id)

variable {settings : Settings} {s s' s'' : Store} {r : Rollout} {id : Nat}

theorem Moves.canBecome {old new : RolloutStatus} (moves : Moves old new) :
    old.canBecome new = true := by
  cases moves with
  | pause => rfl
  | resume => rfl
  | stop allowed =>
    -- A rollout is stopped or deleted out of a few statuses, each of which allows it.
    simp only [stoppable, List.mem_cons, List.not_mem_nil, or_false] at allowed
    rcases allowed with rfl | rfl | rfl <;> rfl
  | delete allowed =>
    simp only [deletable, List.mem_cons, List.not_mem_nil, or_false] at allowed
    rcases allowed with rfl | rfl | rfl | rfl | rfl <;> rfl

theorem Halts.canBecome {old new : RolloutStatus} (halts : Halts old new) :
    old.canBecome new = true := by
  obtain ⟨rfl, rfl | rfl | rfl⟩ := halts <;> rfl

theorem Passes.refl (new : Prop) (stored : Option Rollout) : Passes new stored stored := by
  cases stored with
  | none => exact .absent
  | some r => exact .kept rfl rfl

theorem Passes.mono {new new' : Prop} {before after : Option Rollout}
    (passes : Passes new before after) (weaker : new → new') : Passes new' before after := by
  cases passes with
  | absent => exact .absent
  | created here ready => exact .created (weaker here) ready
  | kept plan same => exact .kept plan same
  | moved plan allowed => exact .moved plan allowed
  | removed deleting => exact .removed deleting

/-- What is found as it was has not moved. -/
theorem Continues.of_eq (same : s'.rollouts = s.rollouts) : Continues s s' := by
  intro id
  rw [same]
  exact .refl _ _

/-- What leaves the rollouts alone changes nothing about how they have moved. -/
theorem Continues.unchanged (continues : Continues s s') (same : s''.rollouts = s'.rollouts) :
    Continues s s'' := by
  intro id
  rw [same]
  exact continues id

/-- One stored rollout may move. -/
theorem Continues.putRollout {status : RolloutStatus} (stored : s.rollouts.get? r.id = some r)
    (allowed : r.status.canBecome status = true) :
    Continues s (s.putRollout { r with status := status }) := by
  intro id
  have found : (s.putRollout { r with status := status }).rollouts.get? id =
      if id = r.id then some { r with status := status } else s.rollouts.get? id :=
    Table.get?_insert s.rollouts r.id id _
  rw [found]
  split
  -- Nothing but the status of the one rollout changes.
  · rename_i here
    rw [here, stored]
    exact .moved rfl allowed
  · exact .refl _ _

/-- A rollout that is marked may be removed. -/
theorem Continues.removeRollout (stored : s.rollouts.get? r.id = some r)
    (deleting : r.status = .deleting) : Continues s (s.removeRollout r.id).2 := by
  intro id
  -- Only a rollout with the mark goes, and all others stay as they are.
  rw [rollout_removeRollout]
  split
  · rename_i here
    rw [here, stored]
    exact .removed deleting
  · exact .refl _ _

/-- What is found later was there before, with the same plan. -/
theorem Continues.origin (continues : Continues s s') (found : s'.rollouts.get? id = some r) :
    ∃ before, s.rollouts.get? id = some before ∧ SamePlan before r := by
  have passes := continues id
  rw [found] at passes
  generalize s.rollouts.get? id = stored at passes
  -- Something was stored before, since nothing is new.
  cases passes with
  | created new ready => exact new.elim
  | kept plan same => exact ⟨_, rfl, plan⟩
  | moved plan allowed => exact ⟨_, rfl, plan⟩

/-- Where no rollout is new, rollouts move as they can move. -/
theorem Continues.lives (continues : Continues s s') : Lives s s' := by
  intro id
  exact (continues id).mono False.elim

/-- The start of a rollout moves it alone. -/
theorem Start.continues (start : Start id s s') : Continues s s' := by
  cases start with | started r stored own ready =>
  have move : Continues s (s.putRollout { r with status := .running }) :=
    .putRollout (by rw [own]; exact stored) (by rw [ready]; rfl)
  exact move.unchanged (by rw [scheduleGroups_frame])

/-- The failure of a rollout moves it alone. -/
theorem Failure.continues (failure : Failure id s s') : Continues s s' := by
  cases failure with | failed r stored own running =>
  exact .putRollout (by rw [own]; exact stored) (by rw [running]; rfl)

/-- An evaluation may halt its rollout. -/
theorem Conducts.continues (conducts : Conducts id s s') (known : s.rollouts.get? id = some r) :
    Continues s s' := by
  intro other
  -- The rollout itself is kept or halts, and no other one is touched.
  by_cases here : other = id
  · obtain ⟨status, check, moved, allowed⟩ := conducts.moved known
    rw [here, known, moved]
    rcases allowed with same | halts
    · exact .kept rfl same
    · exact .moved rfl halts.canBecome
  · rw [conducts.others here]
    exact .refl _ _

/-- A planted rollout is ready, and no other one moves. -/
theorem Placed.lives_plant (placed : Placed s) (tenant : String) (q : Request)
    (members : List (List String)) (total : Nat) (now : Instant) :
    Lives s (s.plant tenant q members total now) := by
  intro id
  rw [Store.rollout_plant]
  split
  -- Nothing is stored under the number that the new rollout takes.
  · rename_i here
    rw [here, placed.next_absent]
    exact .created rfl rfl
  · exact .refl _ _

/-- No step takes a number back that has been drawn. -/
theorem Step.next (step : Step s s') (drawn : String) :
    s.nextNumber drawn ≤ s'.nextNumber drawn := by
  -- Only planning draws a number from the sequence of rollouts.
  cases step with
  | created tenant q members total now =>
    rw [Store.nextNumber_plant]
    omega
  | removed r => exact Nat.le_of_eq (nextNumber_removeRollout s r.id drawn).symm
  | moved => exact Nat.le_refl _
  | completed => exact Nat.le_refl _
  | examined => exact Nat.le_refl _
  | settled => exact Nat.le_refl _
  | begun => exact Nat.le_refl _

theorem Start.next (start : Start id s s') (drawn : String) :
    s.nextNumber drawn ≤ s'.nextNumber drawn := by
  cases start with | started r =>
  rw [scheduleGroups_frame]
  exact Nat.le_refl _

theorem Failure.next (failure : Failure id s s') (drawn : String) :
    s.nextNumber drawn ≤ s'.nextNumber drawn := by
  cases failure with | failed r =>
  exact Nat.le_refl _

/-- Nothing is stored at the start. -/
theorem readable_empty : Readable .empty := by
  intro id g found
  simp [Store.empty] at found

/-- Groups that have only gone on can be read as before. -/
theorem Readable.ages (readable : Readable s) (ages : ∀ id, Ages id s s') : Readable s' := by
  intro id g found
  obtain ⟨f, before, plan, -⟩ := (ages id).before found
  have legible := readable before
  rw [plan]
  exact ⟨legible.success, legible.failure⟩

/-- The groups of a valid request can be read. -/
theorem Readable.plant (readable : Readable s) (placed : Placed s) {q : Request}
    (valid : q.validate = .ok ()) (tenant : String) (members : List (List String)) (total : Nat)
    (now : Instant) : Readable (s.plant tenant q members total now) := by
  intro id g found
  rcases placed.plant_group found with ⟨old, -⟩ | ⟨i, -, -, same⟩
  · exact readable old
  · rw [same]
    exact groupOf_legible valid _ _ _ _ _

end Rollouts

namespace Service

open Rollouts (Agrees Concluded Continues Lives Passes Readable)

variable {settings : Settings} {started : Nat → Prop} {h : History} {c : Call} {s' : Store}

/-- Every deed moves rollouts as they can move, or it plants one for who has asked for it. -/
theorem Deed.continues_or_plants (deed : Deed settings h c s')
    (coherent : Coherent started h.present) :
    Continues h.present s' ∨ ∃ tenant q since members total,
      c.operation = .createRollout tenant q since ∧
        s' = h.present.plant tenant q members total c.now := by
  cases deed with
  -- Planning is the one way in which a rollout comes into being.
  | planned tenant q since members total own valid same =>
    exact Or.inr ⟨tenant, q, since, members, total, own, same⟩
  | acted steps inherits => exact Or.inl (.of_eq steps.frame.rollouts)
  | resumed cancel subject own resumption => exact Or.inl (.of_eq resumption.frame.rollouts)
  | started id start => exact Or.inl start.continues
  | moved r status stored moves requests =>
    have move : Continues h.present (h.present.putRollout { r with status := status }) :=
      .putRollout stored moves.canBecome
    -- The requests that come after the move leave all rollouts alone.
    have steps : Deployments.Steps settings _ s' := requests.steps
    exact Or.inl (move.unchanged steps.frame.rollouts)
  | evaluated r stored running evaluation =>
    exact Or.inl ((evaluation.conducts coherent).continues stored)
  | failed id since expression fault fails failure => exact Or.inl failure.continues
  | removed r stored deleting same =>
    rw [same]
    exact Or.inl (.removeRollout stored deleting)

/-- Every deed moves rollouts as they can move. -/
theorem Deed.lives (deed : Deed settings h c s') (coherent : Coherent started h.present) :
    Lives h.present s' := by
  rcases deed.continues_or_plants coherent with
    continues | ⟨tenant, q, since, members, total, -, same⟩
  · exact continues.lives
  · rw [same]
    exact coherent.placed.lives_plant tenant q members total c.now

/-- Every deed leaves all conditions to be read. -/
theorem Deed.readable (deed : Deed settings h c s') (coherent : Coherent started h.present)
    (readable : Readable h.present) : Readable s' := by
  -- Only a new rollout brings new conditions, and those have been checked.
  rcases deed.ages_or_plants coherent with ages | ⟨tenant, q, members, total, valid, same⟩
  · exact readable.ages ages
  · rw [same]
    exact readable.plant coherent.placed valid tenant members total c.now

/-- Runs of steps leave rollouts and their groups in agreement. -/
theorem Steps.concluded {s : Store} (steps : Steps settings s s') (coherent : Coherent started s)
    (concluded : Concluded s) : Concluded s' := by
  induction steps with
  -- Steps of deployments touch neither rollouts nor groups.
  | refl => exact concluded
  | tail before step ih =>
    have between : Coherent started _ := Steps.coherent before coherent
    cases step with
    | deployment step => exact ih.unchanged step.frame.rollouts step.frame.groups
    | rollout step => exact step.concluded between.placed ih

/-- Every deed leaves rollouts and their groups in agreement, if all conditions can be read. -/
theorem Deed.concluded (deed : Deed settings h c s') (coherent : Coherent started h.present)
    (reads : ∀ {id since : Nat} {now : Instant} {expression : String}
      {fault : Rollouts.ConditionFault}, Rollouts.evaluate settings id now (h.ago since) ≠
        .error (.invalidCondition expression fault))
    (concluded : Concluded h.present) : Concluded s' := by
  cases deed with
  | acted steps inherits => exact concluded.unchanged steps.frame.rollouts steps.frame.groups
  | resumed cancel subject own resumption =>
    exact concluded.unchanged resumption.frame.rollouts resumption.frame.groups
  | planned tenant q since members total own valid same =>
    rw [same]
    exact concluded.plant coherent.placed tenant q members total c.now
  | started id start => exact start.concluded coherent.placed concluded
  | moved r status stored moves requests =>
    have step : Rollouts.Step _ _ := .moved _ r status stored moves
    have steps : Deployments.Steps settings _ s' := requests.steps
    have between := step.concluded coherent.placed concluded
    exact between.unchanged steps.frame.rollouts steps.frame.groups
  | evaluated r stored running evaluation =>
    exact (evaluation.steps coherent).concluded coherent concluded
  -- Such a failure would end the rollout whatever its groups do, but it does not occur.
  | failed id since expression fault fails failure => exact absurd fails reads
  | removed r stored deleting same =>
    rw [same]
    exact concluded.removeRollout coherent.placed r.id

/-- The states that a history knows are those that its run has been through. -/
theorem history_states (settings : Settings) (calls : List Call) {s : Store}
    (member : s ∈ (history settings calls).present :: (history settings calls).past) :
    ∃ before, before <+: calls ∧ s = (history settings before).present := by
  induction calls using List.reverseRecOn with
  | nil =>
    rw [history_nil, List.mem_singleton] at member
    exact ⟨[], List.prefix_rfl, member⟩
  -- One more call adds the state after it, and keeps all states before it.
  | append_singleton calls c ih =>
    rcases List.mem_cons.mp member with same | earlier
    · exact ⟨calls ++ [c], List.prefix_rfl, same⟩
    · rw [history_concat] at earlier
      obtain ⟨before, initial, same⟩ := ih earlier
      exact ⟨before, initial.trans (List.prefix_append calls [c]), same⟩

/-- The state so many transactions ago is one that the history knows. -/
theorem History.ago_mem (h : History) (since : Nat) : h.ago since ∈ h.present :: h.past := by
  unfold History.ago
  rw [List.getD_eq_getElem?_getD]
  -- Further back than the start, there is only the present state to look at.
  cases found : (h.present :: h.past)[since]? with
  | none => exact List.mem_cons_self
  | some s => exact List.mem_of_getElem? found

/-- The state so many transactions ago is one that the run has been through. -/
theorem history_ago (settings : Settings) (calls : List Call) (since : Nat) :
    ∃ before, (history settings calls).ago since = (history settings before).present := by
  obtain ⟨before, -, same⟩ := history_states settings calls (History.ago_mem _ since)
  exact ⟨before, same⟩

/-- In every state of every run, all conditions can be read. -/
theorem readable_history (settings : Settings) (calls : List Call) :
    Readable (history settings calls).present :=
  history_holds Rollouts.readable_empty
    (fun calls _ deed => deed.readable (coherent_history settings calls)) calls

/-- No evaluation in a state of a run fails for a condition that cannot be read. -/
theorem evaluate_ne_invalidCondition (settings : Settings) (calls : List Call) {id since : Nat}
    {now : Instant} {expression : String} {fault : Rollouts.ConditionFault} :
    Rollouts.evaluate settings id now ((history settings calls).ago since) ≠
      .error (.invalidCondition expression fault) := by
  intro fails
  -- The evaluation may look at an older state, in which all conditions can be read as well.
  obtain ⟨before, same⟩ := history_ago settings calls since
  rw [same] at fails
  obtain ⟨d, deploys⟩ := Rollouts.evaluate_deploys (readable_history settings before) fails
  cases deploys

/-- In every state of every run, rollouts and their groups agree. -/
theorem concluded_history (settings : Settings) (calls : List Call) :
    Concluded (history settings calls).present :=
  history_holds Rollouts.concluded_empty
    (fun calls _ deed => deed.concluded (coherent_history settings calls)
      (evaluate_ne_invalidCondition settings calls)) calls

/-- Runs of steps take no number of a rollout back that has been drawn. -/
theorem Steps.next {s : Store} (steps : Steps settings s s') :
    s.nextNumber Rollouts.sequence ≤ s'.nextNumber Rollouts.sequence := by
  induction steps with
  | refl => exact Nat.le_refl _
  | tail _ step ih =>
    -- Deployments have a sequence of their own.
    refine Nat.le_trans ih ?_
    cases step with
    | deployment step => exact Nat.le_of_eq (step.frame.next _ (by decide) (by decide)).symm
    | rollout step => exact step.next _

/-- What a call comes to takes no number of a rollout back that has been drawn. -/
theorem Effect.next {s : Store} {operation : Operation}
    (effect : Effect settings operation s s') :
    s.nextNumber Rollouts.sequence ≤ s'.nextNumber Rollouts.sequence := by
  -- A start and a failure draw no number.
  cases effect with
  | steps steps => exact steps.next
  | resumed cancel subject own resumption =>
    exact Nat.le_of_eq (resumption.frame.next _ (by decide) (by decide)).symm
  | started id start => exact start.next _
  | failed id failure => exact failure.next _

/-- In every run, rollouts move as they can move. -/
theorem lives_history (settings : Settings) (calls : List Call) (c : Call) :
    Lives (history settings calls).present (history settings (calls ++ [c])).present := by
  have coherent := coherent_history settings calls
  rw [history_concat]
  exact (c.deed _ coherent).lives coherent

/-- However a run goes on, no number of a rollout is taken back that has been drawn. -/
theorem next_history (settings : Settings) (calls more : List Call) :
    (history settings calls).present.nextNumber Rollouts.sequence ≤
      (history settings (calls ++ more)).present.nextNumber Rollouts.sequence := by
  -- No call takes a number back.
  induction more using List.reverseRecOn with
  | nil => rw [List.append_nil]
  | append_singleton more c ih =>
    have coherent := coherent_history settings (calls ++ more)
    rw [← List.append_assoc, history_concat]
    exact Nat.le_trans ih (c.effect _ coherent).next

/-- A rollout whose number has been drawn and that is gone does not come back. -/
theorem gone_history (settings : Settings) (calls more : List Call) {id : Nat}
    (drawn : id < (history settings calls).present.nextNumber Rollouts.sequence)
    (gone : (history settings calls).present.rollouts.get? id = none) :
    (history settings (calls ++ more)).present.rollouts.get? id = none := by
  induction more using List.reverseRecOn with
  | nil =>
    -- The number stays vacant from call to call.
    rw [List.append_nil]
    exact gone
  | append_singleton more c ih =>
    have lives := lives_history settings (calls ++ more) c id
    rw [ih, List.append_assoc] at lives
    generalize (history settings (calls ++ (more ++ [c]))).present.rollouts.get? id = after at lives
    cases lives with
    | absent => rfl
    -- Only a new number can be taken, and this one has been drawn before.
    | created new ready =>
      have below := next_history settings calls more
      omega

/-- What holds of rollouts in all runs. -/
structure RolloutsConclude (settings : Settings) : Prop where
  lives : ∀ (calls : List Call) (c : Call),
    Lives (history settings calls).present (history settings (calls ++ [c])).present
  /-- A rollout that has been removed is gone for good. -/
  gone : ∀ (calls more further : List Call) {id : Nat} {r : Rollout},
    (history settings calls).present.rollouts.get? id = some r →
    (history settings (calls ++ more)).present.rollouts.get? id = none →
    (history settings (calls ++ more ++ further)).present.rollouts.get? id = none
  agrees : ∀ (calls : List Call) {id : Nat} {r : Rollout},
    (history settings calls).present.rollouts.get? id = some r →
    Agrees (history settings calls).present id r.status

/-- In every run, rollouts move as they can move, and end as their groups have ended. -/
theorem rollouts_conclude (settings : Settings) : RolloutsConclude settings where
  lives := lives_history settings
  gone := by
    -- A rollout that was stored once has drawn its number, so it cannot come back under it.
    intro calls more further id r stored absent
    have drawn := (coherent_history settings calls).placed.drawn stored
    exact gone_history settings (calls ++ more) further
      (Nat.lt_of_lt_of_le drawn (next_history settings calls more)) absent
  agrees := by
    intro calls id r stored
    exact concluded_history settings calls stored

end Service

end DeviceUpdate
