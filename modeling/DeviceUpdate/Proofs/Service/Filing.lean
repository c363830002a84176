import DeviceUpdate.Proofs.Deployment.Cancellation
import DeviceUpdate.Proofs.Rollout.Step

/-! The lists of actions that are kept for groups: what they lead to belongs to the group. -/

namespace DeviceUpdate

namespace Deployments

/-- An action that belongs to a group. -/
def Names (group : Nat) (a : Action) : Prop :=
  ∃ m, a.rollout = some m ∧ m.group = group

/-- The actions that are listed for a group are stored, and name it. -/
def Filed (s : Store) : Prop :=
  ∀ ⦃group id : Nat⦄, s.groupActions.contains (group, id) = true →
    ∃ a, s.actions.get? id = some a ∧ Names group a

variable {s s' : Store} {a : Action} {e : LogEntry}

/-- Nothing is stored at the start. -/
theorem filed_empty : Filed .empty := by
  intro group id listed
  simp [Store.empty, Table.contains] at listed

/-- The recorded action is listed for its group, and all others as before. -/
theorem contains_record (s : Store) (a : Action) (e : LogEntry) (group id : Nat) :
    (s.record a e).groupActions.contains (group, id) = true ↔
      (id = a.id ∧ Names group a) ∨ s.groupActions.contains (group, id) = true := by
  -- Only an action on behalf of a group is listed at all.
  cases member : a.rollout with
  | none =>
    have same : (s.record a e).groupActions = s.groupActions := by
      simp [Store.record, Store.putAction, Store.append, member]
    simp [same, Names, member]
  | some m =>
    have same : (s.record a e).groupActions = s.groupActions.insert (m.group, a.id) () := by
      simp [Store.record, Store.putAction, Store.append, member]
    rw [same, Table.contains_insert]
    -- The new row is either the one in question or another one.
    simp only [Names, member, Prod.mk.injEq, Option.some.injEq, exists_eq_left']
    constructor
    · rintro (⟨group, id⟩ | before)
      · exact Or.inl ⟨id, group.symm⟩
      · exact Or.inr before
    · rintro (⟨id, group⟩ | before)
      · exact Or.inl ⟨group.symm, id⟩
      · exact Or.inr before

/-- What is read from the list of a group belongs to it. -/
theorem Filed.names (filed : Filed s) {group : Nat} (member : a ∈ s.actionsOfGroup group) :
    Names group a := by
  obtain ⟨id, listed, found⟩ := List.mem_filterMap.mp member
  obtain ⟨b, stored, names⟩ := filed (Store.mem_keysUnder.mp listed)
  rw [Option.some.inj (found.symm.trans stored)]
  exact names

/-- What leaves actions and lists alone leaves them in order. -/
theorem Filed.unchanged (filed : Filed s) (actions : s'.actions = s.actions)
    (listed : s'.groupActions = s.groupActions) : Filed s' := by
  intro group id here
  rw [listed] at here
  rw [actions]
  exact filed here

theorem Filed.putTarget (filed : Filed s) (t : Target) : Filed (s.putTarget t) :=
  filed.unchanged rfl rfl

/-- Recording an action keeps the lists in order, if the action stays with its group. -/
theorem Filed.record (filed : Filed s)
    (kept : ∀ b, s.actions.get? a.id = some b → b.rollout = a.rollout) : Filed (s.record a e) := by
  intro group id here
  rw [Store.get?_record]
  rcases (contains_record s a e group id).mp here with ⟨same, names⟩ | before
  · rw [if_pos same]
    exact ⟨a, rfl, names⟩
  -- What was listed before may be what is recorded now, which is still of the same group.
  · obtain ⟨b, stored, m, member, named⟩ := filed before
    split
    · rename_i same
      rw [same] at stored
      exact ⟨a, rfl, m, (kept b stored).symm.trans member, named⟩
    · exact ⟨b, stored, m, member, named⟩

/-- A stored action may move. -/
theorem Filed.moved (filed : Filed s) (stored : s.actions.get? a.id = some a) {status : Status}
    {active : Bool} {now : Instant} : Filed (s.record (a.moved status active now) e) := by
  refine filed.record fun b here => ?_
  rw [Option.some.inj (here.symm.trans stored)]
  rfl

theorem Filed.requestCancel (filed : Filed s) (indexed : Indexed s)
    (stored : s.actions.get? a.id = some a) (now : Instant) : Filed (s.requestCancel a now) := by
  have drawn : Filed (s.advance sequence) := filed.unchanged rfl rfl
  refine (drawn.moved stored).record fun b here => ?_
  -- Nothing is stored under the number of the new action.
  have other : s.nextNumber sequence ≠ a.id := by
    have below := indexed.drawn stored
    omega
  simp [Action.cancelling, other, indexed.next_absent] at here

theorem Filed.close (filed : Filed s) (stored : s.actions.get? a.id = some a) (set : Nat)
    (t : Target) (f : Feedback) (now : Instant) : Filed (s.close a set t f now) :=
  Filed.putTarget (filed.moved stored) _

/-- Every step keeps the lists in order. -/
theorem Step.filed {settings : Settings} (step : Step settings s s') (indexed : Indexed s)
    (filed : Filed s) : Filed s' := by
  cases step with
  | published | registered | polled | described => exact filed.unchanged rfl rfl
  | requested subject now stored => exact filed.requestCancel indexed stored now
  | deployed tenant controller t d rollout now =>
    have drawn : Filed (s.advance sequence) := filed.unchanged rfl rfl
    refine Filed.putTarget (drawn.record fun b here => ?_) _
    -- Nothing is stored under the number of the new deployment.
    simp [newAction, indexed.next_absent] at here
  | progressed a f now step stored room going reported =>
    rcases Action.report_moved reported with stays | ⟨status, active, moved⟩
    · rw [stays]
      refine filed.record fun b here => ?_
      rw [Option.some.inj (here.symm.trans stored)]
    · rw [moved]
      exact filed.moved stored
  | closed a d t f now stored => exact filed.close stored _ _ _ _
  | superseded cancel a d t f now pending =>
    refine (filed.close pending.subjectStored d.distributionSet t f now).moved ?_
    -- The close of the deployment has left its cancellation where it was.
    rw [Store.get?_close, if_neg pending.id_ne]
    exact pending.cancelStored
  | confirmed cancel subject t f now pending =>
    refine Filed.putTarget ((filed.moved pending.cancelStored).moved ?_) _
    -- The cancellation moves first, which leaves its subject where it was.
    rw [Store.get?_record, Action.moved_id, if_neg (Ne.symm pending.id_ne)]
    exact pending.subjectStored

/-- Requests for cancellations keep the lists in order. -/
theorem Requests.filed {test : Action → Prop} {now : Instant} (requests : Requests test now s s')
    (indexed : Indexed s) (filed : Filed s) : Filed s' := by
  induction requests with
  | refl => exact filed
  | tail before request ih =>
    obtain ⟨subject, stored, -, -, same⟩ := request
    rw [same]
    exact ih.requestCancel (Requests.indexed before indexed) stored now

/-- The refusal of a cancellation keeps the lists in order. -/
theorem Resumption.filed {cancel subject : Action} (resumption : Resumption cancel subject s s')
    (filed : Filed s) : Filed s' := by
  cases resumption with | resumed now pending =>
  refine (filed.moved pending.cancelStored).moved ?_
  rw [Store.get?_record, Action.moved_id, if_neg (Ne.symm pending.id_ne)]
  exact pending.subjectStored

end Deployments

namespace Rollouts

open Deployments (Filed)

variable {s s' : Store} {id : Nat}

/-- What is listed for a group once groups have been removed was listed before. -/
theorem listed_removeGroups {rollout : Nat} {groups : List RolloutGroup} {place : Nat × Nat}
    (listed : (groups.foldl (Store.removeGroup rollout) s).groupActions.contains place = true) :
    s.groupActions.contains place = true := by
  induction groups generalizing s with
  | nil => exact listed
  | cons g rest ih =>
    have before := ih listed
    rw [Table.contains_iff] at before ⊢
    obtain ⟨u, found⟩ := before
    -- The removal of a group keeps those places that it does not take out.
    rw [show (s.removeGroup rollout g).groupActions.get? place = _ from
      Table.get?_filter s.groupActions _ place] at found
    exact ⟨u, (Option.filter_eq_some_iff.mp found).1⟩

/-- Every step of the rollouts keeps the lists of groups in order. -/
theorem Step.filed (step : Step s s') (filed : Filed s) : Filed s' := by
  -- The actions are the same as before, and the lists grow no longer.
  cases step with
  | created tenant q members total now =>
    refine filed.unchanged ?_ ?_
    all_goals
      simp only [Store.plant, Store.putRollout]
      rw [Store.layGroups_frame]
      rfl
  | moved | completed | examined | settled | begun => exact filed.unchanged rfl rfl
  | removed r =>
    -- The actions stay when the rollout goes, and lists only get shorter.
    intro group id listed
    have same : (s.removeRollout r.id).2.actions = s.actions := by
      simp only [Store.removeRollout]
      rw [Store.foldl_removeGroup_frame]
    rw [same]
    have before := listed_removeGroups listed
    exact filed before

/-- The start of a rollout keeps the lists of groups in order. -/
theorem Start.filed (start : Start id s s') (filed : Filed s) : Filed s' := by
  cases start with | started r =>
  rw [scheduleGroups_frame]
  exact filed.unchanged rfl rfl

/-- The failure of a rollout keeps the lists of groups in order. -/
theorem Failure.filed (failure : Failure id s s') (filed : Filed s) : Filed s' := by
  cases failure with | failed r =>
  exact filed.unchanged rfl rfl

end Rollouts

end DeviceUpdate
