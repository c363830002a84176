import DeviceUpdate.Proofs.Deployment.Step

/-! The index of actions: under which numbers they stand, and which of them targets list. -/

namespace DeviceUpdate.Deployments

/-- Actions stand under their own numbers, and their targets list them. -/
structure Indexed (s : Store) : Prop where
  own : ∀ {id : Nat} {a : Action}, s.actions.get? id = some a → a.id = id
  drawn : ∀ {id : Nat} {a : Action}, s.actions.get? id = some a → id < s.nextNumber sequence
  listed : ∀ {key : String} {id : Nat}, s.targetActions.contains (key, id) = true ↔
    ∃ a, s.actions.get? id = some a ∧ a.targetKey = key

/-- Nothing is stored at the start. -/
theorem indexed_empty : Indexed .empty where
  own found := by simp [Store.empty] at found
  drawn found := by simp [Store.empty] at found
  listed := by simp [Store.empty, Table.contains]

section Listing

variable {s : Store}

/-- Two stored actions of one number are the same. -/
theorem stored_unique {a b : Action} (first : s.actions.get? a.id = some a)
    (second : s.actions.get? b.id = some b) (same : a.id = b.id) : a = b := by
  rw [same, second] at first
  exact (Option.some.inj first).symm

/-- Actions that are found under ascending numbers are stored in that order. -/
theorem filterMap_get?_pairwise (own : ∀ {id a}, s.actions.get? id = some a → a.id = id)
    {ids : List Nat} (ascending : ids.Pairwise (· < ·)) :
    (ids.filterMap s.actions.get?).Pairwise fun a b => a.id < b.id := by
  rw [List.pairwise_filterMap]
  -- What is found under a number carries that number.
  refine ascending.imp ?_
  intro i j before a foundA b foundB
  rw [own foundA, own foundB]
  exact before

/-- The actions that are listed for a target are those that are stored for it. -/
theorem Indexed.mem_actionsOf (indexed : Indexed s) {tenant controller : String} {a : Action} :
    a ∈ s.actionsOf tenant controller ↔
      s.actions.get? a.id = some a ∧ a.targetKey = Target.keyOf tenant controller := by
  simp only [Store.actionsOf, List.mem_filterMap, Store.mem_keysUnder, indexed.listed]
  constructor
  -- The listed action is the one that is stored under the listed number.
  · rintro ⟨id, ⟨b, found, key⟩, stored⟩
    have same : b = a := Option.some.inj (found.symm.trans stored)
    subst same
    rw [indexed.own stored]
    exact ⟨stored, key⟩
  · rintro ⟨stored, key⟩
    exact ⟨a.id, ⟨a, stored, key⟩, stored⟩

/-- The actions that are listed for a target come in the order of their numbers. -/
theorem Indexed.actionsOf_pairwise (indexed : Indexed s) (tenant controller : String) :
    (s.actionsOf tenant controller).Pairwise fun a b => a.id < b.id :=
  filterMap_get?_pairwise indexed.own (Store.keysUnder_pairwise _ _)

/-- The actions that are listed for a group are stored. -/
theorem Indexed.mem_actionsOfGroup (indexed : Indexed s) {group : Nat} {a : Action}
    (member : a ∈ s.actionsOfGroup group) : s.actions.get? a.id = some a := by
  -- The list of a group is read by number, too.
  obtain ⟨id, -, found⟩ := List.mem_filterMap.mp member
  rw [indexed.own found]
  exact found

/-- The actions that are listed for a group come in the order of their numbers. -/
theorem Indexed.actionsOfGroup_pairwise (indexed : Indexed s) (group : Nat) :
    (s.actionsOfGroup group).Pairwise fun a b => a.id < b.id :=
  filterMap_get?_pairwise indexed.own (Store.keysUnder_pairwise _ _)

end Listing

section Index

variable {s : Store}

/-- Nothing is stored under the next number. -/
theorem Indexed.next_absent (indexed : Indexed s) :
    s.actions.get? (s.nextNumber sequence) = none := by
  -- All stored actions have drawn numbers, and the next one is not drawn yet.
  rw [Option.eq_none_iff_forall_ne_some]
  intro a found
  exact Nat.lt_irrefl _ (indexed.drawn found)

/-- Drawing a number keeps the index. -/
theorem Indexed.advance (indexed : Indexed s) (drawn : String) : Indexed (s.advance drawn) where
  own found := indexed.own found
  drawn found := by
    have below := indexed.drawn found
    rw [Store.nextNumber_advance]
    omega
  listed := indexed.listed

/-- Recording an action of a drawn number keeps the index, if the action stays with its target. -/
theorem Indexed.record (indexed : Indexed s) {a : Action} {e : LogEntry}
    (drawn : a.id < s.nextNumber sequence)
    (kept : ∀ b, s.actions.get? a.id = some b → b.targetKey = a.targetKey) :
    Indexed (s.record a e) where
  own := by
    -- Only the row of the action is new, and it stands under its own number.
    intro id b found
    rw [Store.get?_record] at found
    split at found
    · rename_i same
      rw [same, Option.some.inj found]
    · exact indexed.own found
  drawn := by
    intro id b found
    rw [Store.nextNumber_congr (Store.record_sequences s a e)]
    -- The number of the action had been drawn, and no number is given back.
    rw [Store.get?_record] at found
    split at found
    · rename_i same
      rw [same]
      exact drawn
    · exact indexed.drawn found
  listed := by
    intro key id
    rw [Store.listed_record, indexed.listed, Store.get?_record]
    by_cases same : id = a.id
    · -- The recorded action is listed where it was, or is listed for the first time.
      subst same
      simp only [Prod.mk.injEq, and_true, ↓reduceIte, Option.some.injEq, exists_eq_left']
      constructor
      · rintro (here | ⟨b, found, here⟩)
        · exact here.symm
        · rw [← kept b found, here]
      · intro here
        exact Or.inl here.symm
    · simp [same]

/-- Moving a stored action keeps the index. -/
theorem Indexed.moved (indexed : Indexed s) {a : Action} (stored : s.actions.get? a.id = some a)
    (status : Status) (active : Bool) (now : Instant) (e : LogEntry) :
    Indexed (s.record (a.moved status active now) e) := by
  -- A moved action keeps its number and its target.
  refine indexed.record (indexed.drawn stored) ?_
  intro b found
  rw [Action.moved_id, stored] at found
  rw [Option.some.inj found, Action.moved_targetKey]

/-- Recording a new action under the next number keeps the index. -/
theorem Indexed.added (indexed : Indexed s) {a : Action} {e : LogEntry}
    (new : a.id = s.nextNumber sequence) : Indexed ((s.advance sequence).record a e) := by
  -- Once it is drawn, the number belongs to the sequence and to no action yet.
  refine (indexed.advance sequence).record ?_ ?_
  · rw [new, Store.nextNumber_advance]
    simp
  · intro b found
    rw [new, Store.advance_actions, indexed.next_absent] at found
    cases found

/-- Storing a target leaves the index as it is. -/
theorem Indexed.putTarget (indexed : Indexed s) (t : Target) : Indexed (s.putTarget t) :=
  ⟨indexed.own, indexed.drawn, indexed.listed⟩

/-- Storing a rollout leaves the index as it is. -/
theorem Indexed.putRollout (indexed : Indexed s) (r : Rollout) : Indexed (s.putRollout r) :=
  ⟨indexed.own, indexed.drawn, indexed.listed⟩

/-- Storing a group leaves the index as it is. -/
theorem Indexed.putGroup (indexed : Indexed s) (g : RolloutGroup) : Indexed (s.putGroup g) :=
  ⟨indexed.own, indexed.drawn, indexed.listed⟩

theorem Indexed.requestCancel (indexed : Indexed s) {a : Action}
    (stored : s.actions.get? a.id = some a) (now : Instant) :
    Indexed (s.requestCancel a now) := by
  refine ((indexed.advance sequence).moved stored .canceling true now _).record ?_ ?_
  · rw [Store.nextNumber_congr (Store.record_sequences _ _ _), Store.nextNumber_advance]
    simp [Action.cancelling]
  · -- The new action is not the subject, and nothing else stands under its number.
    intro b found
    have other : s.nextNumber sequence ≠ a.id := by
      have below := indexed.drawn stored
      omega
    simp [Action.cancelling, other, indexed.next_absent] at found

theorem Indexed.deploy (indexed : Indexed s) (t : Target) (tenant controller : String)
    (d : Deployment) (rollout : Option Membership) (now : Instant) :
    Indexed (s.deploy t tenant controller d rollout now) :=
  Indexed.putTarget (indexed.added rfl) _

theorem Indexed.close (indexed : Indexed s) {a : Action} (stored : s.actions.get? a.id = some a)
    (set : Nat) (t : Target) (f : Feedback) (now : Instant) : Indexed (s.close a set t f now) :=
  Indexed.putTarget (indexed.moved stored _ _ _ _) _

end Index

section Steps

variable {settings : Settings} {s s' : Store} {cancel subject : Action}

theorem Pending.id_ne (pending : Pending s cancel subject) : cancel.id ≠ subject.id := by
  -- One action cannot both cancel and be a deployment.
  intro same
  have equal := stored_unique pending.cancelStored pending.subjectStored same
  have deploys := pending.deploys
  rw [← equal, Action.isCancel_of_names pending.names] at deploys
  cases deploys

/-- Every step keeps the index. -/
theorem Step.indexed (step : Step settings s s') (indexed : Indexed s) : Indexed s' := by
  cases step with
  | published d =>
    have drawn := indexed.advance "distribution_set"
    exact ⟨drawn.own, drawn.drawn, drawn.listed⟩
  | registered => exact indexed.putTarget _
  | polled => exact indexed.putTarget _
  | described => exact indexed.putTarget _
  | requested subject now stored => exact indexed.requestCancel stored now
  | deployed => exact indexed.deploy _ _ _ _ _ _
  | progressed a f now step stored room going reported =>
    -- The action stays as it is or is moved.
    rcases Action.report_going going reported with same | ⟨-, status, -, moved⟩
    · refine (show Indexed (s.record step.action _) from ?_)
      rw [same]
      refine indexed.record (indexed.drawn stored) ?_
      intro b found
      rw [stored] at found
      rw [Option.some.inj found]
    · rw [moved]
      exact indexed.moved stored _ _ _ _
  | closed a d t f now stored => exact indexed.close stored _ _ _ _
  | superseded cancel a d t f now pending =>
    -- The subject closes first, and the cancellation stands where it stood.
    have closed := indexed.close pending.subjectStored d.distributionSet t f now
    refine closed.moved ?_ _ _ _ _
    rw [Store.get?_close, if_neg pending.id_ne]
    exact pending.cancelStored
  | confirmed cancel subject t f now pending =>
    refine ((indexed.moved pending.cancelStored _ _ _ _).moved ?_ _ _ _ _).putTarget _
    rw [Store.get?_record, Action.moved_id, if_neg (Ne.symm pending.id_ne)]
    exact pending.subjectStored

/-- The refusal of a cancellation keeps the index. -/
theorem Resumption.indexed (resumption : Resumption cancel subject s s') (indexed : Indexed s) :
    Indexed s' := by
  cases resumption with | resumed now pending =>
  refine (indexed.moved pending.cancelStored _ _ _ _).moved ?_ _ _ _ _
  rw [Store.get?_record, Action.moved_id, if_neg (Ne.symm pending.id_ne)]
  exact pending.subjectStored

end Steps

end DeviceUpdate.Deployments
