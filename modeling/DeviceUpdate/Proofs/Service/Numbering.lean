import DeviceUpdate.Proofs.Service.Persistence
import DeviceUpdate.Proofs.Service.Replacement

/-! The numbers of actions, which are given in the order of creation and without gaps, and the lists
of actions of targets, which follow them. -/

namespace DeviceUpdate

/-- Recording an action stores nothing under any number but its own. -/
theorem Store.contains_record (s : Store) (a : Action) (e : LogEntry) (id : Nat) :
    (s.record a e).actions.contains id = true ↔ id = a.id ∨ s.actions.contains id = true :=
  Table.contains_insert s.actions a.id id a

namespace Deployments

/-- Actions are added under so many numbers, which are drawn one after another. -/
structure Adds (ids : List Nat) (s s' : Store) : Prop where
  keys : s'.actions.keys = s.actions.keys ++ ids
  drawn : ids = List.range' (s.nextNumber sequence) ids.length
  next : s'.nextNumber sequence = s.nextNumber sequence + ids.length

variable {settings : Settings} {s s' s'' : Store} {ids more : List Nat} {a cancel subject : Action}

section Additions

theorem Adds.refl (s : Store) : Adds [] s s :=
  ⟨(List.append_nil _).symm, rfl, rfl⟩

/-- What is added later stands behind what is added first. -/
theorem Adds.trans (first : Adds ids s s') (second : Adds more s' s'') :
    Adds (ids ++ more) s s'' where
  keys := by rw [second.keys, first.keys, List.append_assoc]
  drawn := by
    have rest := second.drawn
    rw [first.next] at rest
    rw [List.length_append, ← List.range'_append_1, ← first.drawn, ← rest]
  next := by rw [second.next, first.next, List.length_append, Nat.add_assoc]

/-- What changes neither the stored numbers nor the next one adds nothing. -/
theorem Adds.aside (adds : Adds ids s s')
    (same : ∀ id, s''.actions.contains id = true ↔ s'.actions.contains id = true)
    (next : s''.nextNumber sequence = s'.nextNumber sequence) : Adds ids s s'' := by
  -- The keys are determined by their order.
  have keys : s''.actions.keys = s'.actions.keys :=
    (Table.keys_pairwise _).eq_of_mem_iff (Table.keys_pairwise _) fun id => by
      rw [Table.mem_keys, Table.mem_keys, same]
  exact ⟨keys.trans adds.keys, adds.drawn, next.trans adds.next⟩

/-- What is stored under the next number stands behind all that is stored. -/
theorem Adds.one (indexed : Indexed s)
    (added : ∀ id, s'.actions.contains id = true ↔
      id = s.nextNumber sequence ∨ s.actions.contains id = true)
    (next : s'.nextNumber sequence = s.nextNumber sequence + 1) :
    Adds [s.nextNumber sequence] s s' where
  keys := by
    -- All stored actions have drawn numbers, so the next one comes last.
    have ascending : (s.actions.keys ++ [s.nextNumber sequence]).Pairwise (· < ·) := by
      refine List.pairwise_append.mpr
        ⟨Table.keys_pairwise _, List.pairwise_singleton _ _, fun id member last same => ?_⟩
      obtain ⟨a, stored⟩ := Table.contains_iff.mp (Table.mem_keys.mp member)
      rw [List.mem_singleton.mp same]
      exact indexed.drawn stored
    refine (Table.keys_pairwise _).eq_of_mem_iff ascending fun id => ?_
    rw [Table.mem_keys, added, List.mem_append, List.mem_singleton, Table.mem_keys, or_comm]
  drawn := rfl
  next := next

/-- Recording an action that is stored adds nothing. -/
theorem Adds.record (adds : Adds ids s s') (stored : s'.actions.contains a.id = true)
    (e : LogEntry) : Adds ids s (s'.record a e) := by
  refine adds.aside (fun id => ?_) rfl
  rw [Store.contains_record]
  exact or_iff_right_of_imp fun same => same ▸ stored

/-- Recording the move of an action that is stored adds nothing. -/
theorem Adds.moved (adds : Adds ids s s') (stored : s'.actions.contains a.id = true)
    (status : Status) (active : Bool) (now : Instant) (e : LogEntry) :
    Adds ids s (s'.record (a.moved status active now) e) :=
  adds.record (a := a.moved status active now) stored e

/-- Storing a target adds nothing. -/
theorem Adds.putTarget (adds : Adds ids s s') (t : Target) : Adds ids s (s'.putTarget t) :=
  adds.aside (fun _ => Iff.rfl) rfl

end Additions

section Steps

theorem contains_of_stored (stored : s.actions.get? a.id = some a) :
    s.actions.contains a.id = true :=
  Table.contains_iff.mpr ⟨a, stored⟩

/-- What is stored stays stored. -/
theorem Adds.still (adds : Adds ids s s') (stored : s.actions.get? a.id = some a) :
    s'.actions.contains a.id = true := by
  rw [← Table.mem_keys, adds.keys]
  exact List.mem_append_left ids (Table.mem_keys.mpr (contains_of_stored stored))

/-- A closing report adds nothing. -/
theorem Adds.close (stored : s.actions.get? a.id = some a) (set : Nat) (t : Target) (f : Feedback)
    (now : Instant) : Adds [] s (s.close a set t f now) :=
  ((Adds.refl s).moved (contains_of_stored stored) f.outcome.status false now _).putTarget _

/-- A step adds one action at most. -/
theorem Step.adds (step : Step settings s s') (indexed : Indexed s) :
    Adds [] s s' ∨ Adds [s.nextNumber sequence] s s' := by
  cases step with
  | published d =>
    -- A step adds the one action whose number it draws, or none.
    exact .inl ((Adds.refl s).aside (fun _ => Iff.rfl)
      (Store.nextNumber_advance s "distribution_set" sequence))
  | registered => exact .inl ((Adds.refl s).putTarget _)
  | polled => exact .inl ((Adds.refl s).putTarget _)
  | described => exact .inl ((Adds.refl s).putTarget _)
  | requested subject now stored =>
    refine .inr (.one indexed (fun id => ?_) (Store.nextNumber_requestCancel s subject now))
    -- The subject is stored already; what cancels it is new.
    rw [Store.requestCancel, Store.contains_record, Store.contains_record, Action.moved_id]
    exact or_congr_right (or_iff_right_of_imp fun same => same ▸ contains_of_stored stored)
  | deployed tenant controller t d rollout now =>
    refine .inr (.one indexed (fun id => ?_) (Store.nextNumber_advance s sequence sequence))
    rw [Store.deploy, Store.putTarget_actions, Store.contains_record]
    rfl
  | progressed a f now step stored room going reported =>
    refine .inl ((Adds.refl s).record ?_ _)
    rw [Action.report_id reported]
    exact contains_of_stored stored
  | closed a d t f now stored => exact .inl (.close stored d.distributionSet t f now)
  | superseded cancel a d t f now pending =>
    have closed := Adds.close pending.subjectStored d.distributionSet t f now
    exact .inl (closed.moved (closed.still pending.cancelStored) .finished false now _)
  | confirmed cancel subject t f now pending =>
    have canceled := (Adds.refl s).moved (contains_of_stored pending.cancelStored) .canceled false
      now (f.entry cancel.id .canceled now)
    exact .inl ((canceled.moved (canceled.still pending.subjectStored) .canceled false now
      _).putTarget _)

/-- The refusal of a cancellation adds nothing. -/
theorem Resumption.adds (resumption : Resumption cancel subject s s') : Adds [] s s' := by
  cases resumption with | resumed now pending =>
  have rejected := (Adds.refl s).moved (contains_of_stored pending.cancelStored) .cancelRejected
    false now ((cancel.moved .cancelRejected false now).remark now
      "cancellation rejected by administrator")
  exact rejected.moved (rejected.still pending.subjectStored) .running true now _

end Steps

end Deployments

namespace Service

open Deployments (Adds Indexed sequence)

/-- One change of the service. -/
inductive Change (settings : Settings) (s s' : Store) : Prop
  | step (step : Step settings s s')
  | resumed (cancel subject : Action) (resumption : Deployments.Resumption cancel subject s s')
  | started (id : Nat) (start : Rollouts.Start id s s')
  | failed (id : Nat) (failure : Rollouts.Failure id s s')

/-- Any number of changes of the service. -/
def Changes (settings : Settings) : Store → Store → Prop :=
  Relation.ReflTransGen (Change settings)

/-- The numbers of the actions that are created on the way from one state to another, change by
change, in the order of their creation. -/
inductive Creates (settings : Settings) (s : Store) : List Nat → Store → Prop
  | start : Creates settings s [] s
  | aside {ids : List Nat} {s' s'' : Store} (before : Creates settings s ids s')
      (change : Change settings s' s'')
      (same : ∀ id, s''.actions.contains id = true ↔ s'.actions.contains id = true) :
      Creates settings s ids s''
  | created {ids : List Nat} {s' s'' : Store} {new : Nat} (before : Creates settings s ids s')
      (change : Change settings s' s'') (absent : s'.actions.get? new = none)
      (stored : ∀ id, s''.actions.contains id = true ↔
        id = new ∨ s'.actions.contains id = true) :
      Creates settings s (ids ++ [new]) s''

variable {settings : Settings} {s s' : Store}

section Changes

/-- What leaves actions as they are adds nothing. -/
theorem adds_of_frame (frame : Rollouts.Frame s s') : Adds [] s s' :=
  (Adds.refl s).aside (fun id => by rw [frame.actions]) (frame.next _ (by decide) (by decide))

/-- A change adds one action at most. -/
theorem Change.adds (change : Change settings s s') (indexed : Indexed s) :
    Adds [] s s' ∨ Adds [s.nextNumber sequence] s s' := by
  -- Only deployments draw numbers for actions.
  cases change with
  | step step =>
    cases step with
    | deployment step => exact step.adds indexed
    | rollout step => exact .inl (adds_of_frame step.frame)
  | resumed cancel subject resumption => exact .inl resumption.adds
  | started id start => exact .inl (adds_of_frame start.frame)
  | failed id failure => exact .inl (adds_of_frame failure.frame)

/-- Every change keeps the index. -/
theorem Change.indexed (change : Change settings s s') (indexed : Indexed s) : Indexed s' := by
  cases change with
  -- Each kind of change keeps the index by a lemma of its own.
  | step step =>
    cases step with
    | deployment step => exact step.indexed indexed
    | rollout step => exact indexed_of_frame step.frame indexed
  | resumed cancel subject resumption => exact resumption.indexed indexed
  | started id start => exact indexed_of_frame start.frame indexed
  | failed id failure => exact indexed_of_frame failure.frame indexed

/-- On the way from one state to another, numbers are given in the order of creation. -/
theorem Changes.creates (changes : Changes settings s s') (indexed : Indexed s) :
    Indexed s' ∧ ∃ ids, Creates settings s ids s' ∧ Adds ids s s' := by
  -- The induction is on the changes, and the index is what each of them starts from.
  induction changes with
  | refl => exact ⟨indexed, [], .start, .refl s⟩
  | tail _ change ih =>
    obtain ⟨between, ids, creates, adds⟩ := ih
    refine ⟨change.indexed between, ?_⟩
    rcases change.adds between with none | one
    -- What is added comes last, as its number is the highest.
    · refine ⟨ids, creates.aside change fun id => ?_, ?_⟩
      · rw [← Table.mem_keys, ← Table.mem_keys, none.keys, List.append_nil]
      · simpa using adds.trans none
    · refine ⟨_, creates.created change between.next_absent fun id => ?_, adds.trans one⟩
      rw [← Table.mem_keys, ← Table.mem_keys, one.keys, List.mem_append, List.mem_singleton,
        or_comm]

end Changes

section Runs

/-- Every call comes to changes of the service. -/
theorem Effect.changes {operation : Operation} (effect : Effect settings operation s s') :
    Changes settings s s' := by
  cases effect with
  | steps steps => exact Relation.ReflTransGen.mono (fun _ _ step => Change.step step) _ _ steps
  | resumed cancel subject own resumption => exact .single (.resumed cancel subject resumption)
  | started id start => exact .single (.started id start)
  | failed id failure => exact .single (.failed id failure)

/-- Further calls come to further changes. -/
theorem changes_history (settings : Settings) (calls more : List Call) :
    Changes settings (history settings calls).present
      (history settings (calls ++ more)).present := by
  induction more using List.reverseRecOn with
  -- Nothing has been changed by no further call.
  | nil =>
    rw [List.append_nil]
    exact .refl
  | append_singleton more c ih =>
    have coherent := coherent_history settings (calls ++ more)
    rw [← List.append_assoc, history_concat]
    exact ih.trans (c.effect _ coherent).changes

end Runs

section Lists

/-- The numbers of all stored actions, and the lists of actions of targets. -/
structure Enumerated (s : Store) : Prop where
  own : ∀ {id : Nat} {a : Action}, s.actions.get? id = some a → a.id = id
  /-- Numbers are given from one on without gaps: what a failed call has drawn is given again. -/
  dense : s.actions.values.map (·.id) = List.range' 1 (s.nextNumber sequence - 1)
  distinct : (s.actions.values.map (·.id)).Nodup
  /-- A target lists the stored actions with its key. -/
  listed : ∀ tenant controller, s.actionsOf tenant controller =
    s.actions.values.filter fun a => a.targetKey == Target.keyOf tenant controller
  ascending : ∀ tenant controller,
    (s.actionsOf tenant controller).Pairwise fun a b => a.id < b.id
  /-- What is listed is stored. -/
  anchored : ∀ {key : String} {id : Nat}, s.targetActions.contains (key, id) = true →
    ∃ a, s.actions.get? id = some a ∧ a.targetKey = key

/-- Stored actions stand in the order of their numbers. -/
theorem values_ids (indexed : Indexed s) : s.actions.values.map (·.id) = s.actions.keys := by
  rw [Table.values, Table.keys, List.map_map]
  refine List.map_congr_left fun entry member => ?_
  exact indexed.own (Table.mem_entries_iff.mp member)

/-- An action is a stored value exactly if it is found under its own number. -/
theorem mem_values_iff (indexed : Indexed s) {a : Action} :
    a ∈ s.actions.values ↔ s.actions.get? a.id = some a := by
  rw [Table.values, List.mem_map]
  constructor
  · rintro ⟨⟨id, a⟩, member, rfl⟩
    have found := Table.mem_entries_iff.mp member
    exact (indexed.own found).symm ▸ found
  · exact fun found => ⟨(a.id, a), Table.mem_entries_iff.mpr found, rfl⟩

/-- A target lists the stored actions with its key, in the order in which they are stored. -/
theorem actionsOf_eq_filter (indexed : Indexed s) (tenant controller : String) :
    s.actionsOf tenant controller =
      s.actions.values.filter fun a => a.targetKey == Target.keyOf tenant controller := by
  have stored : s.actions.values.Pairwise fun a b => a.id < b.id := by
    rw [← List.pairwise_map, values_ids indexed]
    exact Table.keys_pairwise _
  have asymm : Std.Asymm fun a b : Action => a.id < b.id := ⟨fun _ _ => Nat.lt_asymm⟩
  -- Both lists ascend, so they are the same if their members are.
  refine (indexed.actionsOf_pairwise tenant controller).eq_of_mem_iff (stored.filter _) fun a => ?_
  rw [indexed.mem_actionsOf, List.mem_filter, mem_values_iff indexed, beq_iff_eq]

/-- What is added to nothing are the first numbers. -/
theorem enumerated_of_adds {ids : List Nat} (indexed : Indexed s) (adds : Adds ids .empty s) :
    Enumerated s := by
  -- From the first number on, every number that was drawn has been used.
  have dense : s.actions.values.map (·.id) = List.range' 1 (s.nextNumber sequence - 1) := by
    have first : Store.empty.nextNumber sequence = 1 := rfl
    have count := adds.next
    have drawn := adds.drawn
    rw [first] at count drawn
    rw [values_ids indexed, adds.keys, count, Nat.add_sub_cancel_left, ← drawn]
    rfl
  exact
    { own := indexed.own
      dense := dense
      distinct := dense ▸ List.nodup_range'
      listed := actionsOf_eq_filter indexed
      ascending := indexed.actionsOf_pairwise
      anchored := indexed.listed.mp }

/-- What has become of the actions of an earlier state, and which actions have come after it. -/
structure Succession (settings : Settings) (s s' : Store) : Prop where
  /-- A number stays that of the same action, which moves at most. -/
  kept : ∀ {id : Nat} {a : Action}, s.actions.get? id = some a →
    ∃ status active now, s'.actions.get? id = some (a.moved status active now)
  /-- What is created later has a larger number. -/
  later : ∀ {a b : Action}, s.actions.get? a.id = some a → s.actions.get? b.id = none →
    s'.actions.get? b.id = some b → a.id < b.id
  /-- The numbers of new actions follow those of the old ones in the order of creation. -/
  created : ∃ ids, Creates settings s ids s' ∧ s'.actions.keys = s.actions.keys ++ ids ∧
    ids = List.range' (s.nextNumber sequence) ids.length

/-- Numbers that are drawn later are larger than those of all actions that are stored. -/
theorem lt_of_adds {ids : List Nat} (indexed : Indexed s) (adds : Adds ids s s') {a b : Action}
    (earlier : s.actions.get? a.id = some a) (absent : s.actions.get? b.id = none)
    (stored : s'.actions.get? b.id = some b) : a.id < b.id := by
  have member := Table.mem_keys.mpr (Deployments.contains_of_stored stored)
  rw [adds.keys, List.mem_append] at member
  rcases member with old | new
  -- It is not an old one, so it was drawn after those that are stored.
  · obtain ⟨other, found⟩ := Table.contains_iff.mp (Table.mem_keys.mp old)
    rw [absent] at found
    cases found
  · rw [adds.drawn, List.mem_range'_1] at new
    have drawn := indexed.drawn earlier
    omega

/-- In every run, actions are numbered in the order of their creation, and targets list their own
actions in this order. -/
theorem actions_numbered (settings : Settings) (calls more : List Call) :
    Enumerated (history settings (calls ++ more)).present ∧
      Succession settings (history settings calls).present
        (history settings (calls ++ more)).present := by
  have indexed := (coherent_history settings calls).indexed
  constructor
  · have changes := changes_history settings [] (calls ++ more)
    -- Everything that is stored has been added since the start.
    obtain ⟨later, ids, -, adds⟩ := changes.creates Deployments.indexed_empty
    exact enumerated_of_adds later adds
  · obtain ⟨-, ids, creates, adds⟩ := (changes_history settings calls more).creates indexed
    exact ⟨(persists_history settings calls more).action, lt_of_adds indexed adds, ids, creates,
      adds.keys, adds.drawn⟩

end Lists

end Service

end DeviceUpdate
