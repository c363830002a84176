import DeviceUpdate.Proofs.Rollout.Placement

/-! The order in which groups have their turn. -/

namespace DeviceUpdate.Rollouts

/-- The state of a group, given the position of the group whose turn it is. -/
structure InTurn (turn : Nat) (g : RolloutGroup) : Prop where
  before : g.position < turn → g.status.isSettled = true
  now : g.position = turn → g.status = .running ∨ g.status = .scheduled
  after : turn < g.position → g.status = .scheduled

/-- The statuses of rollouts that have been started. -/
def startedStatuses : List RolloutStatus :=
  [.running, .paused, .finished, .error]

/-- Groups have their turn one after another, once their rollout is among the started ones. -/
structure Arranged (started : Nat → Prop) (s : Store) : Prop where
  drawn : ∀ {id : Nat}, started id → id < s.nextNumber sequence
  ready : ∀ {id : Nat} {r : Rollout}, s.rollouts.get? id = some r → r.status = .ready →
    ¬ started id
  begun : ∀ {id : Nat} {r : Rollout}, s.rollouts.get? id = some r →
    r.status ∈ startedStatuses → started id
  waiting : ∀ {g : RolloutGroup}, s.groups.get? g.id = some g → ¬ started g.rollout →
    g.status = .ready
  turn : ∀ {rollout : Nat}, started rollout → ∃ turn, ∀ {g : RolloutGroup},
    s.groups.get? g.id = some g → g.rollout = rollout → InTurn turn g

/-- Nothing is stored at the start, and no rollout has been started. -/
theorem arranged_empty : Arranged (fun _ => False) .empty where
  drawn := False.elim
  ready := fun _ _ => id
  begun found := by simp [Store.empty] at found
  waiting found := by simp [Store.empty] at found
  turn := False.elim

section Changes

variable {started : Nat → Prop} {s s' : Store}

/-- The arrangement depends on the rollouts and the groups alone. -/
theorem Arranged.unchanged (arranged : Arranged started s)
    (rollouts : s'.rollouts = s.rollouts)
    (groups : ∀ id, s'.groups.get? id = s.groups.get? id)
    (next : s'.nextNumber sequence = s.nextNumber sequence) : Arranged started s' := by
  -- Each clause is about the rollouts, the groups or the numbers drawn.
  constructor
  case drawn => rw [next]; exact arranged.drawn
  case ready => rw [rollouts]; exact arranged.ready
  case begun => rw [rollouts]; exact arranged.begun
  case waiting => simp only [groups]; exact arranged.waiting
  case turn => simp only [groups]; exact arranged.turn

/-- A stored rollout may change, if its status still tells whether it has been started. -/
theorem Arranged.putRollout (arranged : Arranged started s) {r r' : Rollout} (same : r'.id = r.id)
    (ready : r'.status = .ready → ¬ started r.id)
    (begun : r'.status ∈ startedStatuses → started r.id) :
    Arranged started (s.putRollout r') := by
  -- Only the record of this rollout is written.
  have found (id : Nat) : (s.putRollout r').rollouts.get? id =
      if id = r.id then some r' else s.rollouts.get? id := by
    rw [← same]
    exact Table.get?_insert s.rollouts r'.id id r'
  constructor
  case drawn => exact arranged.drawn
  case ready =>
    intro id other here status
    rw [found] at here
    split at here
    -- The rollout is the one written now.
    · rename_i equal
      rw [← Option.some.inj here] at status
      rw [equal]
      exact ready status
    · exact arranged.ready here status
  case begun =>
    intro id other here status
    rw [found] at here
    split at here
    · rename_i equal
      rw [← Option.some.inj here] at status
      rw [equal]
      exact begun status
    · exact arranged.begun here status
  -- Groups are not touched.
  case waiting => exact arranged.waiting
  case turn => exact arranged.turn

/-- The turn may move, if every group of the rollout is in turn after the change. -/
theorem Arranged.putGroup (arranged : Arranged started s) {g : RolloutGroup}
    {status : GroupStatus} (running : started g.rollout)
    (moved : ∃ turn, InTurn turn { g with status := status } ∧
      ∀ {h : RolloutGroup}, s.groups.get? h.id = some h → h.rollout = g.rollout → h.id ≠ g.id →
        InTurn turn h) : Arranged started (s.putGroup { g with status := status }) := by
  constructor
  case drawn => exact arranged.drawn
  case ready => exact arranged.ready
  case begun => exact arranged.begun
  case waiting =>
    -- The group belongs to a rollout that has been started, so it does not wait for the start.
    intro h found fresh
    rw [get?_putGroup] at found
    split at found
    · rw [← Option.some.inj found] at fresh
      exact absurd running fresh
    · exact arranged.waiting found fresh
  case turn =>
    intro rollout begun
    -- The turn of other rollouts does not depend on this group.
    by_cases own : g.rollout = rollout
    · obtain ⟨turn, here, others⟩ := moved
      refine ⟨turn, fun {h} found ownH => ?_⟩
      rw [get?_putGroup] at found
      split at found
      · rw [← Option.some.inj found]
        exact here
      · rename_i other
        exact others found (ownH.trans own.symm) other
    · obtain ⟨turn, all⟩ := arranged.turn begun
      refine ⟨turn, fun {h} found ownH => ?_⟩
      rw [get?_putGroup] at found
      split at found
      · rw [← Option.some.inj found] at ownH
        exact absurd ownH own
      · exact all found ownH

/-- The group that runs is the one whose turn it is. -/
theorem InTurn.position_of_running {turn : Nat} {g : RolloutGroup} (inTurn : InTurn turn g)
    (running : g.status = .running) : g.position = turn := by
  -- Before the turn groups have settled, and behind it they wait.
  rcases Nat.lt_trichotomy g.position turn with before | here | after
  · have settled := inTurn.before before
    simp [running, GroupStatus.isSettled] at settled
  · exact here
  · have waits := inTurn.after after
    simp [running] at waits

/-- A group that waits behind settled ones only is the one whose turn it is. -/
theorem InTurn.position_of_first {turn : Nat} {r : Rollout} {g : RolloutGroup} (placed : Placed s)
    (runs : Runs s r g)
    (all : ∀ {h : RolloutGroup}, s.groups.get? h.id = some h → h.rollout = r.id → InTurn turn h)
    (waits : g.status.isSettled = false)
    (first : ∀ h ∈ s.groupsOf r.id, h.position < g.position → h.status.isSettled = true) :
    g.position = turn := by
  have inTurn := all runs.storedGroup runs.own
  rcases Nat.lt_trichotomy g.position turn with before | here | after
  -- A group before the turn has settled, so it would not be waiting.
  · rw [inTurn.before before] at waits
    cases waits
  · exact here
  · -- The group whose turn it is comes before and has not settled.
    obtain ⟨r', stored, within⟩ := placed.within runs.storedGroup
    obtain ⟨h, found, own, position⟩ := placed.exists_group stored (Nat.lt_trans after within)
    have ownH : h.rollout = r.id := own.trans runs.own
    have settled := first h (placed.mem_groupsOf.mpr ⟨found, ownH⟩) (by omega)
    rcases (all found ownH).now position with status | status
    · simp [status, GroupStatus.isSettled] at settled
    · simp [status, GroupStatus.isSettled] at settled

/-- A settled group is in turn when it has just had its turn. -/
theorem InTurn.of_settled {g : RolloutGroup} (ends : g.status.isSettled = true) :
    InTurn (g.position + 1) g where
  before _ := ends
  now here := by omega
  after later := by omega

/-- Groups other than the one whose turn it is are in turn once it has passed. -/
theorem InTurn.pass {turn : Nat} {g : RolloutGroup} (inTurn : InTurn turn g)
    (other : g.position ≠ turn) : InTurn (turn + 1) g where
  before within := inTurn.before (by omega)
  now here := Or.inr (inTurn.after (by omega))
  after later := inTurn.after (by omega)

end Changes

section Steps

variable {started : Nat → Prop} {s s' : Store} {id : Nat}

/-- Planting a rollout keeps the arrangement: its groups wait for the start. -/
theorem Arranged.plant (arranged : Arranged started s) (placed : Placed s) (tenant : String)
    (q : Request) (members : List (List String)) (total : Nat) (now : Instant) :
    Arranged started (s.plant tenant q members total now) := by
  have apart : sequence ≠ groupSequence := by decide
  -- Only drawn numbers have been started.
  have fresh : ¬ started (s.nextNumber sequence) := fun begun =>
    Nat.lt_irrefl _ (arranged.drawn begun)
  constructor
  case drawn =>
    intro id begun
    have below := arranged.drawn begun
    rw [Store.nextNumber_plant]
    omega
  case ready =>
    intro id r found ready
    rcases plant_rollout found with old | ⟨new, -⟩
    · exact arranged.ready old ready
    · rw [new]
      exact fresh
  case begun =>
    intro id r found status
    rcases plant_rollout found with old | ⟨-, -, -, ready⟩
    · exact arranged.begun old status
    -- The new rollout is ready, which is no status of a started one.
    · simp [ready, startedStatuses] at status
  case waiting =>
    intro g found waits
    rcases placed.plant_group found with ⟨old, -⟩ | ⟨i, -, -, same⟩
    · exact arranged.waiting old waits
    · rw [same]
      rfl
  case turn =>
    intro rollout begun
    obtain ⟨turn, all⟩ := arranged.turn begun
    refine ⟨turn, fun {g} found own => ?_⟩
    rcases placed.plant_group found with ⟨old, -⟩ | ⟨i, -, -, same⟩
    · exact all old own
    · -- The new rollout is not among the started ones.
      rw [same] at own
      have new : s.nextNumber sequence = rollout := own
      exact absurd begun (by rw [← new]; exact fresh)

/-- Removing a rollout keeps the arrangement of the others. -/
theorem Arranged.removeRollout (arranged : Arranged started s) (placed : Placed s)
    (rollout : Nat) : Arranged started (s.removeRollout rollout).2 := by
  -- What is left after the removal was there before it.
  have old {id : Nat} {r : Rollout}
      (found : (s.removeRollout rollout).2.rollouts.get? id = some r) :
      s.rollouts.get? id = some r := by
    rw [rollout_removeRollout] at found
    split at found
    · cases found
    · exact found
  constructor
  case drawn =>
    rw [nextNumber_removeRollout]
    exact arranged.drawn
  case ready => exact fun found => arranged.ready (old found)
  case begun => exact fun found => arranged.begun (old found)
  case waiting => exact fun found => arranged.waiting (placed.group_removeRollout.mp found).1
  case turn =>
    intro rollout begun
    obtain ⟨turn, all⟩ := arranged.turn begun
    exact ⟨turn, fun found own => all (placed.group_removeRollout.mp found).1 own⟩

/-- The turn passes on when the running group settles. -/
theorem Arranged.settled (arranged : Arranged started s) (placed : Placed s) {r : Rollout}
    {g : RolloutGroup} (runs : Runs s r g) (active : g.status = .running) {status : GroupStatus}
    (ends : status.isSettled = true) :
    Arranged started (s.putGroup { g with status := status }) := by
  have begun : started g.rollout := by
    rw [runs.own]
    exact arranged.begun runs.stored (by simp [runs.running, startedStatuses])
  -- The group that runs is the one whose turn it is.
  obtain ⟨turn, all⟩ := arranged.turn begun
  have here : g.position = turn := (all runs.storedGroup rfl).position_of_running active
  refine arranged.putGroup begun ⟨turn + 1, ?_, fun {h} found own other => ?_⟩
  · rw [← here]
    exact InTurn.of_settled (g := { g with status := status }) ends
  -- No other group stands at the position of the settled one.
  · refine (all found own).pass fun position => other ?_
    rw [placed.unique found runs.storedGroup own (position.trans here.symm)]

/-- The group whose turn it is may begin, or settle at once. -/
theorem Arranged.begin (arranged : Arranged started s) (placed : Placed s) {r : Rollout}
    {g : RolloutGroup} (runs : Runs s r g) (waits : g.status ∈ startable) {status : GroupStatus}
    (first : ∀ h ∈ s.groupsOf r.id, h.position < g.position → h.status.isSettled = true)
    (becomes : status = .running ∨ g.totalTargets = 0 ∧ status = .finished) :
    Arranged started (s.putGroup { g with status := status }) := by
  have begun : started g.rollout := by
    rw [runs.own]
    exact arranged.begun runs.stored (by simp [runs.running, startedStatuses])
  obtain ⟨turn, all⟩ := arranged.turn begun
  -- What can start has not settled.
  have unsettled : g.status.isSettled = false := by
    rcases (show g.status = .creating ∨ g.status = .ready ∨ g.status = .scheduled by
      simpa [startable] using waits) with status | status | status <;> rw [status] <;> rfl
  have here : g.position = turn := InTurn.position_of_first placed runs
    (fun found own => all found (own.trans runs.own.symm)) unsettled first
  -- If the group runs, it keeps the turn; if it settles at once, the turn passes on.
  rcases becomes with running | ⟨-, finished⟩
  · refine arranged.putGroup begun ⟨turn, ?_, fun {h} found own _ => all found own⟩
    exact ⟨fun before => by simp [here] at before, fun _ => Or.inl running,
      fun later => by simp [here] at later⟩
  · refine arranged.putGroup begun ⟨turn + 1, ?_, fun {h} found own other => ?_⟩
    · rw [← here, finished]
      exact InTurn.of_settled (g := { g with status := .finished }) rfl
    · refine (all found own).pass fun position => other ?_
      rw [placed.unique found runs.storedGroup own (position.trans here.symm)]

/-- Every step keeps the arrangement. -/
theorem Step.arranged (step : Step s s') (placed : Placed s) (arranged : Arranged started s) :
    Arranged started s' := by
  cases step with
  | created tenant q members total now => exact arranged.plant placed tenant q members total now
  | moved r status stored moves =>
    -- A rollout never becomes ready again.
    refine arranged.putRollout rfl ?_ ?_
    · intro ready
      simp only at ready
      generalize r.status = old at moves
      rw [ready] at moves
      cases moves
    · intro begun
      -- Only what has been started pauses or goes on.
      generalize before : r.status = old at moves
      cases moves with
      | pause => exact arranged.begun stored (by simp [before, startedStatuses])
      | resume => exact arranged.begun stored (by simp [before, startedStatuses])
      | stop => simp [startedStatuses] at begun
      | delete => simp [startedStatuses] at begun
  -- What runs has been started, and its outcome is a status for rollouts that have been.
  | completed r stored running =>
    have begun := arranged.begun stored (by simp [running, startedStatuses])
    refine arranged.putRollout rfl ?_ fun _ => begun
    intro ready
    simp only [outcomeOf] at ready
    split at ready <;> cases ready
  | examined r now stored =>
    exact arranged.putRollout rfl (arranged.ready (r := r) stored) (arranged.begun (r := r) stored)
  | settled r g status runs active ends => exact arranged.settled placed runs active ends
  | begun r g status runs waits turn becomes => exact arranged.begin placed runs waits turn becomes
  | removed r => exact arranged.removeRollout placed r.id

/-- A group that is moved keeps its number, and changes if it has the expected status. -/
theorem Placed.get?_moveGroup (placed : Placed s) (moved : Nat) (expected : List GroupStatus)
    (status : GroupStatus) (id : Nat) :
    (s.moveGroup moved expected status).2.groups.get? id = (s.groups.get? id).map fun g =>
      if moved = id ∧ g.status ∈ expected then { g with status := status } else g := by
  unfold Store.moveGroup
  split
  -- Groups are stored under their own numbers.
  · rename_i g found
    have own := placed.groupOwn found
    -- The group is moved only out of an expected status.
    by_cases allowed : g.status ∈ expected
    · rw [if_pos (List.contains_iff_mem.mpr allowed), get?_putGroup, own]
      by_cases here : id = moved
      · simp [here, found, own, allowed]
      · simp [here, Ne.symm here]
    · rw [if_neg (by simpa using allowed)]
      by_cases here : id = moved
      · simp [here, found, allowed]
      · simp [Ne.symm here]
  · rename_i absent
    by_cases here : id = moved
    · simp [here, absent]
    · simp [Ne.symm here]

/-- The scheduled groups are those that were ready and are listed. -/
theorem Placed.get?_scheduleGroups (placed : Placed s) (groups : List RolloutGroup) (id : Nat) :
    (scheduleGroups groups s).groups.get? id = (s.groups.get? id).map fun g =>
      if (∃ h ∈ groups, h.id = id) ∧ g.status = .ready then { g with status := .scheduled }
      else g := by
  induction groups generalizing s with
  -- Each group of the list is moved in turn, and only out of the status ready.
  | nil => simp [scheduleGroups]
  | cons h rest ih =>
    rw [scheduleGroups, ih (placed.moveGroup h.id [.ready] .scheduled),
      placed.get?_moveGroup, Option.map_map]
    -- A group that is listed again has been scheduled already.
    congr 1
    funext g
    by_cases here : h.id = id
    · by_cases ready : g.status = .ready
      · simp [here, ready]
      · simp [here, ready]
    · simp [here]

/-- Once a ready rollout starts, its groups are scheduled, and those of others are as before. -/
theorem Arranged.group_started (arranged : Arranged started s) (placed : Placed s) {r : Rollout}
    (stored : s.rollouts.get? r.id = some r) (ready : r.status = .ready) {h : RolloutGroup}
    (here : (scheduleGroups (s.groupsOf r.id)
      (s.putRollout { r with status := .running })).groups.get? h.id = some h) :
    s.groups.get? h.id = some h ∧ h.rollout ≠ r.id ∨
      h.rollout = r.id ∧ h.status = .scheduled := by
  have running : Placed (s.putRollout { r with status := .running }) :=
    placed.putRollout stored rfl rfl
  -- The rollout is ready, so it has not been started before.
  have fresh : ¬ started r.id := arranged.ready stored ready
  rw [running.get?_scheduleGroups] at here
  obtain ⟨before, kept, same⟩ := Option.map_eq_some_iff.mp here
  have old : s.groups.get? h.id = some before := kept
  have number : before.id = h.id := placed.groupOwn old
  have oldOwn : s.groups.get? before.id = some before := by rw [number]; exact old
  by_cases own : before.rollout = r.id
  · -- The groups of a rollout that has not been started are ready, so all of them move.
    have waits : before.status = .ready := arranged.waiting oldOwn (by rw [own]; exact fresh)
    rw [if_pos ⟨⟨before, placed.mem_groupsOf.mpr ⟨oldOwn, own⟩, number⟩, waits⟩] at same
    rw [← same]
    exact Or.inr ⟨own, rfl⟩
  · rw [if_neg] at same
    · rw [← same]
      exact Or.inl ⟨oldOwn, own⟩
    · -- What is listed for the rollout belongs to it.
      rintro ⟨⟨k, member, sameId⟩, -⟩
      obtain ⟨storedK, ownK⟩ := placed.mem_groupsOf.mp member
      rw [sameId, old] at storedK
      rw [← Option.some.inj storedK] at ownK
      exact own ownK

/-- The start of a rollout adds it to the started ones, and schedules its groups. -/
theorem Start.arranged (start : Start id s s') (placed : Placed s)
    (arranged : Arranged started s) : Arranged (fun other => started other ∨ other = id) s' := by
  cases start with | started r stored own ready =>
  subst own
  have found (other : Nat) :
      (scheduleGroups (s.groupsOf r.id) (s.putRollout { r with status := .running })).rollouts.get?
        other = if other = r.id then some { r with status := .running }
          else s.rollouts.get? other := by
    rw [scheduleGroups_frame]
    exact Table.get?_insert s.rollouts r.id other _
  have group {h : RolloutGroup} (here : (scheduleGroups (s.groupsOf r.id)
      (s.putRollout { r with status := .running })).groups.get? h.id = some h) :=
    arranged.group_started placed stored ready here
  constructor
  case drawn =>
    intro other begun
    rw [scheduleGroups_frame]
    rcases begun with begun | rfl
    · exact arranged.drawn begun
    · exact placed.drawn stored
  case ready =>
    intro other r' here status
    rw [found] at here
    split at here
    -- The started rollout runs, so it is not ready any more.
    · rw [← Option.some.inj here] at status
      cases status
    · rename_i apart
      exact not_or.mpr ⟨arranged.ready here status, apart⟩
  case begun =>
    intro other r' here status
    rw [found] at here
    split at here
    · rename_i same
      exact Or.inr same
    · exact Or.inl (arranged.begun here status)
  case waiting =>
    intro h here waits
    -- A group that still waits belongs to a rollout other than the one started.
    rw [not_or] at waits
    rcases group here with ⟨old, -⟩ | ⟨own, -⟩
    · exact arranged.waiting old waits.1
    · exact absurd own waits.2
  case turn =>
    intro rollout begun
    -- All groups of the started rollout are scheduled, so the first has its turn.
    by_cases same : rollout = r.id
    · refine ⟨0, fun {h} here own => ?_⟩
      rcases group here with ⟨-, other⟩ | ⟨-, scheduled⟩
      · exact absurd (own.trans same) other
      · exact ⟨fun before => by omega, fun _ => Or.inr scheduled, fun _ => scheduled⟩
    · obtain ⟨turn, all⟩ := arranged.turn (begun.resolve_right same)
      refine ⟨turn, fun {h} here own => ?_⟩
      rcases group here with ⟨old, -⟩ | ⟨other, -⟩
      · exact all old own
      · exact absurd (own.symm.trans other) same

/-- The failure of a rollout keeps the arrangement. -/
theorem Failure.arranged (failure : Failure id s s') (arranged : Arranged started s) :
    Arranged started s' := by
  cases failure with | failed r stored own running =>
  subst own
  exact arranged.putRollout rfl (fun ready => by cases ready)
    fun _ => arranged.begun stored (by simp [running, startedStatuses])

end Steps

end DeviceUpdate.Rollouts
