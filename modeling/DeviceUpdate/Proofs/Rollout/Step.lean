import DeviceUpdate.Rollout.Scheduler
import DeviceUpdate.Proofs.Store.Effect

/-! The steps in which rollouts and their groups change, each with all that it writes. -/

namespace DeviceUpdate

namespace Rollouts

/-- The sequence of the numbers of rollouts. -/
def sequence : String := "rollout"

/-- The sequence of the numbers of groups. -/
def groupSequence : String := "rollout_group"

end Rollouts

namespace Store

open Rollouts

/-- The store after a group with its members is stored under the next number. -/
def layGroup (q : Request) (rollout position : Nat) (parent : Option Nat) (members : List String)
    (s : Store) : Store :=
  let id := s.nextNumber groupSequence
  storeMembers id 0 members
    ((s.advance groupSequence).putGroup (groupOf q id rollout position members.length parent))

/-- The store after the groups of a rollout are stored from a position on. -/
def layGroups (q : Request) (rollout : Nat) :
    Nat → Option Nat → List (List String) → Store → Store
  | _, _, [], s => s
  | position, parent, members :: rest, s =>
    layGroups q rollout (position + 1) (some (s.nextNumber groupSequence)) rest
      (s.layGroup q rollout position parent members)

/-- The store after a rollout with its groups is stored. -/
def plant (s : Store) (tenant : String) (q : Request) (members : List (List String)) (total : Nat)
    (now : Instant) : Store :=
  let id := s.nextNumber sequence
  let rollout := rolloutOf q id tenant total members.length now
  (layGroups q id 0 none members ((s.advance sequence).putRollout rollout)).putRollout
    { rollout with status := .ready }

/-- Storing members changes nothing but the members. -/
theorem storeMembers_frame (group index : Nat) (names : List String) (s : Store) :
    storeMembers group index names s =
      { s with members := (storeMembers group index names s).members } := by
  induction names generalizing index s with
  | nil => rfl
  | cons name rest ih =>
    rw [storeMembers, ih]
    rfl

section Groups

variable (q : Request) (rollout position : Nat) (parent : Option Nat)

/-- Storing a group leaves targets, sets, actions, logs and rollouts as they are. -/
theorem layGroup_frame (members : List String) (s : Store) :
    let s' := s.layGroup q rollout position parent members
    s' = { s with
      groups := s'.groups, groupPositions := s'.groupPositions, members := s'.members,
      sequences := s'.sequences } := by
  simp only [layGroup]
  rw [storeMembers_frame]
  rfl

/-- Storing a group draws its number. -/
theorem nextNumber_layGroup (members : List String) (s : Store) (drawn : String) :
    (s.layGroup q rollout position parent members).nextNumber drawn =
      s.nextNumber drawn + if drawn = groupSequence then 1 else 0 := by
  rw [← nextNumber_advance, layGroup, storeMembers_frame]
  rfl

/-- The new group stands under the number that was drawn for it. -/
theorem get?_layGroup (members : List String) (s : Store) (id : Nat) :
    (s.layGroup q rollout position parent members).groups.get? id =
      if id = s.nextNumber groupSequence then
        some (groupOf q (s.nextNumber groupSequence) rollout position members.length parent)
      else s.groups.get? id := by
  rw [layGroup, storeMembers_frame]
  exact Table.get?_insert s.groups (s.nextNumber groupSequence) id _

/-- The new group has its place in its rollout. -/
theorem position_layGroup (members : List String) (s : Store) (place : Nat × Nat) :
    (s.layGroup q rollout position parent members).groupPositions.get? place =
      if place = (rollout, position) then some (s.nextNumber groupSequence)
      else s.groupPositions.get? place := by
  rw [layGroup, storeMembers_frame]
  exact Table.get?_insert s.groupPositions (rollout, position) place _

end Groups

section Plan

variable {q : Request} {rollout position : Nat} {parent : Option Nat}
  {members : List (List String)} {s : Store}

/-- Storing groups leaves targets, sets, actions, logs and rollouts as they are. -/
theorem layGroups_frame (q : Request) (rollout position : Nat) (parent : Option Nat)
    (members : List (List String)) (s : Store) :
    let s' := layGroups q rollout position parent members s
    s' = { s with
      groups := s'.groups, groupPositions := s'.groupPositions, members := s'.members,
      sequences := s'.sequences } := by
  -- Each group that is laid writes the same tables.
  induction members generalizing position parent s with
  | nil => rfl
  | cons names rest ih =>
    simp only [layGroups]
    rw [ih, layGroup_frame]

/-- Storing groups draws one number for each of them. -/
theorem nextNumber_layGroups (drawn : String) :
    (layGroups q rollout position parent members s).nextNumber drawn =
      s.nextNumber drawn + if drawn = groupSequence then members.length else 0 := by
  induction members generalizing position parent s with
  | nil => simp [layGroups]
  | cons names rest ih =>
    rw [layGroups, ih, nextNumber_layGroup]
    -- The first group draws one number, and the rest one for each of theirs.
    by_cases here : drawn = groupSequence
    · simp only [here, ↓reduceIte, List.length_cons]
      omega
    · simp [here]

/-- Groups of other numbers than the new ones stay as they are. -/
theorem get?_layGroups_of_old {id : Nat} (old : id < s.nextNumber groupSequence ∨
      s.nextNumber groupSequence + members.length ≤ id) :
    (layGroups q rollout position parent members s).groups.get? id = s.groups.get? id := by
  induction members generalizing position parent s with
  | nil => rfl
  | cons names rest ih =>
    rw [List.length_cons] at old
    -- The number is outside the range of the new ones, so outside that of the rest too.
    have other : id ≠ s.nextNumber groupSequence := by omega
    rw [layGroups, ih, get?_layGroup, if_neg other]
    rw [nextNumber_layGroup]
    simp only [↓reduceIte]
    omega

/-- Places other than those of the new groups stay as they are. -/
theorem position_layGroups_of_old {place : Nat × Nat}
    (old : place.1 ≠ rollout ∨ place.2 < position ∨ position + members.length ≤ place.2) :
    (layGroups q rollout position parent members s).groupPositions.get? place =
      s.groupPositions.get? place := by
  induction members generalizing position parent s with
  | nil => rfl
  | cons names rest ih =>
    rw [List.length_cons] at old
    -- The place is not that of the first group, nor one of the rest.
    have other : place ≠ (rollout, position) := by
      rintro rfl
      simp only [ne_eq, not_true_eq_false, false_or] at old
      omega
    rw [layGroups, ih (by omega), position_layGroup, if_neg other]

/-- The group that is stored at a place, where the first one has a given number. -/
def laid (q : Request) (rollout position : Nat) (parent : Option Nat)
    (members : List (List String)) (first i : Nat) : RolloutGroup :=
  groupOf q (first + i) rollout (position + i) (members[i]?.getD []).length
    (if i = 0 then parent else some (first + i - 1))

/-- The groups after the first are the same, counted from the second. -/
theorem laid_succ (names : List String) (first i : Nat) :
    laid q rollout (position + 1) (some first) members (first + 1) i =
      laid q rollout position parent (names :: members) first (i + 1) := by
  -- Number, position and parent are all counted from one group earlier.
  have number : first + 1 + i = first + (i + 1) := by omega
  have place : position + 1 + i = position + (i + 1) := by omega
  have before : (if i = 0 then some first else some (first + (i + 1) - 1)) =
      some (first + (i + 1) - 1) := by
    split
    · simp [*]
    · rfl
  simp only [laid, number, place, List.getElem?_cons_succ, before, Nat.add_eq_zero_iff,
    Nat.one_ne_zero, and_false, ↓reduceIte]

/-- The new groups stand under consecutive numbers. -/
theorem get?_layGroups {i : Nat} (within : i < members.length) :
    (layGroups q rollout position parent members s).groups.get? (s.nextNumber groupSequence + i) =
      some (laid q rollout position parent members (s.nextNumber groupSequence) i) := by
  induction members generalizing position parent s i with
  | nil => simp at within
  | cons names rest ih =>
    -- The rest starts from the number after that of the first group.
    have next : (s.layGroup q rollout position parent names).nextNumber groupSequence =
        s.nextNumber groupSequence + 1 := by simp [nextNumber_layGroup]
    rw [layGroups]
    cases i with
    | zero =>
      -- The first group is not overwritten by the later ones.
      rw [get?_layGroups_of_old (by rw [next]; omega), get?_layGroup]
      simp [laid]
    | succ i =>
      rw [show s.nextNumber groupSequence + (i + 1) = s.nextNumber groupSequence + 1 + i by omega,
        ← next, ih (by simpa using within), next, laid_succ]

/-- The new groups have consecutive places. -/
theorem position_layGroups {i : Nat} (within : i < members.length) :
    (layGroups q rollout position parent members s).groupPositions.get? (rollout, position + i) =
      some (s.nextNumber groupSequence + i) := by
  induction members generalizing position parent s i with
  | nil => simp at within
  | cons names rest ih =>
    rw [layGroups]
    cases i with
    | zero =>
      -- The later groups leave the first place as it is.
      rw [position_layGroups_of_old (by simp), position_layGroup]
      simp
    | succ i =>
      rw [show position + (i + 1) = position + 1 + i by omega, ih (by simpa using within),
        nextNumber_layGroup]
      simp only [↓reduceIte, Option.some.injEq]
      omega

variable {tenant : String} {total : Nat} {now : Instant}

/-- A planted rollout is ready. -/
theorem rollout_plant (id : Nat) :
    (s.plant tenant q members total now).rollouts.get? id =
      if id = s.nextNumber sequence then
        some { rolloutOf q (s.nextNumber sequence) tenant total members.length now with
          status := .ready }
      else s.rollouts.get? id := by
  -- The rollout is stored before its groups, and they leave its table alone.
  simp only [plant, putRollout]
  rw [layGroups_frame]
  simp only [Table.get?_insert, advance_rollouts, rolloutOf]
  split
  · rfl
  · rfl

/-- Planting a rollout draws its number and those of its groups. -/
theorem nextNumber_plant (drawn : String) :
    (s.plant tenant q members total now).nextNumber drawn =
      s.nextNumber drawn + (if drawn = sequence then 1 else 0) +
        if drawn = groupSequence then members.length else 0 := by
  rw [← nextNumber_advance]
  exact nextNumber_layGroups drawn

/-- The first group of a planted rollout takes the next number. -/
theorem nextNumber_putRollout_advance (r : Rollout) :
    ((s.advance sequence).putRollout r).nextNumber groupSequence = s.nextNumber groupSequence := by
  -- Rollouts and groups are numbered apart.
  have apart : groupSequence ≠ sequence := by decide
  rw [show ((s.advance sequence).putRollout r).nextNumber groupSequence =
    (s.advance sequence).nextNumber groupSequence from rfl, nextNumber_advance, if_neg apart,
    Nat.add_zero]

theorem group_plant_of_old {id : Nat} (old : id < s.nextNumber groupSequence ∨
      s.nextNumber groupSequence + members.length ≤ id) :
    (s.plant tenant q members total now).groups.get? id = s.groups.get? id := by
  rw [← nextNumber_putRollout_advance] at old
  exact get?_layGroups_of_old old

theorem group_plant {i : Nat} (within : i < members.length) :
    (s.plant tenant q members total now).groups.get? (s.nextNumber groupSequence + i) =
      some (laid q (s.nextNumber sequence) 0 none members (s.nextNumber groupSequence) i) := by
  rw [← nextNumber_putRollout_advance (s := s)
    (rolloutOf q (s.nextNumber sequence) tenant total members.length now)]
  exact get?_layGroups within

theorem position_plant_of_old {place : Nat × Nat}
    (old : place.1 ≠ s.nextNumber sequence ∨ members.length ≤ place.2) :
    (s.plant tenant q members total now).groupPositions.get? place =
      s.groupPositions.get? place := by
  refine position_layGroups_of_old ?_
  omega

theorem position_plant {i : Nat} (within : i < members.length) :
    (s.plant tenant q members total now).groupPositions.get? (s.nextNumber sequence, i) =
      some (s.nextNumber groupSequence + i) := by
  have place : (s.nextNumber sequence, i) = (s.nextNumber sequence, 0 + i) := by
    rw [Nat.zero_add]
  rw [place, ← nextNumber_putRollout_advance (s := s)
    (rolloutOf q (s.nextNumber sequence) tenant total members.length now)]
  exact position_layGroups within

end Plan

section Removal

/-- Removing a group leaves targets, sets, actions, logs, rollouts and sequences as they are. -/
theorem foldl_removeGroup_frame (rollout : Nat) (groups : List RolloutGroup) (s : Store) :
    let s' := groups.foldl (removeGroup rollout) s
    s' = { s with
      groups := s'.groups, groupPositions := s'.groupPositions, members := s'.members,
      groupActions := s'.groupActions } := by
  -- Each removal writes the same four tables.
  induction groups generalizing s with
  | nil => rfl
  | cons g rest ih =>
    simp only [List.foldl_cons]
    rw [ih]
    rfl

/-- The removed groups, and no others, are gone. -/
theorem get?_removeGroups (rollout : Nat) (groups : List RolloutGroup) (s : Store) (id : Nat) :
    (groups.foldl (removeGroup rollout) s).groups.get? id =
      if ∃ g ∈ groups, g.id = id then none else s.groups.get? id := by
  induction groups generalizing s with
  | nil => simp
  | cons g rest ih =>
    -- One removal takes one number out, and the rest go on from there.
    have erased : (s.removeGroup rollout g).groups.get? id =
        if id = g.id then none else s.groups.get? id := Table.get?_erase s.groups g.id id
    rw [List.foldl_cons, ih, erased]
    by_cases here : g.id = id
    · simp [here]
    · simp [here, Ne.symm here]

/-- The places of the removed groups, and no others, are free. -/
theorem position_removeGroups (rollout : Nat) (groups : List RolloutGroup) (s : Store)
    (place : Nat × Nat) :
    (groups.foldl (removeGroup rollout) s).groupPositions.get? place =
      if ∃ g ∈ groups, (rollout, g.position) = place then none
      else s.groupPositions.get? place := by
  induction groups generalizing s with
  | nil => simp
  | cons g rest ih =>
    -- One removal frees one place, and the rest go on from there.
    have erased : (s.removeGroup rollout g).groupPositions.get? place =
        if place = (rollout, g.position) then none else s.groupPositions.get? place :=
      Table.get?_erase s.groupPositions (rollout, g.position) place
    rw [List.foldl_cons, ih, erased]
    by_cases here : (rollout, g.position) = place
    · simp [here]
    · simp [here, Ne.symm here]

end Removal

end Store

namespace Rollouts

/-- How administrators move rollouts from one status to another. -/
inductive Moves : RolloutStatus → RolloutStatus → Prop
  | pause : Moves .running .paused
  | resume : Moves .paused .running
  | stop {status : RolloutStatus} (allowed : status ∈ stoppable) : Moves status .stopped
  | delete {status : RolloutStatus} (allowed : status ∈ deletable) : Moves status .deleting

/-- The status of a rollout whose groups have all settled. -/
def outcomeOf (groups : List RolloutGroup) : RolloutStatus :=
  if groups.any fun g => g.status = .error then .error else .finished

/-- A group of a rollout that runs. -/
structure Runs (s : Store) (r : Rollout) (g : RolloutGroup) : Prop where
  stored : s.rollouts.get? r.id = some r
  running : r.status = .running
  storedGroup : s.groups.get? g.id = some g
  own : g.rollout = r.id

/-- One step of the rollouts and groups, other than the start of a rollout and its failure. -/
inductive Step : Store → Store → Prop
  | created (s : Store) (tenant : String) (q : Request) (members : List (List String))
      (total : Nat) (now : Instant) : Step s (s.plant tenant q members total now)
  | moved (s : Store) (r : Rollout) (status : RolloutStatus)
      (stored : s.rollouts.get? r.id = some r) (moves : Moves r.status status) :
    Step s (s.putRollout { r with status := status })
  | completed (s : Store) (r : Rollout) (stored : s.rollouts.get? r.id = some r)
      (running : r.status = .running)
      (settled : ∀ g ∈ s.groupsOf r.id, g.status.isSettled = true) :
    Step s (s.putRollout { r with status := outcomeOf (s.groupsOf r.id) })
  | examined (s : Store) (r : Rollout) (now : Instant)
      (stored : s.rollouts.get? r.id = some r) :
    Step s (s.putRollout { r with lastCheck := some now })
  | settled (s : Store) (r : Rollout) (g : RolloutGroup) (status : GroupStatus)
      (runs : Runs s r g) (active : g.status = .running) (ends : status.isSettled = true) :
    Step s (s.putGroup { g with status := status })
  | begun (s : Store) (r : Rollout) (g : RolloutGroup) (status : GroupStatus)
      (runs : Runs s r g) (waits : g.status ∈ startable)
      (turn : ∀ h ∈ s.groupsOf r.id, h.position < g.position → h.status.isSettled = true)
      -- A group without members has nothing to wait for.
      (becomes : status = .running ∨ g.totalTargets = 0 ∧ status = .finished) :
    Step s (s.putGroup { g with status := status })
  | removed (s : Store) (r : Rollout) (stored : s.rollouts.get? r.id = some r)
      (deleting : r.status = .deleting) : Step s (s.removeRollout r.id).2

/-- The start of a rollout: all of its groups are scheduled. -/
inductive Start (id : Nat) : Store → Store → Prop
  | started (s : Store) (r : Rollout) (stored : s.rollouts.get? id = some r) (own : r.id = id)
      (ready : r.status = .ready) :
    Start id s (scheduleGroups (s.groupsOf id) (s.putRollout { r with status := .running }))

/-- The failure of a running rollout. -/
inductive Failure (id : Nat) : Store → Store → Prop
  | failed (s : Store) (r : Rollout) (stored : s.rollouts.get? id = some r) (own : r.id = id)
      (running : r.status = .running) : Failure id s (s.putRollout { r with status := .error })

/-- What no step of the rollouts changes. -/
structure Frame (s s' : Store) : Prop where
  targets : s'.targets = s.targets
  sets : s'.sets = s.sets
  actions : s'.actions = s.actions
  targetActions : s'.targetActions = s.targetActions
  log : s'.log = s.log
  next : ∀ drawn, drawn ≠ sequence → drawn ≠ groupSequence →
    s'.nextNumber drawn = s.nextNumber drawn

/-- Storing what changes no sequence leaves the next numbers as they are. -/
theorem Frame.of_eq {s s' : Store} (targets : s'.targets = s.targets) (sets : s'.sets = s.sets)
    (actions : s'.actions = s.actions) (targetActions : s'.targetActions = s.targetActions)
    (log : s'.log = s.log) (sequences : s'.sequences = s.sequences) : Frame s s' :=
  ⟨targets, sets, actions, targetActions, log,
    fun drawn _ _ => Store.nextNumber_congr sequences drawn⟩

/-- Scheduling groups changes nothing but groups and their places. -/
theorem scheduleGroups_frame (groups : List RolloutGroup) (s : Store) :
    let s' := scheduleGroups groups s
    s' = { s with groups := s'.groups, groupPositions := s'.groupPositions } := by
  induction groups generalizing s with
  | nil => rfl
  | cons g rest ih =>
    have moved : (s.moveGroup g.id [.ready] .scheduled).2 =
        { s with
          groups := (s.moveGroup g.id [.ready] .scheduled).2.groups
          groupPositions := (s.moveGroup g.id [.ready] .scheduled).2.groupPositions } := by
      -- A group is stored in its new status, or nothing is written.
      unfold Store.moveGroup
      split
      · split <;> rfl
      · rfl
    simp only [scheduleGroups]
    rw [ih, moved]

/-- Every step leaves targets, sets, actions and logs as they are. -/
theorem Step.frame {s s' : Store} (step : Step s s') : Frame s s' := by
  cases step with
  | created tenant q members total now =>
    -- The groups are the last to be laid, and only their tables and sequences change.
    have laid := Store.layGroups_frame q (s.nextNumber sequence) 0 none members
      ((s.advance sequence).putRollout
        (rolloutOf q (s.nextNumber sequence) tenant total members.length now))
    simp only at laid
    constructor
    case next =>
      intro drawn other otherGroup
      rw [Store.nextNumber_plant]
      simp [other, otherGroup]
    all_goals
      simp only [Store.plant]
      rw [laid]
      rfl
  -- Every other step writes rollouts and groups alone.
  | moved => exact .of_eq rfl rfl rfl rfl rfl rfl
  | completed => exact .of_eq rfl rfl rfl rfl rfl rfl
  | examined => exact .of_eq rfl rfl rfl rfl rfl rfl
  | settled => exact .of_eq rfl rfl rfl rfl rfl rfl
  | begun => exact .of_eq rfl rfl rfl rfl rfl rfl
  | removed r =>
    simp only [Store.removeRollout]
    rw [Store.foldl_removeGroup_frame]
    exact .of_eq rfl rfl rfl rfl rfl rfl

/-- The start of a rollout leaves targets, sets, actions and logs as they are. -/
theorem Start.frame {id : Nat} {s s' : Store} (start : Start id s s') : Frame s s' := by
  cases start with | started r =>
  rw [scheduleGroups_frame]
  exact .of_eq rfl rfl rfl rfl rfl rfl

/-- The failure of a rollout leaves targets, sets, actions and logs as they are. -/
theorem Failure.frame {id : Nat} {s s' : Store} (failure : Failure id s s') : Frame s s' := by
  cases failure with | failed r =>
  exact .of_eq rfl rfl rfl rfl rfl rfl

end Rollouts

end DeviceUpdate
