import DeviceUpdate.Proofs.Rollout.Arrangement
import DeviceUpdate.Proofs.Service.Coherence

/-! The groups of a rollout in a row: settled ones, one that runs, and ones that wait, in every state. -/

namespace DeviceUpdate.Rollouts

/-- The groups of a rollout of so many groups stand in a row and have their turn one by one. -/
structure Ordered (started : Prop) (s : Store) (id count : Nat) : Prop where
  /-- The groups that are listed for the rollout are those that are stored for it. -/
  members : ∀ {g : RolloutGroup}, g ∈ s.groupsOf id ↔
    ∃ number, s.groups.get? number = some g ∧ g.rollout = id
  positions : (s.groupsOf id).map (·.position) = List.range count
  /-- The first group has no parent, and that of any other is the group before it. -/
  head : ∀ g ∈ (s.groupsOf id).head?, g.parent = none
  parents : (s.groupsOf id).IsChain fun g h => h.parent = some g.id
  /-- Settled groups come first, then at most one that runs, then those that wait. -/
  row : ∃ (settled waiting : List RolloutGroup) (running : Option RolloutGroup),
    s.groupsOf id = settled ++ running.toList ++ waiting ∧
    (∀ g ∈ settled, g.status = .finished ∨ g.status = .error) ∧
    (∀ g ∈ running, g.status = .running) ∧
    (∀ g ∈ waiting, started → g.status = .scheduled) ∧
    (¬ started → settled = [] ∧ running = none ∧ ∀ g ∈ waiting, g.status = .ready)

section Rows

variable {started : Nat → Prop} {s : Store} {id : Nat} {r : Rollout}

/-- The group at an index stands at the position of that number. -/
theorem Placed.position_getElem (placed : Placed s) (stored : s.rollouts.get? id = some r) (i : Nat)
    (below : i < (s.groupsOf id).length) : ((s.groupsOf id)[i]).position = i := by
  have positions := placed.groupsOf_positions stored
  -- The positions are listed from zero, so each is its own index.
  have here : ((s.groupsOf id).map (·.position))[i]? = (List.range r.groupCount)[i]? := by
    rw [positions]
  have count : i < r.groupCount := by
    have lengths := congrArg List.length positions
    rw [List.length_map, List.length_range] at lengths
    omega
  rw [List.getElem?_map, List.getElem?_eq_getElem below, List.getElem?_range count] at here
  exact Option.some.inj here

/-- The first group of a rollout has no parent. -/
theorem Placed.head_parent (placed : Placed s) (stored : s.rollouts.get? id = some r) :
    ∀ g ∈ (s.groupsOf id).head?, g.parent = none := by
  intro g first
  -- The head of the list is what stands at its first index.
  obtain ⟨below, here⟩ : ∃ below : 0 < (s.groupsOf id).length, (s.groupsOf id)[0] = g := by
    rw [List.head?_eq_getElem?] at first
    exact List.getElem?_eq_some_iff.mp first
  have position := placed.position_getElem stored 0 below
  rw [here] at position
  have member : g ∈ s.groupsOf id := here ▸ List.getElem_mem below
  rw [placed.parent (placed.mem_groupsOf.mp member).1, if_pos position]

/-- The parent of every other group is the group before it. -/
theorem Placed.parents (placed : Placed s) (stored : s.rollouts.get? id = some r) :
    (s.groupsOf id).IsChain fun g h => h.parent = some g.id := by
  -- Neighbours in the list are neighbours in position.
  rw [List.isChain_iff_getElem]
  intro i below
  have first : i < (s.groupsOf id).length := by omega
  obtain ⟨foundG, ownG⟩ := placed.mem_groupsOf.mp (List.getElem_mem first)
  obtain ⟨foundH, ownH⟩ := placed.mem_groupsOf.mp (List.getElem_mem below)
  have positionG := placed.position_getElem stored i first
  have positionH := placed.position_getElem stored (i + 1) below
  -- The parent is looked up at the position before, where the other group stands.
  have place := placed.place foundG
  rw [ownG, positionG] at place
  rw [placed.parent foundH, positionH, ownH, if_neg (Nat.succ_ne_zero i), Nat.add_sub_cancel]
  exact place

/-- Once a rollout has been started, the turn divides its groups. -/
theorem Placed.row (placed : Placed s) (stored : s.rollouts.get? id = some r) {turn : Nat}
    (inTurn : ∀ g ∈ s.groupsOf id, InTurn turn g) :
    ∃ (settled waiting : List RolloutGroup) (running : Option RolloutGroup),
      s.groupsOf id = settled ++ running.toList ++ waiting ∧
      (∀ g ∈ settled, g.status.isSettled = true) ∧ (∀ g ∈ running, g.status = .running) ∧
      ∀ g ∈ waiting, g.status = .scheduled := by
  -- What stands before the turn has had it.
  have settled : ∀ g ∈ (s.groupsOf id).take turn, g.status.isSettled = true := by
    intro g member
    obtain ⟨i, below, rfl⟩ := List.mem_take_iff_getElem.mp member
    refine (inTurn _ (List.getElem_mem (by omega))).before ?_
    rw [placed.position_getElem stored i (by omega)]
    omega
  -- What stands behind the turn waits for it.
  have after : ∀ g ∈ (s.groupsOf id).drop (turn + 1), g.status = .scheduled := by
    intro g member
    obtain ⟨i, below, rfl⟩ := List.mem_drop_iff_getElem.mp member
    refine (inTurn _ (List.getElem_mem (by omega))).after ?_
    rw [placed.position_getElem stored _ (by omega)]
    omega
  by_cases within : turn < (s.groupsOf id).length
  · have rest : (s.groupsOf id).drop turn =
        (s.groupsOf id)[turn] :: (s.groupsOf id).drop (turn + 1) :=
      List.drop_eq_getElem_cons within
    -- The group whose turn it is runs, or it is the first of those that wait.
    have here := (inTurn _ (List.getElem_mem within)).now (placed.position_getElem stored turn within)
    rcases here with runs | waits
    · refine ⟨_, _, some (s.groupsOf id)[turn], ?_, settled, ?_, after⟩
      · rw [Option.toList_some, List.append_assoc, List.singleton_append, ← rest,
          List.take_append_drop]
      · intro g same
        rw [← Option.some.inj same]
        exact runs
    · refine ⟨_, (s.groupsOf id).drop turn, none, ?_, settled, by simp, ?_⟩
      · rw [Option.toList_none, List.append_nil, List.take_append_drop]
      · rw [rest, List.forall_mem_cons]
        exact ⟨waits, after⟩
  · -- All groups have had their turn.
    rw [List.take_of_length_le (by omega)] at settled
    exact ⟨s.groupsOf id, [], none, by simp, settled, by simp, by simp⟩

/-- The groups of every stored rollout are in order. -/
theorem Arranged.ordered (arranged : Arranged started s) (placed : Placed s)
    (stored : s.rollouts.get? id = some r) : Ordered (started id) s id r.groupCount where
  members := by
    intro g
    -- The groups of the rollout are those that are stored with its number.
    rw [placed.mem_groupsOf]
    constructor
    · rintro ⟨found, own⟩
      exact ⟨g.id, found, own⟩
    · rintro ⟨number, found, own⟩
      have same := placed.groupOwn found
      subst same
      exact ⟨found, own⟩
  positions := placed.groupsOf_positions stored
  head := placed.head_parent stored
  parents := placed.parents stored
  row := by
    by_cases begun : started id
    -- A started rollout has a turn, which divides the row.
    · obtain ⟨turn, all⟩ := arranged.turn begun
      have inTurn : ∀ g ∈ s.groupsOf id, InTurn turn g := fun g member =>
        all (placed.mem_groupsOf.mp member).1 (placed.mem_groupsOf.mp member).2
      obtain ⟨settled, waiting, running, divided, ended, runs, waits⟩ := placed.row stored inTurn
      refine ⟨settled, waiting, running, divided, fun g member => ?_, runs,
        fun g member _ => waits g member, fun fresh => absurd begun fresh⟩
      have status := ended g member
      cases status : g.status <;> simp_all [GroupStatus.isSettled]
    -- Before the start, all groups are ready.
    · refine ⟨[], s.groupsOf id, none, by simp, by simp, by simp, fun g _ known => absurd known begun,
        fun _ => ⟨rfl, rfl, fun g member => ?_⟩⟩
      obtain ⟨found, own⟩ := placed.mem_groupsOf.mp member
      exact arranged.waiting found (by rw [own]; exact begun)

end Rows

end DeviceUpdate.Rollouts

namespace DeviceUpdate.Service

/-- The groups of a stored rollout have their turn one by one, if it has been started at all. -/
theorem groups_ordered (settings : Settings) (calls : List Call) {id : Nat} {r : Rollout}
    (stored : (history settings calls).present.rollouts.get? id = some r) :
    Rollouts.Ordered ((history settings calls).started id) (history settings calls).present id
      r.groupCount := by
  have coherent := coherent_history settings calls
  exact coherent.arranged.ordered coherent.placed stored

/-- A run in which a rollout with two groups starts. -/
def launch : List Call :=
  [⟨.epoch, .createSet "t" "a" "1" []⟩,
   ⟨.epoch, .createTarget "t" "d" .empty⟩,
   ⟨.epoch, .createRollout "t" ⟨"r", "*", 1, .forced, none, none, none, some 2, [], ⟨"100"⟩,
     .nextGroup, none, none⟩ 0⟩,
   ⟨.epoch, .startRollout "t" 1⟩,
   ⟨.epoch, .evaluate 1⟩]

set_option maxRecDepth 10000 in
/-- After the start, the first group of the rollout runs and the second waits. -/
theorem groups_ordered_launch :
    ∃ r, (history .standard launch).present.rollouts.get? 1 = some r ∧
      ((history .standard launch).present.groupsOf 1).map (·.status) = [.running, .scheduled] ∧
      Rollouts.Ordered ((history .standard launch).started 1) (history .standard launch).present 1
        r.groupCount := by
  have known : ((history .standard launch).present.rollouts.get? 1).isSome = true := by
    decide +kernel
  -- The first group runs and the second one waits for its turn.
  have statuses : ((history .standard launch).present.groupsOf 1).map (·.status) =
      [.running, .scheduled] := by
    decide +kernel
  obtain ⟨r, stored⟩ := Option.isSome_iff_exists.mp known
  exact ⟨r, stored, statuses, groups_ordered .standard launch stored⟩

end DeviceUpdate.Service
