import DeviceUpdate.Proofs.Rollout.Step

/-! The places of groups: every rollout has its groups at consecutive positions. -/

namespace DeviceUpdate.Rollouts

/-- Rollouts and groups stand under their own numbers, and groups at their places. -/
structure Placed (s : Store) : Prop where
  own : ∀ {id : Nat} {r : Rollout}, s.rollouts.get? id = some r → r.id = id
  drawn : ∀ {id : Nat} {r : Rollout}, s.rollouts.get? id = some r → id < s.nextNumber sequence
  groupOwn : ∀ {id : Nat} {g : RolloutGroup}, s.groups.get? id = some g → g.id = id
  groupDrawn : ∀ {id : Nat} {g : RolloutGroup}, s.groups.get? id = some g →
    id < s.nextNumber groupSequence
  place : ∀ {g : RolloutGroup}, s.groups.get? g.id = some g →
    s.groupPositions.get? (g.rollout, g.position) = some g.id
  placed : ∀ {rollout position id : Nat}, s.groupPositions.get? (rollout, position) = some id →
    ∃ g, s.groups.get? id = some g ∧ g.rollout = rollout ∧ g.position = position
  within : ∀ {g : RolloutGroup}, s.groups.get? g.id = some g →
    ∃ r, s.rollouts.get? g.rollout = some r ∧ g.position < r.groupCount
  dense : ∀ {rollout position : Nat} {r : Rollout}, s.rollouts.get? rollout = some r →
    position < r.groupCount → ∃ id, s.groupPositions.get? (rollout, position) = some id
  parent : ∀ {g : RolloutGroup}, s.groups.get? g.id = some g →
    g.parent = if g.position = 0 then none
      else s.groupPositions.get? (g.rollout, g.position - 1)

/-- Nothing is stored at the start. -/
theorem placed_empty : Placed .empty := by
  constructor <;> intros <;> simp_all [Store.empty]

section Groups

variable {s s' : Store}

/-- A place of a rollout has one group. -/
theorem Placed.unique (placed : Placed s) {g h : RolloutGroup}
    (first : s.groups.get? g.id = some g) (second : s.groups.get? h.id = some h)
    (rollout : g.rollout = h.rollout) (position : g.position = h.position) : g = h := by
  have here := placed.place first
  rw [rollout, position, placed.place second] at here
  have same : h.id = g.id := Option.some.inj here
  rw [same, first] at second
  exact Option.some.inj second

/-- A group that is found at a place is stored under its own number. -/
theorem Placed.at_place (placed : Placed s) {rollout position id : Nat}
    (here : s.groupPositions.get? (rollout, position) = some id) :
    ∃ g, s.groups.get? g.id = some g ∧ g.id = id ∧ g.rollout = rollout ∧
      g.position = position := by
  obtain ⟨g, stored, own, position⟩ := placed.placed here
  have same := placed.groupOwn stored
  exact ⟨g, by rw [same]; exact stored, same, own, position⟩

/-- Every position of a stored rollout has a group. -/
theorem Placed.exists_group (placed : Placed s) {r : Rollout} {rollout position : Nat}
    (stored : s.rollouts.get? rollout = some r) (within : position < r.groupCount) :
    ∃ g, s.groups.get? g.id = some g ∧ g.rollout = rollout ∧ g.position = position := by
  obtain ⟨id, here⟩ := placed.dense stored within
  obtain ⟨g, found, -, own⟩ := placed.at_place here
  exact ⟨g, found, own⟩

/-- The groups that are listed for a rollout are those that are stored for it. -/
theorem Placed.mem_groupsOf (placed : Placed s) {rollout : Nat} {g : RolloutGroup} :
    g ∈ s.groupsOf rollout ↔ s.groups.get? g.id = some g ∧ g.rollout = rollout := by
  simp only [Store.groupsOf, Store.valuesUnder_eq, List.mem_filterMap, Store.mem_keysUnder,
    Table.contains_iff]
  constructor
  -- A listed group is the one that stands at the listed place.
  · rintro ⟨id, ⟨position, -, here⟩, found⟩
    obtain ⟨h, stored, rfl, own, -⟩ := placed.at_place here
    have same := Option.some.inj (stored.symm.trans found)
    subst same
    exact ⟨stored, own⟩
  · rintro ⟨stored, rfl⟩
    have here := placed.place stored
    exact ⟨g.id, ⟨g.position, ⟨g.id, here⟩, here⟩, stored⟩

/-- The groups of a stored rollout are listed in the order of their positions, from zero. -/
theorem Placed.groupsOf_positions (placed : Placed s) {rollout : Nat} {r : Rollout}
    (stored : s.rollouts.get? rollout = some r) :
    (s.groupsOf rollout).map (·.position) = List.range r.groupCount := by
  -- The taken positions are those below the number of groups.
  have keys : Store.keysUnder s.groupPositions rollout = List.range r.groupCount := by
    refine Store.keysUnder_eq_range fun position => ?_
    rw [Table.contains_iff]
    constructor
    · rintro ⟨id, here⟩
      obtain ⟨g, found, -, own, rfl⟩ := placed.at_place here
      obtain ⟨other, storedOther, within⟩ := placed.within found
      rw [own, stored] at storedOther
      rw [Option.some.inj storedOther]
      exact within
    · exact placed.dense stored
  rw [Store.groupsOf, Store.valuesUnder_eq, keys, List.filterMap_filterMap, List.map_filterMap]
  -- At each position stands a group of that position.
  have each : ∀ position ∈ List.range r.groupCount,
      (((s.groupPositions.get? (rollout, position)).bind s.groups.get?).map (·.position)) =
        some position := by
    intro position member
    obtain ⟨id, here⟩ := placed.dense stored (List.mem_range.mp member)
    obtain ⟨g, found, -, own⟩ := placed.placed here
    simp [here, found, own]
  rw [List.filterMap_congr each, List.filterMap_some]

end Groups

section Changes

variable {s s' : Store}

/-- The places depend on the rollouts, the groups and their positions alone. -/
theorem Placed.unchanged (placed : Placed s) (rollouts : s'.rollouts = s.rollouts)
    (groups : ∀ id, s'.groups.get? id = s.groups.get? id)
    (positions : ∀ place, s'.groupPositions.get? place = s.groupPositions.get? place)
    (next : s'.nextNumber sequence = s.nextNumber sequence)
    (nextGroup : s'.nextNumber groupSequence = s.nextNumber groupSequence) : Placed s' := by
  -- Each clause is about the tables and the numbers that are the same.
  constructor
  case own => rw [rollouts]; exact placed.own
  case drawn => rw [rollouts, next]; exact placed.drawn
  case groupOwn => simp only [groups]; exact placed.groupOwn
  case groupDrawn => simp only [groups, nextGroup]; exact placed.groupDrawn
  case place => simp only [groups, positions]; exact placed.place
  case placed => simp only [groups, positions]; exact placed.placed
  case within => simp only [groups, rollouts]; exact placed.within
  case dense => simp only [positions, rollouts]; exact placed.dense
  case parent => simp only [groups, positions]; exact placed.parent

/-- A stored rollout may change, if it keeps its number and its groups. -/
theorem Placed.putRollout (placed : Placed s) {r r' : Rollout}
    (stored : s.rollouts.get? r.id = some r) (same : r'.id = r.id)
    (count : r'.groupCount = r.groupCount) : Placed (s.putRollout r') := by
  -- Only the record under this number is another one.
  have found (id : Nat) : (s.putRollout r').rollouts.get? id =
      if id = r.id then some r' else s.rollouts.get? id := by
    rw [← same]
    exact Table.get?_insert s.rollouts r'.id id r'
  -- What the old record says about the number and the groups, the new one says as well.
  have old {id : Nat} {other : Rollout} (here : (s.putRollout r').rollouts.get? id = some other) :
      ∃ before, s.rollouts.get? id = some before ∧ before.id = other.id ∧
        before.groupCount = other.groupCount := by
    rw [found] at here
    split at here
    · rename_i equal
      rw [← Option.some.inj here, equal]
      exact ⟨r, stored, same.symm, count.symm⟩
    · exact ⟨other, here, rfl, rfl⟩
  constructor
  case own =>
    intro id other here
    obtain ⟨before, kept, number, -⟩ := old here
    rw [← number]
    exact placed.own kept
  case drawn =>
    intro id other here
    obtain ⟨before, kept, -⟩ := old here
    exact placed.drawn kept
  case groupOwn => exact placed.groupOwn
  case groupDrawn => exact placed.groupDrawn
  case place => exact placed.place
  case placed => exact placed.placed
  case within =>
    -- The rollout of a group is the one written now, with as many groups, or another one.
    intro g here
    obtain ⟨other, kept, below⟩ := placed.within here
    rw [found]
    split
    · rename_i equal
      rw [equal, stored] at kept
      rw [← Option.some.inj kept, ← count] at below
      exact ⟨r', rfl, below⟩
    · exact ⟨other, kept, below⟩
  case dense =>
    intro rollout position other here below
    obtain ⟨before, kept, -, groups⟩ := old here
    exact placed.dense kept (by omega)
  case parent => exact placed.parent

/-- Only the group whose status changes is found anew. -/
theorem get?_putGroup (s : Store) (g : RolloutGroup) (status : GroupStatus) (id : Nat) :
    (s.putGroup { g with status := status }).groups.get? id =
      if id = g.id then some { g with status := status } else s.groups.get? id :=
  Table.get?_insert s.groups g.id id _

/-- A group whose status changes stays at its place. -/
theorem Placed.position_putGroup (placed : Placed s) {g : RolloutGroup}
    (stored : s.groups.get? g.id = some g) (status : GroupStatus) (place : Nat × Nat) :
    (s.putGroup { g with status := status }).groupPositions.get? place =
      s.groupPositions.get? place := by
  -- The place is written again with the number that it has.
  have found : (s.putGroup { g with status := status }).groupPositions.get? place =
      if place = (g.rollout, g.position) then some g.id else s.groupPositions.get? place :=
    Table.get?_insert s.groupPositions (g.rollout, g.position) place g.id
  rw [found]
  split
  · rename_i here
    rw [here, placed.place stored]
  · rfl

/-- What is found once the status of a group has changed differs in statuses only. -/
theorem putGroup_found {g h : RolloutGroup} (stored : s.groups.get? g.id = some g)
    {status : GroupStatus} {id : Nat}
    (found : (s.putGroup { g with status := status }).groups.get? id = some h) :
    ∃ before, s.groups.get? id = some before ∧ h = { before with status := h.status } := by
  -- Only the status of the group is written.
  rw [get?_putGroup] at found
  split at found
  · rename_i here
    rw [← Option.some.inj found, here]
    exact ⟨g, stored, rfl⟩
  · exact ⟨h, found, rfl⟩

/-- A change of the status of a group keeps the places. -/
theorem Placed.putGroup (placed : Placed s) {g : RolloutGroup}
    (stored : s.groups.get? g.id = some g) (status : GroupStatus) :
    Placed (s.putGroup { g with status := status }) := by
  have positions := placed.position_putGroup stored status
  -- A group that is found had its number, rollout, position and parent before.
  have old {h : RolloutGroup} (found :
      (s.putGroup { g with status := status }).groups.get? h.id = some h) :
      ∃ before, s.groups.get? before.id = some before ∧
        h = { before with status := h.status } := by
    obtain ⟨before, here, same⟩ := putGroup_found stored found
    have number : before.id = h.id := by rw [same]
    exact ⟨before, by rw [number]; exact here, same⟩
  constructor
  -- Rollouts are not touched.
  case own => exact placed.own
  case drawn => exact placed.drawn
  case groupOwn =>
    intro id h found
    obtain ⟨before, here, same⟩ := putGroup_found stored found
    rw [same]
    exact show before.id = id from placed.groupOwn here
  case groupDrawn =>
    intro id h found
    obtain ⟨before, here, -⟩ := putGroup_found stored found
    exact placed.groupDrawn here
  case place =>
    intro h found
    obtain ⟨before, here, same⟩ := old found
    rw [positions, same]
    exact placed.place (g := before) here
  case placed =>
    intro rollout position id here
    rw [positions] at here
    -- At a taken place stands the same group as before, perhaps in another status.
    obtain ⟨h, kept, own, place⟩ := placed.placed here
    rw [get?_putGroup]
    split
    · rename_i equal
      rw [equal, stored] at kept
      have same := Option.some.inj kept
      subst same
      exact ⟨_, rfl, own, place⟩
    · exact ⟨h, kept, own, place⟩
  case within =>
    intro h found
    obtain ⟨before, here, same⟩ := old found
    rw [same]
    exact placed.within (g := before) here
  case dense =>
    intro rollout position r here below
    -- The places are those of before, so what lies below a taken one is taken.
    simp only [positions]
    exact placed.dense here below
  case parent =>
    intro h found
    obtain ⟨before, here, same⟩ := old found
    rw [same]
    simp only [positions]
    exact placed.parent (g := before) here

/-- No group has a place in a rollout that is not stored. -/
theorem Placed.position_absent (placed : Placed s) {rollout position : Nat}
    (absent : s.rollouts.get? rollout = none) :
    s.groupPositions.get? (rollout, position) = none := by
  rw [Option.eq_none_iff_forall_ne_some]
  intro id here
  -- A group at the place would belong to a stored rollout.
  obtain ⟨g, found, -, own, -⟩ := placed.at_place here
  obtain ⟨r, stored, -⟩ := placed.within found
  rw [own, absent] at stored
  cases stored

/-- Nothing is stored under the next number of a rollout. -/
theorem Placed.next_absent (placed : Placed s) :
    s.rollouts.get? (s.nextNumber sequence) = none := by
  rw [Option.eq_none_iff_forall_ne_some]
  intro r found
  exact Nat.lt_irrefl _ (placed.drawn found)

end Changes

section Planting

variable {s : Store} {tenant : String} {q : Request} {members : List (List String)} {total : Nat}
  {now : Instant}

/-- A group that is found after a rollout is planted was there before or is one of the new ones. -/
theorem Placed.plant_group (placed : Placed s) {id : Nat} {g : RolloutGroup}
    (found : (s.plant tenant q members total now).groups.get? id = some g) :
    s.groups.get? id = some g ∧ g.rollout ≠ s.nextNumber sequence ∨
      ∃ i < members.length, id = s.nextNumber groupSequence + i ∧
        g = Store.laid q (s.nextNumber sequence) 0 none members (s.nextNumber groupSequence) i := by
  by_cases new : s.nextNumber groupSequence ≤ id ∧
      id < s.nextNumber groupSequence + members.length
  -- The number is one of those that the new groups have drawn.
  · obtain ⟨i, rfl⟩ := Nat.exists_eq_add_of_le new.1
    have within : i < members.length := by omega
    rw [Store.group_plant within] at found
    exact Or.inr ⟨i, within, rfl, (Option.some.inj found).symm⟩
  · rw [Store.group_plant_of_old (by omega)] at found
    -- An old group belongs to a stored rollout, so not to the new one.
    refine Or.inl ⟨found, fun own => ?_⟩
    have number := placed.groupOwn found
    obtain ⟨r, stored, -⟩ := placed.within (by rw [number]; exact found)
    rw [own, placed.next_absent] at stored
    cases stored

/-- A rollout that is found after one is planted was there before or is the new one. -/
theorem plant_rollout {id : Nat} {r : Rollout}
    (found : (s.plant tenant q members total now).rollouts.get? id = some r) :
    s.rollouts.get? id = some r ∨ id = s.nextNumber sequence ∧ r.id = id ∧
      r.groupCount = members.length ∧ r.status = .ready := by
  -- The number of the new rollout is the next one, and its record is ready.
  rw [Store.rollout_plant] at found
  split at found
  · rename_i here
    rw [← Option.some.inj found]
    exact Or.inr ⟨here, here.symm, rfl, rfl⟩
  · exact Or.inl found

/-- A planted rollout draws one number for itself and one for each of its groups. -/
theorem nextNumber_plant :
    (s.plant tenant q members total now).nextNumber sequence = s.nextNumber sequence + 1 ∧
      (s.plant tenant q members total now).nextNumber groupSequence =
        s.nextNumber groupSequence + members.length := by
  have apart : groupSequence ≠ sequence := by decide
  constructor
  · simp [Store.nextNumber_plant, Ne.symm apart]
  · simp [Store.nextNumber_plant, apart]

/-- Rollouts of other numbers stay as they were. -/
theorem rollout_plant_of_ne {id : Nat} (old : id ≠ s.nextNumber sequence) :
    (s.plant tenant q members total now).rollouts.get? id = s.rollouts.get? id := by
  rw [Store.rollout_plant, if_neg old]

/-- The places of the groups of other rollouts stay as they were. -/
theorem position_plant_of_ne {rollout position : Nat} (old : rollout ≠ s.nextNumber sequence) :
    (s.plant tenant q members total now).groupPositions.get? (rollout, position) =
      s.groupPositions.get? (rollout, position) :=
  Store.position_plant_of_old (Or.inl old)

/-- Every group that is found after a rollout is planted stands at its place. -/
theorem Placed.place_plant (placed : Placed s) {g : RolloutGroup}
    (found : (s.plant tenant q members total now).groups.get? g.id = some g) :
    (s.plant tenant q members total now).groupPositions.get? (g.rollout, g.position) =
      some g.id := by
  -- An old group keeps its place in its own rollout, and a new one takes the place it was laid at.
  rcases placed.plant_group found with ⟨old, other⟩ | ⟨i, within, number, same⟩
  · rw [position_plant_of_ne other]
    exact placed.place old
  · rw [number, same]
    simp only [Store.laid, groupOf, Nat.zero_add]
    exact Store.position_plant within

/-- At every place that is taken after a rollout is planted there is a group that belongs there. -/
theorem Placed.placed_plant (placed : Placed s) {rollout position id : Nat}
    (here : (s.plant tenant q members total now).groupPositions.get? (rollout, position) =
      some id) :
    ∃ g, (s.plant tenant q members total now).groups.get? id = some g ∧ g.rollout = rollout ∧
      g.position = position := by
  -- Places of the new rollout are taken by its groups, and all others as before.
  by_cases new : rollout = s.nextNumber sequence
  · subst new
    by_cases within : position < members.length
    · rw [Store.position_plant within] at here
      rw [← Option.some.inj here, Store.group_plant within]
      exact ⟨_, rfl, rfl, Nat.zero_add position⟩
    · -- Behind its last group the new rollout has no places.
      rw [Store.position_plant_of_old (Or.inr (by omega)),
        placed.position_absent placed.next_absent] at here
      cases here
  · rw [position_plant_of_ne new] at here
    obtain ⟨g, found, own⟩ := placed.placed here
    -- An old group has a smaller number than all new ones, so it is still found.
    have below := placed.groupDrawn found
    exact ⟨g, by rw [Store.group_plant_of_old (Or.inl below)]; exact found, own⟩

/-- Every group belongs to a stored rollout also after one is planted. -/
theorem Placed.within_plant (placed : Placed s) {g : RolloutGroup}
    (found : (s.plant tenant q members total now).groups.get? g.id = some g) :
    ∃ r, (s.plant tenant q members total now).rollouts.get? g.rollout = some r ∧
      g.position < r.groupCount := by
  rcases placed.plant_group found with ⟨old, other⟩ | ⟨i, within, -, same⟩
  · rw [rollout_plant_of_ne other]
    exact placed.within old
  · -- The new rollout counts the lists of members, of which each one has a group.
    rw [same, Store.rollout_plant]
    simp only [Store.laid, groupOf, Nat.zero_add, ↓reduceIte, Option.some.injEq,
      exists_eq_left']
    exact within

/-- No rollout has a place without a group also after one is planted. -/
theorem Placed.dense_plant (placed : Placed s) {rollout position : Nat} {r : Rollout}
    (found : (s.plant tenant q members total now).rollouts.get? rollout = some r)
    (below : position < r.groupCount) :
    ∃ id, (s.plant tenant q members total now).groupPositions.get? (rollout, position) =
      some id := by
  rcases plant_rollout found with old | ⟨new, -, count, -⟩
  · -- The number of a stored rollout has been drawn, so it is not the next one.
    have other : rollout ≠ s.nextNumber sequence := by
      have drawn := placed.drawn old
      omega
    rw [position_plant_of_ne other]
    exact placed.dense old below
  · -- The new rollout has a group for every list of members.
    rw [new]
    exact ⟨_, Store.position_plant (by omega)⟩

/-- Every group has the one in front of it as its parent also after a rollout is planted. -/
theorem Placed.parent_plant (placed : Placed s) {g : RolloutGroup}
    (found : (s.plant tenant q members total now).groups.get? g.id = some g) :
    g.parent = if g.position = 0 then none
      else (s.plant tenant q members total now).groupPositions.get?
        (g.rollout, g.position - 1) := by
  rcases placed.plant_group found with ⟨old, other⟩ | ⟨i, within, -, same⟩
  · rw [position_plant_of_ne other]
    exact placed.parent old
  · -- The parent of a new group was stored just before it.
    rw [same]
    simp only [Store.laid, groupOf, Nat.zero_add]
    split
    · rfl
    · rw [Store.position_plant (by omega)]
      simp only [Option.some.injEq]
      omega

/-- Planting a rollout keeps the places. -/
theorem Placed.plant (placed : Placed s) : Placed (s.plant tenant q members total now) := by
  obtain ⟨next, nextGroup⟩ := @nextNumber_plant s tenant q members total now
  constructor
  -- What was stored before keeps its number, which is below those that are drawn now.
  case own =>
    intro id r found
    -- A rollout is an old one, or the one that is planted under the next number.
    rcases plant_rollout found with old | ⟨-, own, -⟩
    · exact placed.own old
    · exact own
  case drawn =>
    intro id r found
    rw [next]
    rcases plant_rollout found with old | ⟨new, -⟩
    · have below := placed.drawn old
      omega
    · omega
  case groupOwn =>
    intro id g found
    -- So it is with groups, of which several are planted.
    rcases placed.plant_group found with ⟨old, -⟩ | ⟨i, -, rfl, rfl⟩
    · exact placed.groupOwn old
    · rfl
  case groupDrawn =>
    intro id g found
    rw [nextGroup]
    rcases placed.plant_group found with ⟨old, -⟩ | ⟨i, within, rfl, -⟩
    · have below := placed.groupDrawn old
      omega
    · omega
  case place => exact placed.place_plant
  case placed => exact placed.placed_plant
  case within => exact placed.within_plant
  case dense => exact placed.dense_plant
  case parent => exact placed.parent_plant

end Planting

section Removal

variable {s : Store} {rollout : Nat}

theorem rollout_removeRollout (s : Store) (rollout id : Nat) :
    (s.removeRollout rollout).2.rollouts.get? id =
      if id = rollout then none else s.rollouts.get? id := by
  simp only [Store.removeRollout]
  rw [Store.foldl_removeGroup_frame]
  exact Table.get?_erase s.rollouts rollout id

theorem nextNumber_removeRollout (s : Store) (rollout : Nat) (drawn : String) :
    (s.removeRollout rollout).2.nextNumber drawn = s.nextNumber drawn := by
  simp only [Store.removeRollout]
  rw [Store.foldl_removeGroup_frame]
  rfl

/-- The groups that are left when a rollout is removed are those of the others. -/
theorem Placed.group_removeRollout (placed : Placed s) {id : Nat} {g : RolloutGroup} :
    (s.removeRollout rollout).2.groups.get? id = some g ↔
      s.groups.get? id = some g ∧ g.rollout ≠ rollout := by
  simp only [Store.removeRollout]
  rw [Store.get?_removeGroups]
  constructor
  · intro found
    split at found
    · cases found
    -- A group of the removed rollout is listed for it, and so it is gone.
    · rename_i kept
      refine ⟨found, fun own => kept ?_⟩
      have number := placed.groupOwn found
      exact ⟨g, placed.mem_groupsOf.mpr ⟨by rw [number]; exact found, own⟩, number⟩
  · rintro ⟨found, other⟩
    rw [if_neg]
    · exact found
    -- A removed group is one of the removed rollout.
    · rintro ⟨h, member, same⟩
      obtain ⟨stored, own⟩ := placed.mem_groupsOf.mp member
      have equal := Option.some.inj ((same ▸ stored).symm.trans found)
      exact other (equal ▸ own)

/-- The places that are left when a rollout is removed are those in the others. -/
theorem Placed.position_removeRollout (placed : Placed s) {place : Nat × Nat} :
    (s.removeRollout rollout).2.groupPositions.get? place =
      if place.1 = rollout then none else s.groupPositions.get? place := by
  simp only [Store.removeRollout]
  rw [Store.position_removeGroups]
  by_cases here : place.1 = rollout
  · rw [if_pos here]
    split
    · rfl
    · rename_i kept
      -- A place without a listed group has no group at all.
      rw [Option.eq_none_iff_forall_ne_some]
      intro id found
      obtain ⟨g, stored, -, own, position⟩ := placed.at_place found
      refine kept ⟨g, placed.mem_groupsOf.mpr ⟨stored, own.trans here⟩, ?_⟩
      rw [position, ← here]
  -- Only places of the removed rollout are freed.
  · rw [if_neg here, if_neg]
    rintro ⟨g, -, same⟩
    exact here (by rw [← same])

/-- Removing a rollout keeps the places. -/
theorem Placed.removeRollout (placed : Placed s) (rollout : Nat) :
    Placed (s.removeRollout rollout).2 := by
  -- What is left was there before, in other rollouts than the removed one.
  have old {id : Nat} {r : Rollout}
      (found : (s.removeRollout rollout).2.rollouts.get? id = some r) :
      s.rollouts.get? id = some r ∧ id ≠ rollout := by
    rw [rollout_removeRollout] at found
    split at found
    · cases found
    · rename_i other
      exact ⟨found, other⟩
  -- The removal clears the places of its own rollout alone.
  have kept {other position : Nat} (apart : other ≠ rollout) :
      (s.removeRollout rollout).2.groupPositions.get? (other, position) =
        s.groupPositions.get? (other, position) := by
    rw [placed.position_removeRollout, if_neg apart]
  constructor
  -- The numbers that have been drawn stay drawn.
  case own => exact fun found => placed.own (old found).1
  case drawn =>
    intro id r found
    rw [nextNumber_removeRollout]
    exact placed.drawn (old found).1
  case groupOwn => exact fun found => placed.groupOwn (placed.group_removeRollout.mp found).1
  case groupDrawn =>
    intro id g found
    rw [nextNumber_removeRollout]
    exact placed.groupDrawn (placed.group_removeRollout.mp found).1
  -- The places of the other rollouts are kept.
  case place =>
    intro g found
    obtain ⟨stored, other⟩ := placed.group_removeRollout.mp found
    rw [kept other]
    exact placed.place stored
  case placed =>
    intro other position id here
    rw [placed.position_removeRollout] at here
    split at here
    · cases here
    · rename_i apart
      obtain ⟨g, stored, own, place⟩ := placed.placed here
      exact ⟨g, placed.group_removeRollout.mpr ⟨stored, by rw [own]; exact apart⟩, own, place⟩
  case within =>
    intro g found
    obtain ⟨stored, other⟩ := placed.group_removeRollout.mp found
    rw [rollout_removeRollout, if_neg other]
    exact placed.within stored
  case dense =>
    -- The rollout is another than the removed one, and so its places are kept.
    intro other position r found below
    obtain ⟨stored, apart⟩ := old found
    rw [kept apart]
    exact placed.dense stored below
  case parent =>
    intro g found
    obtain ⟨stored, other⟩ := placed.group_removeRollout.mp found
    rw [kept other]
    exact placed.parent stored

end Removal

section Steps

variable {s s' : Store} {id : Nat}

/-- Every step keeps the places. -/
theorem Step.placed (step : Step s s') (placed : Placed s) : Placed s' := by
  cases step with
  -- Only planning and removing change which groups there are.
  | created => exact placed.plant
  | moved r status stored => exact placed.putRollout stored rfl rfl
  | completed r stored => exact placed.putRollout stored rfl rfl
  | examined r now stored => exact placed.putRollout stored rfl rfl
  | settled r g status runs => exact placed.putGroup runs.storedGroup status
  | begun r g status runs => exact placed.putGroup runs.storedGroup status
  | removed r => exact placed.removeRollout r.id

/-- A group that is moved stays at its place. -/
theorem Placed.moveGroup (placed : Placed s) (id : Nat) (expected : List GroupStatus)
    (status : GroupStatus) : Placed (s.moveGroup id expected status).2 := by
  -- The group is stored again with another status, or nothing is stored.
  unfold Store.moveGroup
  split
  · rename_i g found
    split
    · exact placed.putGroup (by rw [placed.groupOwn found]; exact found) status
    · exact placed
  · exact placed

/-- Scheduling groups keeps the places. -/
theorem Placed.schedule (placed : Placed s) (groups : List RolloutGroup) :
    Placed (scheduleGroups groups s) := by
  induction groups generalizing s with
  | nil => exact placed
  | cons g rest ih => exact ih (placed.moveGroup g.id [.ready] .scheduled)

/-- The start of a rollout keeps the places. -/
theorem Start.placed (start : Start id s s') (placed : Placed s) : Placed s' := by
  cases start with | started r stored own =>
  subst own
  have running : Placed (s.putRollout { r with status := .running }) :=
    placed.putRollout stored rfl rfl
  exact running.schedule _

/-- The failure of a rollout keeps the places. -/
theorem Failure.placed (failure : Failure id s s') (placed : Placed s) : Placed s' := by
  cases failure with | failed r stored own =>
  subst own
  exact placed.putRollout stored rfl rfl

end Steps

end DeviceUpdate.Rollouts
