import DeviceUpdate.Proofs.Rollout.Arrangement

/-! What rollouts come to: a finished one has finished groups, and a failed one a failed group. -/

namespace DeviceUpdate.Rollouts

/-- The end of a rollout agrees with what its groups have come to. -/
structure Agrees (s : Store) (rollout : Nat) (status : RolloutStatus) : Prop where
  finished : status = .finished → ∀ {id : Nat} {g : RolloutGroup},
    s.groups.get? id = some g → g.rollout = rollout → g.status = .finished
  settled : status = .error → ∀ {id : Nat} {g : RolloutGroup},
    s.groups.get? id = some g → g.rollout = rollout → g.status = .finished ∨ g.status = .error
  failed : status = .error → ∃ (id : Nat) (g : RolloutGroup),
    s.groups.get? id = some g ∧ g.rollout = rollout ∧ g.status = .error

/-- Every stored rollout agrees with its groups. -/
def Concluded (s : Store) : Prop :=
  ∀ ⦃id : Nat⦄ ⦃r : Rollout⦄, s.rollouts.get? id = some r → Agrees s id r.status

variable {s s' : Store} {r : Rollout} {g : RolloutGroup} {id : Nat} {status : RolloutStatus}

/-- Nothing is stored at the start. -/
theorem concluded_empty : Concluded .empty := by
  intro id r found
  simp [Store.empty] at found

/-- A rollout that goes on agrees with whatever its groups do. -/
theorem Agrees.of_open (unfinished : status ≠ .finished) (sound : status ≠ .error) :
    Agrees s id status where
  finished ended := absurd ended unfinished
  settled ended := absurd ended sound
  failed ended := absurd ended sound

/-- A rollout agrees with its groups as long as they are the same. -/
theorem Agrees.unchanged (agrees : Agrees s id status) (same : ∀ {number : Nat} {g : RolloutGroup},
    g.rollout = id → (s'.groups.get? number = some g ↔ s.groups.get? number = some g)) :
    Agrees s' id status where
  finished ended _ _ found own := agrees.finished ended ((same own).mp found) own
  settled ended _ _ found own := agrees.settled ended ((same own).mp found) own
  failed ended := by
    obtain ⟨number, g, found, own, error⟩ := agrees.failed ended
    exact ⟨number, g, (same own).mpr found, own, error⟩

/-- What leaves rollouts and groups alone lets them agree. -/
theorem Concluded.unchanged (concluded : Concluded s) (rollouts : s'.rollouts = s.rollouts)
    (groups : s'.groups = s.groups) : Concluded s' := by
  intro id r found
  rw [rollouts] at found
  exact (concluded found).unchanged fun _ => by rw [groups]

/-- A rollout may take a status that agrees with its groups. -/
theorem Concluded.putRollout (concluded : Concluded s) {r : Rollout}
    (agrees : Agrees s r.id r.status) : Concluded (s.putRollout r) := by
  intro id other found
  have here : (s.putRollout r).rollouts.get? id = if id = r.id then some r
      else s.rollouts.get? id := Table.get?_insert s.rollouts r.id id r
  rw [here] at found
  -- Writing a rollout leaves the groups as they are, so only its own record could disagree.
  split at found
  · rename_i same
    rw [← Option.some.inj found, same]
    exact agrees.unchanged fun _ => Iff.rfl
  · exact (concluded found).unchanged fun _ => Iff.rfl

/-- A group of a running rollout may change. -/
theorem Concluded.putGroup (concluded : Concluded s) (runs : Runs s r g) (status : GroupStatus) :
    Concluded (s.putGroup { g with status := status }) := by
  intro id other found
  by_cases here : id = r.id
  · have same : other = r := by
      rw [here] at found
      exact Option.some.inj (found.symm.trans runs.stored)
    -- The rollout of the group runs, so it has no end to agree with.
    rw [same, runs.running]
    exact .of_open (by decide) (by decide)
  · refine (concluded found).unchanged fun {number h} own => ?_
    rw [get?_putGroup]
    split
    -- The group that changes belongs to the running rollout.
    · rename_i same
      constructor
      · intro equal
        rw [← Option.some.inj equal] at own
        exact absurd (own.symm.trans runs.own) here
      · intro stored
        rw [same, runs.storedGroup] at stored
        rw [← Option.some.inj stored] at own
        exact absurd (own.symm.trans runs.own) here
    · exact Iff.rfl

/-- A rollout whose groups have all settled takes the status that agrees with them. -/
theorem Placed.agrees_outcome (placed : Placed s)
    (settled : ∀ g ∈ s.groupsOf id, g.status.isSettled = true) :
    Agrees s id (outcomeOf (s.groupsOf id)) := by
  have listed {number : Nat} {g : RolloutGroup} (found : s.groups.get? number = some g)
      (own : g.rollout = id) : g ∈ s.groupsOf id :=
    placed.mem_groupsOf.mpr ⟨by rw [placed.groupOwn found]; exact found, own⟩
  -- Among the groups that have settled there are only those that finished and those that failed.
  have ends {g : RolloutGroup} (member : g ∈ s.groupsOf id) :
      g.status = .finished ∨ g.status = .error := by
    have settles := settled g member
    cases status : g.status <;> simp_all [GroupStatus.isSettled]
  unfold outcomeOf
  split
  -- One group has failed.
  · rename_i failed
    obtain ⟨g, member, error⟩ := List.any_eq_true.mp failed
    obtain ⟨stored, own⟩ := placed.mem_groupsOf.mp member
    constructor
    · intro ended
      cases ended
    · exact fun _ _ _ found own => ends (listed found own)
    · exact fun _ => ⟨g.id, g, stored, own, by simpa using error⟩
  -- None has failed, so each one has finished.
  · rename_i sound
    constructor
    · intro _ number g found own
      rcases ends (listed found own) with finished | error
      · exact finished
      · exact absurd (List.any_eq_true.mpr ⟨g, listed found own, by simp [error]⟩) sound
    · intro ended
      cases ended
    · intro ended
      cases ended

/-- A rollout that is planted has just begun, and its groups are its own. -/
theorem Concluded.plant (concluded : Concluded s) (placed : Placed s) (tenant : String)
    (q : Request) (members : List (List String)) (total : Nat) (now : Instant) :
    Concluded (s.plant tenant q members total now) := by
  intro id r found
  rcases plant_rollout found with old | ⟨-, -, -, ready⟩
  · have before : id ≠ s.nextNumber sequence := by
      have below := placed.drawn old
      omega
    -- No group of an older rollout is planted or overwritten.
    refine (concluded old).unchanged fun {number g} own => ⟨fun here => ?_, fun here => ?_⟩
    · rcases placed.plant_group here with ⟨stored, -⟩ | ⟨i, -, -, same⟩
      · exact stored
      · rw [same] at own
        exact absurd own.symm before
    · rw [Store.group_plant_of_old (Or.inl (placed.groupDrawn here))]
      exact here
  -- A rollout that has just been planned is ready, which claims nothing about its groups.
  · rw [ready]
    exact .of_open (by decide) (by decide)

/-- Removing a rollout leaves the others with their groups. -/
theorem Concluded.removeRollout (concluded : Concluded s) (placed : Placed s) (rollout : Nat) :
    Concluded (s.removeRollout rollout).2 := by
  intro id r found
  rw [rollout_removeRollout] at found
  split at found
  · cases found
  · rename_i other
    refine (concluded found).unchanged fun {number g} own => ?_
    -- Only groups of the removed rollout are gone.
    rw [placed.group_removeRollout, own]
    simp [other]

/-- Every step leaves rollouts and their groups in agreement. -/
theorem Step.concluded (step : Step s s') (placed : Placed s) (concluded : Concluded s) :
    Concluded s' := by
  cases step with
  -- Only a rollout that completes gets a status that its groups have to agree with.
  | created tenant q members total now => exact concluded.plant placed tenant q members total now
  | moved r status stored moves =>
    -- Administrators move rollouts to no end that their groups would have to agree with.
    refine concluded.putRollout (.of_open ?_ ?_) <;>
      (generalize r.status = old at moves; rintro rfl; cases moves)
  | completed r stored running settled =>
    exact concluded.putRollout (placed.agrees_outcome settled)
  | examined r now stored =>
    have agrees : Agrees s r.id r.status := concluded stored
    exact concluded.putRollout (r := { r with lastCheck := some now }) agrees
  | settled r g status runs => exact concluded.putGroup runs status
  | begun r g status runs => exact concluded.putGroup runs status
  | removed r => exact concluded.removeRollout placed r.id

/-- The start of a rollout leaves the others with their groups. -/
theorem Start.concluded (start : Start id s s') (placed : Placed s) (concluded : Concluded s) :
    Concluded s' := by
  cases start with | started r stored own ready =>
  subst own
  have running : Placed (s.putRollout { r with status := .running }) :=
    placed.putRollout stored rfl rfl
  have unfinished : Concluded (s.putRollout { r with status := .running }) :=
    concluded.putRollout (.of_open (by simp) (by simp))
  intro id other found
  rw [scheduleGroups_frame] at found
  by_cases here : id = r.id
  -- The rollout itself runs now.
  · have same := (Table.get?_insert s.rollouts r.id id _).symm.trans found
    rw [if_pos here] at same
    rw [← Option.some.inj same]
    exact .of_open (by simp) (by simp)
  · refine (unfinished found).unchanged fun {number g} own => ?_
    -- Groups of other rollouts are not listed, so they are not scheduled.
    have unlisted {f : RolloutGroup} (known : s.groups.get? number = some f)
        (apart : f.rollout ≠ r.id) : ¬ ∃ h ∈ s.groupsOf r.id, h.id = number := by
      rintro ⟨h, member, rfl⟩
      obtain ⟨storedH, ownH⟩ := placed.mem_groupsOf.mp member
      exact apart (by rw [Option.some.inj (known.symm.trans storedH), ownH])
    rw [running.get?_scheduleGroups, Option.map_eq_some_iff]
    constructor
    · rintro ⟨f, known, same⟩
      have rollout : f.rollout = g.rollout := by
        rw [← same]
        split <;> rfl
      have alone := unlisted known (by rw [rollout, own]; exact here)
      rw [if_neg fun listed => alone listed.1] at same
      rw [← same]
      exact known
    · intro known
      have alone := unlisted known (by rw [own]; exact here)
      exact ⟨g, known, if_neg fun listed => alone listed.1⟩

end DeviceUpdate.Rollouts
