import DeviceUpdate.Proofs.Service.Change
import DeviceUpdate.Proofs.Service.Lifecycle

/-! The members of groups: as many as are said to be there, and those that were planned for them. -/

namespace DeviceUpdate

namespace Store

open Rollouts

/-- What is found under a first part as in a list is that list. -/
theorem valuesUnder_eq_of_get? {α : Type} {t : Table (Nat × Nat) α} {first : Nat} {l : List α}
    (found : ∀ j, t.get? (first, j) = l[j]?) : valuesUnder t first = l := by
  -- The second parts of the keys are the indices of the list, without a gap.
  have keys : keysUnder t first = List.range l.length := by
    refine keysUnder_eq_range fun j => ?_
    rw [Table.contains_iff, found]
    exact ⟨fun ⟨_, here⟩ => (List.getElem?_eq_some_iff.mp here).1,
      fun within => ⟨l[j], List.getElem?_eq_getElem within⟩⟩
  have each : (List.range l.length).map (fun j => t.get? (first, j)) = l.map some := by
    apply List.ext_getElem
    · simp
    · intro j _ _
      simp [found]
  calc valuesUnder t first
      = ((List.range l.length).map fun j => t.get? (first, j)).filterMap id := by
        rw [valuesUnder_eq, keys, List.filterMap_map]
        rfl
    _ = l := by rw [each]; simp

/-- The values under a first part depend on what is found there alone. -/
theorem valuesUnder_congr {α : Type} {t u : Table (Nat × Nat) α} {first : Nat}
    (same : ∀ j, t.get? (first, j) = u.get? (first, j)) :
    valuesUnder t first = valuesUnder u first := by
  have keys : keysUnder t first = keysUnder u first :=
    keysUnder_congr fun j => by rw [Table.contains_iff, Table.contains_iff, same]
  simp only [valuesUnder_eq, keys, same]

/-- New members stand under their group from an index on, and all others as before. -/
theorem get?_storeMembers (group index : Nat) (names : List String) (s : Store) (other j : Nat) :
    (storeMembers group index names s).members.get? (other, j) =
      if other = group ∧ index ≤ j then (names[j - index]?).or (s.members.get? (other, j))
      else s.members.get? (other, j) := by
  -- The names are stored one behind the other, from the index onwards.
  induction names generalizing index s with
  | nil => simp [storeMembers]
  | cons name rest ih =>
    have added : (s.addMember group index name).members.get? (other, j) =
        if (other, j) = (group, index) then some name else s.members.get? (other, j) :=
      Table.get?_insert s.members (group, index) (other, j) name
    rw [storeMembers, ih, added]
    by_cases own : other = group
    · subst own
      -- The first name stands at the index itself, and the rest behind it.
      rcases Nat.lt_trichotomy j index with before | rfl | after
      · simp [show ¬ index + 1 ≤ j by omega, show ¬ index ≤ j by omega, show j ≠ index by omega]
      · simp
      · have next : j - index = (j - (index + 1)) + 1 := by omega
        simp [show index + 1 ≤ j by omega, show index ≤ j by omega, show j ≠ index by omega, next]
    · simp [own]

section Plan

variable {q : Request} {rollout position : Nat} {parent : Option Nat}
  {members : List (List String)} {s : Store} {group i j : Nat}

/-- A new group has its members under its own number. -/
theorem members_layGroup (names : List String) (s : Store) (group j : Nat) :
    (s.layGroup q rollout position parent names).members.get? (group, j) =
      if group = s.nextNumber groupSequence then (names[j]?).or (s.members.get? (group, j))
      else s.members.get? (group, j) := by
  rw [layGroup, get?_storeMembers]
  simp only [Nat.zero_le, and_true, Nat.sub_zero]
  rfl

/-- Groups of other numbers than the new ones keep their members. -/
theorem members_layGroups_of_old (old : group < s.nextNumber groupSequence ∨
      s.nextNumber groupSequence + members.length ≤ group) :
    (layGroups q rollout position parent members s).members.get? (group, j) =
      s.members.get? (group, j) := by
  induction members generalizing position parent s with
  | nil => rfl
  | cons names rest ih =>
    rw [List.length_cons] at old
    -- The group in question is neither the first of the new ones nor one of the others.
    have other : group ≠ s.nextNumber groupSequence := by omega
    rw [layGroups, ih, members_layGroup, if_neg other]
    rw [nextNumber_layGroup]
    simp only [↓reduceIte]
    omega

/-- The new groups have the members that they are given. -/
theorem members_layGroups (within : i < members.length) :
    (layGroups q rollout position parent members s).members.get?
        (s.nextNumber groupSequence + i, j) =
      ((members[i]?.getD [])[j]?).or (s.members.get? (s.nextNumber groupSequence + i, j)) := by
  induction members generalizing position parent s i with
  | nil => simp at within
  | cons names rest ih =>
    have next : (s.layGroup q rollout position parent names).nextNumber groupSequence =
        s.nextNumber groupSequence + 1 := by simp [nextNumber_layGroup]
    rw [layGroups]
    cases i with
    | zero =>
      -- The later groups leave the members of the first one as they are.
      rw [members_layGroups_of_old (by rw [next]; omega), members_layGroup]
      simp
    -- Behind the first group the numbering has moved on by one.
    | succ i =>
      rw [show s.nextNumber groupSequence + (i + 1) = s.nextNumber groupSequence + 1 + i by omega,
        ← next, ih (by simpa using within), members_layGroup, if_neg (by rw [next]; omega)]
      simp

variable {tenant : String} {total : Nat} {now : Instant}

/-- Old groups keep their members when a rollout is planted. -/
theorem members_plant_of_old (old : group < s.nextNumber groupSequence ∨
      s.nextNumber groupSequence + members.length ≤ group) :
    (s.plant tenant q members total now).members.get? (group, j) = s.members.get? (group, j) := by
  rw [← nextNumber_putRollout_advance] at old
  exact members_layGroups_of_old old

/-- The groups of a planted rollout have the members that were planned. -/
theorem members_plant (within : i < members.length) :
    (s.plant tenant q members total now).members.get? (s.nextNumber groupSequence + i, j) =
      ((members[i]?.getD [])[j]?).or (s.members.get? (s.nextNumber groupSequence + i, j)) := by
  rw [← nextNumber_putRollout_advance (s := s)
    (rolloutOf q (s.nextNumber sequence) tenant total members.length now)]
  exact members_layGroups within

/-- Planting a rollout leaves the lists of actions as they are. -/
theorem plant_groupActions :
    (s.plant tenant q members total now).groupActions = s.groupActions := by
  simp only [plant, putRollout]
  rw [layGroups_frame]
  rfl

end Plan

/-- The members of the removed groups, and no others, are gone. -/
theorem members_removeGroups (rollout : Nat) (groups : List RolloutGroup) (s : Store)
    (group j : Nat) :
    (groups.foldl (removeGroup rollout) s).members.get? (group, j) =
      if ∃ g ∈ groups, g.id = group then none else s.members.get? (group, j) := by
  induction groups generalizing s with
  | nil => simp
  | cons g rest ih =>
    have filtered : (s.removeGroup rollout g).members.get? (group, j) =
        (s.members.get? (group, j)).filter fun _ => group != g.id :=
      Table.get?_filter s.members _ (group, j)
    rw [List.foldl_cons, ih, filtered]
    -- A group is removed with all of its members and with none of another group.
    by_cases here : g.id = group
    · simp [here]
    · cases s.members.get? (group, j) <;> simp [here, Ne.symm here, Option.filter]

end Store

namespace Rollouts

/-- Every stored group has as many members as it is said to have, and nothing else has members. -/
def Peopled (s : Store) : Prop :=
  ∀ ⦃group index : Nat⦄, s.members.contains (group, index) = true ↔
    ∃ g, s.groups.get? group = some g ∧ index < g.totalTargets

variable {s s' : Store} {g : RolloutGroup} {group : Nat}

/-- Nothing is stored at the start. -/
theorem peopled_empty : Peopled .empty := by
  intro group index
  simp [Store.empty, Table.contains]

/-- What is not stored has no members. -/
theorem Peopled.vacant (peopled : Peopled s) (absent : s.groups.get? group = none) (j : Nat) :
    s.members.get? (group, j) = none := by
  rw [Option.eq_none_iff_forall_ne_some]
  intro name found
  obtain ⟨g, stored, -⟩ := peopled.mp (Table.contains_iff.mpr ⟨name, found⟩)
  rw [absent] at stored
  cases stored

/-- A stored group has as many members as it is said to have. -/
theorem Peopled.length_membersOf (peopled : Peopled s) (stored : s.groups.get? group = some g) :
    (s.membersOf group).length = g.totalTargets := by
  -- The members of the group are stored under the indices below its total.
  have keys : Store.keysUnder s.members group = List.range g.totalTargets := by
    refine Store.keysUnder_eq_range fun index => peopled.trans ?_
    simp [stored]
  -- Each of the indices has its own member.
  have each : (s.membersOf group).map some =
      (List.range g.totalTargets).map fun index => s.members.get? (group, index) := by
    rw [Store.membersOf, Store.valuesUnder_eq, keys, List.map_filterMap]
    rw [← List.filterMap_eq_map]
    refine List.filterMap_congr fun index member => ?_
    obtain ⟨name, found⟩ := Table.contains_iff.mp
      (peopled.mpr ⟨g, stored, List.mem_range.mp member⟩)
    simp [found]
  have length := congrArg List.length each
  simpa using length

/-- Groups that are only moved on keep their members. -/
theorem Peopled.unchanged (peopled : Peopled s) (members : s'.members = s.members)
    (groups : ∀ id, (s'.groups.get? id).map (·.outline) = (s.groups.get? id).map (·.outline)) :
    Peopled s' := by
  intro group index
  have outlined (g : RolloutGroup) : index < g.outline.totalTargets ↔ index < g.totalTargets :=
    Iff.rfl
  rw [members, peopled, ← RolloutGroup.exists_outline_iff outlined, ← groups,
    RolloutGroup.exists_outline_iff outlined]

/-- The groups of a planted rollout have the members that were planned. -/
theorem Peopled.membersOf_plant (peopled : Peopled s) (placed : Placed s) {tenant : String}
    {q : Request} {members : List (List String)} {total : Nat} {now : Instant} {i : Nat}
    (within : i < members.length) :
    (s.plant tenant q members total now).membersOf (s.nextNumber groupSequence + i) =
      members[i]?.getD [] := by
  refine Store.valuesUnder_eq_of_get? fun j => ?_
  -- Nothing has been stored under the number of a new group before.
  have absent : s.groups.get? (s.nextNumber groupSequence + i) = none := by
    rw [Option.eq_none_iff_forall_ne_some]
    intro g found
    have below := placed.groupDrawn found
    omega
  rw [Store.members_plant within, peopled.vacant absent, Option.or_none]

/-- A rollout is planted with as many members as its groups are said to have. -/
theorem Peopled.plant (peopled : Peopled s) (placed : Placed s) (tenant : String)
    (q : Request) (members : List (List String)) (total : Nat) (now : Instant) :
    Peopled (s.plant tenant q members total now) := by
  intro group index
  by_cases new : s.nextNumber groupSequence ≤ group ∧
      group < s.nextNumber groupSequence + members.length
  -- A new group has no members but those that are stored with it.
  · obtain ⟨i, rfl⟩ := Nat.exists_eq_add_of_le new.1
    have within : i < members.length := by omega
    have absent : s.groups.get? (s.nextNumber groupSequence + i) = none := by
      rw [Option.eq_none_iff_forall_ne_some]
      intro g found
      have below := placed.groupDrawn found
      omega
    rw [Table.contains_iff, Store.members_plant within, peopled.vacant absent,
      Store.group_plant within]
    simp [Store.laid, groupOf, List.getElem?_eq_some_iff]
  -- The members of all other groups stay.
  · rw [Table.contains_iff, Store.members_plant_of_old (by omega), ← Table.contains_iff, peopled,
      Store.group_plant_of_old (by omega)]

/-- The listed groups of a rollout are those that are stored for it. -/
theorem Placed.exists_mem_groupsOf (placed : Placed s) {rollout : Nat} :
    (∃ g ∈ s.groupsOf rollout, g.id = group) ↔
      ∃ g, s.groups.get? group = some g ∧ g.rollout = rollout := by
  constructor
  · rintro ⟨g, listed, rfl⟩
    exact ⟨g, placed.mem_groupsOf.mp listed⟩
  · rintro ⟨g, stored, own⟩
    have number := placed.groupOwn stored
    exact ⟨g, placed.mem_groupsOf.mpr ⟨by rw [number]; exact stored, own⟩, number⟩

/-- The members of a group go with its rollout. -/
theorem Placed.members_removeRollout (placed : Placed s) {rollout j : Nat} :
    (s.removeRollout rollout).2.members.get? (group, j) =
      if ∃ g, s.groups.get? group = some g ∧ g.rollout = rollout then none
      else s.members.get? (group, j) := by
  simp only [Store.removeRollout]
  rw [Store.members_removeGroups]
  exact if_congr placed.exists_mem_groupsOf rfl rfl

/-- A rollout is removed together with the members of its groups. -/
theorem Peopled.removeRollout (peopled : Peopled s) (placed : Placed s) (rollout : Nat) :
    Peopled (s.removeRollout rollout).2 := by
  intro group index
  rw [Table.contains_iff, placed.members_removeRollout]
  simp only [placed.group_removeRollout]
  split
  -- With the group all of its members go.
  · rename_i gone
    obtain ⟨g, stored, own⟩ := gone
    simp [stored, own]
  -- What is left belongs to a group that is left.
  · rename_i kept
    rw [← Table.contains_iff, peopled]
    exact ⟨fun ⟨g, stored, within⟩ => ⟨g, ⟨stored, fun own => kept ⟨g, stored, own⟩⟩, within⟩,
      fun ⟨g, ⟨stored, _⟩, within⟩ => ⟨g, stored, within⟩⟩

end Rollouts

namespace Service

open Rollouts (Peopled)

variable {settings : Settings} {started : Nat → Prop} {h : History} {c : Call} {s' : Store}

/-- Single changes leave members and groups as they were planned. -/
theorem accrues_members (settings : Settings) : Accrues settings fun s s' =>
    s'.members = s.members ∧ ∀ id,
      (s'.groups.get? id).map (·.outline) = (s.groups.get? id).map (·.outline) where
  refl _ := ⟨rfl, fun _ => rfl⟩
  trans first second := ⟨second.1.trans first.1, fun id => (second.2 id).trans (first.2 id)⟩
  step step _ := ⟨step.frame.members, fun id => by rw [step.frame.groups]⟩
  resumption resumption :=
    ⟨resumption.frame.members, fun id => by rw [resumption.frame.groups]⟩
  stands stands := ⟨stands.members, stands.groups⟩

/-- Every deed leaves groups with the members that they are said to have. -/
theorem Deed.peopled (deed : Deed settings h c s') (coherent : Coherent started h.present)
    (peopled : Peopled h.present) : Peopled s' := by
  -- A call plans a rollout, removes one, or leaves all members as they are.
  rcases deed.accrues coherent (accrues_members settings) with
    ⟨members, groups⟩ | ⟨tenant, q, since, members, total, -, same⟩ | ⟨r, -, same⟩
  · exact peopled.unchanged members groups
  · rw [same]
    exact peopled.plant coherent.placed tenant q members total c.now
  · rw [same]
    exact peopled.removeRollout coherent.placed r.id

/-- In every state of every run, groups have the members that they are said to have. -/
theorem peopled_history (settings : Settings) (calls : List Call) :
    Peopled (history settings calls).present :=
  history_holds Rollouts.peopled_empty
    (fun calls _ deed => deed.peopled (coherent_history settings calls)) calls

end Service

namespace Rollouts

/-- The groups of a rollout as they were planned, with their members. -/
def roster (s : Store) (rollout : Nat) : List (RolloutGroup × List String) :=
  (s.groupsOf rollout).map fun g => (g.outline, s.membersOf g.id)

variable {s s' : Store} {rollout removed : Nat}

section Rosters

/-- A group has its place in its rollout exactly if it is stored with it. -/
theorem Placed.position_iff (placed : Placed s) {position id : Nat} :
    s.groupPositions.get? (rollout, position) = some id ↔
      ∃ g, s.groups.get? id = some g ∧ g.rollout = rollout ∧ g.position = position := by
  constructor
  · exact placed.placed
  -- The group is found under its own number, where its place leads.
  · rintro ⟨g, stored, rfl, rfl⟩
    have number := placed.groupOwn stored
    rw [← number] at stored ⊢
    exact placed.place stored

/-- Groups that are only moved on keep their places. -/
theorem Placed.position_congr (placed : Placed s) (after : Placed s')
    (groups : ∀ id, (s'.groups.get? id).map (·.outline) = (s.groups.get? id).map (·.outline))
    (position : Nat) :
    s'.groupPositions.get? (rollout, position) = s.groupPositions.get? (rollout, position) := by
  refine Option.ext fun id => ?_
  -- The place of a group is part of what stays when it is moved on.
  have outlined (g : RolloutGroup) : g.outline.rollout = rollout ∧ g.outline.position = position ↔
      g.rollout = rollout ∧ g.position = position := Iff.rfl
  rw [after.position_iff, placed.position_iff, ← RolloutGroup.exists_outline_iff outlined, groups,
    RolloutGroup.exists_outline_iff outlined]

/-- The roster depends on the places of the rollout, and on what stands there. -/
theorem Placed.roster_congr (placed : Placed s)
    (positions : ∀ position,
      s'.groupPositions.get? (rollout, position) = s.groupPositions.get? (rollout, position))
    (groups : ∀ {id : Nat} {g : RolloutGroup}, s.groups.get? id = some g → g.rollout = rollout →
      (s'.groups.get? id).map (·.outline) = some g.outline ∧
        ∀ j, s'.members.get? (id, j) = s.members.get? (id, j)) :
    roster s' rollout = roster s rollout := by
  have shape (t : Store) : roster t rollout =
      (Store.valuesUnder t.groupPositions rollout).filterMap fun id =>
        ((t.groups.get? id).map (·.outline)).map fun g => (g, t.membersOf g.id) := by
    rw [roster, Store.groupsOf, List.map_filterMap]
    simp only [Option.map_map]
    rfl
  -- The same places lead to groups of the same outline, with the same members.
  rw [shape, shape, Store.valuesUnder_congr positions]
  refine List.filterMap_congr fun id member => ?_
  -- What is listed stands at a place of the rollout.
  rw [Store.valuesUnder_eq, List.mem_filterMap] at member
  obtain ⟨position, -, here⟩ := member
  obtain ⟨g, stored, within, -⟩ := placed.placed here
  obtain ⟨outline, members⟩ := groups stored within
  have own : g.id = id := placed.groupOwn stored
  have number : g.outline.id = id := own
  rw [outline, stored, Option.map_some, Option.map_some, Option.map_some, number,
    Store.membersOf, Store.membersOf, Store.valuesUnder_congr members]

/-- The members on a roster are those of the groups of the rollout. -/
theorem roster_members (s : Store) (rollout : Nat) :
    (roster s rollout).map (·.2) = (s.groupsOf rollout).map fun g => s.membersOf g.id := by
  rw [roster, List.map_map]
  rfl

end Rosters

section Planting

variable {tenant : String} {q : Request} {members : List (List String)} {total : Nat}
  {now : Instant}

/-- Other rollouts keep their rosters when one is planted. -/
theorem Placed.roster_plant_of_old (placed : Placed s) (old : rollout ≠ s.nextNumber sequence) :
    roster (s.plant tenant q members total now) rollout = roster s rollout := by
  refine placed.roster_congr (fun position => ?_) fun {id g} stored _ => ?_
  · exact Store.position_plant_of_old (Or.inl old)
  · have drawn := placed.groupDrawn stored
    rw [Store.group_plant_of_old (Or.inl drawn), stored]
    exact ⟨rfl, fun j => Store.members_plant_of_old (Or.inl drawn)⟩

/-- A planted rollout has the groups that were planned for it, one after another. -/
theorem Placed.groupsOf_plant (placed : Placed s) :
    (s.plant tenant q members total now).groupsOf (s.nextNumber sequence) =
      (List.range members.length).map
        (Store.laid q (s.nextNumber sequence) 0 none members (s.nextNumber groupSequence)) := by
  have listed : Store.valuesUnder (s.plant tenant q members total now).groupPositions
      (s.nextNumber sequence) =
        (List.range members.length).map (s.nextNumber groupSequence + ·) := by
    refine Store.valuesUnder_eq_of_get? fun j => ?_
    -- The new groups take the first places, and the number of the rollout had none before.
    by_cases within : j < members.length
    · rw [Store.position_plant within]
      simp [within]
    · rw [Store.position_plant_of_old (Or.inr (Nat.le_of_not_lt within)),
        placed.position_absent placed.next_absent]
      simp [within]
  rw [Store.groupsOf, listed, List.filterMap_map, ← List.filterMap_eq_map]
  refine List.filterMap_congr fun i member => ?_
  exact Store.group_plant (List.mem_range.mp member)

/-- The members on the roster of a planted rollout are those that were planned. -/
theorem Placed.roster_plant (placed : Placed s) (peopled : Peopled s) :
    (roster (s.plant tenant q members total now) (s.nextNumber sequence)).map (·.2) = members := by
  rw [roster_members, placed.groupsOf_plant, List.map_map]
  -- The rosters are compared group by group, in the order of the places.
  apply List.ext_getElem
  · simp
  · intro i within _
    have below : i < members.length := by simpa using within
    have listed : (s.plant tenant q members total now).membersOf
        (s.nextNumber groupSequence + i) = members[i]?.getD [] :=
      peopled.membersOf_plant placed below
    simpa [Store.laid, groupOf, below] using listed

end Planting

/-- Other rollouts keep their rosters when one is removed. -/
theorem Placed.roster_removeRollout (placed : Placed s) (other : rollout ≠ removed) :
    roster (s.removeRollout removed).2 rollout = roster s rollout := by
  refine placed.roster_congr (fun position => ?_) fun {id g} stored own => ?_
  -- Neither the places nor the members of another rollout are touched.
  · rw [placed.position_removeRollout, if_neg other]
  · have kept := placed.group_removeRollout.mpr ⟨stored, by rw [own]; exact other⟩
    refine ⟨by rw [kept, Option.map_some], fun j => ?_⟩
    rw [placed.members_removeRollout, if_neg]
    rintro ⟨f, found, gone⟩
    exact other (own.symm.trans (Option.some.inj (stored.symm.trans found) ▸ gone))

end Rollouts

namespace Service

open Rollouts (roster)

variable {settings : Settings} {started now : Nat → Prop} {h : History} {c : Call} {s' : Store}

/-- No deed changes the roster of a rollout that is there before and after. -/
theorem Deed.roster (deed : Deed settings h c s') (coherent : Coherent started h.present)
    (after : Coherent now s') {id : Nat} {r r' : Rollout}
    (stored : h.present.rollouts.get? id = some r) (kept : s'.rollouts.get? id = some r') :
    roster s' id = roster h.present id := by
  have placed := coherent.placed
  rcases deed.accrues coherent (accrues_members settings) with
    ⟨members, groups⟩ | ⟨tenant, q, since, members, total, -, same⟩ | ⟨other, -, same⟩
  · refine placed.roster_congr (placed.position_congr after.placed groups) fun found _ => ?_
    rw [groups, found, members]
    exact ⟨rfl, fun _ => rfl⟩
  -- A rollout that is stored already is none of those that are planned now.
  · rw [same]
    refine placed.roster_plant_of_old ?_
    have below := placed.drawn stored
    omega
  -- The rollout that is removed is another one.
  · rw [same]
    refine placed.roster_removeRollout ?_
    rintro rfl
    rw [same, Rollouts.rollout_removeRollout, if_pos rfl] at kept
    cases kept

/-- However a run goes on, a rollout keeps its roster until it is removed. -/
theorem roster_history (settings : Settings) (calls more : List Call) {id : Nat} {r r' : Rollout}
    (stored : (history settings calls).present.rollouts.get? id = some r)
    (kept : (history settings (calls ++ more)).present.rollouts.get? id = some r') :
    roster (history settings (calls ++ more)).present id =
      roster (history settings calls).present id := by
  -- A rollout that is there in the end has been there all the time, so its roster is followed call
  -- by call.
  induction more using List.reverseRecOn generalizing r' with
  | nil => rw [List.append_nil]
  | append_singleton more c ih =>
    rw [← List.append_assoc] at kept ⊢
    cases between : (history settings (calls ++ more)).present.rollouts.get? id with
    -- A rollout that is gone does not come back.
    | none =>
      have drawn := (coherent_history settings calls).placed.drawn stored
      have gone := gone_history settings (calls ++ more) [c]
        (Nat.lt_of_lt_of_le drawn (next_history settings calls more)) between
      rw [gone] at kept
      cases kept
    | some f =>
      have coherent := coherent_history settings (calls ++ more)
      have after := coherent_history settings (calls ++ more ++ [c])
      rw [history_concat] at kept after ⊢
      exact ((c.deed _ coherent).roster coherent after between kept).trans (ih between)

end Service

end DeviceUpdate
