import DeviceUpdate.Proofs.Rollout.Coverage
import DeviceUpdate.Proofs.Rollout.Partition
import DeviceUpdate.Proofs.Rollout.Tally
import DeviceUpdate.Proofs.Service.Feasibility
import DeviceUpdate.Proofs.Service.Naming
import Mathlib.Data.List.Pairwise

/-! The accounts of rollouts: every selected target is a member, and every member counts. -/

namespace DeviceUpdate

open Deployments (Delivers Retains Serves)
open Rollouts (Commences MemberState SamePlan Served roster)

namespace Rollouts

/-- The deployments for the groups of a rollout are of its set. -/
def Provisioned (s : Store) : Prop :=
  ∀ ⦃id : Nat⦄ ⦃a : Action⦄ ⦃m : Membership⦄ ⦃g : RolloutGroup⦄ ⦃r : Rollout⦄,
    s.actions.get? id = some a → Serves a m → s.groups.get? m.group = some g →
    s.rollouts.get? g.rollout = some r → Delivers r.distributionSet a

/-- Nothing is stored at the start. -/
theorem provisioned_empty : Provisioned .empty := by
  intro id a m g r stored
  simp [Store.empty] at stored

/-- A deployment of a set that covers a member. -/
structure Covers (s : Store) (r : Rollout) (name : String) (a : Action) : Prop where
  stored : s.actions.get? a.id = some a
  tenant : a.tenant = r.tenant
  controller : a.controller = name
  delivers : Delivers r.distributionSet a

end Rollouts

namespace Service

open Rollouts (Covered Covers Enlisted Provisioned)

variable {settings : Settings} {started now : Nat → Prop} {h : History} {c : Call} {s' : Store}

section Runs

/-- Every deed leaves the deployments for groups with the sets of their rollouts. -/
theorem Deed.provisioned (deed : Deed settings h c s') (coherent : Coherent started h.present)
    (after : Coherent now s') (served : Served h.present) (provisioned : Provisioned h.present) :
    Provisioned s' := by
  intro id b m g r' stored serves found known
  obtain ⟨r, r₁, before, here, plan, origin⟩ :=
    deed.serving coherent after served stored serves found
  -- The plan of the rollout has not changed, and the set is a part of it.
  have same : r'.distributionSet = r.distributionSet := by
    rw [Option.some.inj (known.symm.trans here), plan]
  rw [same]
  -- The deployment has moved since, or it is a new one.
  rcases origin with ⟨a, f, _, _, _, was, sameGroup, rfl, listed, own⟩ | ⟨-, delivers⟩
  · have delivers : Delivers r.distributionSet a :=
      provisioned was sameGroup listed (by rw [own]; exact before)
    exact delivers
  · exact delivers

/-- In every state of every run, deployments for groups are of the sets of their rollouts. -/
theorem provisioned_history (settings : Settings) (calls : List Call) :
    Provisioned (history settings calls).present :=
  history_holds Rollouts.provisioned_empty
    (fun calls c deed => deed.provisioned (coherent_history settings calls)
      (coherent_history settings (calls ++ [c])) (served_history settings calls)) calls

/-- No deed loses a target. -/
theorem Deed.retains (deed : Deed settings h c s') (coherent : Coherent started h.present) :
    Retains h.present s' := by
  -- Rollouts are created and removed without a look at the targets.
  rcases deed.accrues coherent (accrues_retains settings) with
    retains | ⟨tenant, q, since, members, total, -, same⟩ | ⟨r, -, same⟩
  · exact retains
  · rw [same]
    exact .of_eq (Rollouts.Step.created h.present tenant q members total c.now).frame.targets
  · rw [same]
    refine .of_eq ?_
    simp only [Store.removeRollout]
    rw [Store.foldl_removeGroup_frame]

/-- However a run goes on, no target is lost. -/
theorem retains_history (settings : Settings) (calls more : List Call) :
    Retains (history settings calls).present (history settings (calls ++ more)).present := by
  -- Call by call, and no deed takes a target away.
  induction more using List.reverseRecOn with
  | nil =>
    rw [List.append_nil]
    exact .of_eq rfl
  | append_singleton more c ih =>
    have coherent := coherent_history settings (calls ++ more)
    have deed : Deed settings (history settings (calls ++ more)) c _ := c.deed _ coherent
    rw [← List.append_assoc, history_concat]
    exact ih.trans (deed.retains coherent)

end Runs

/-- The call of a run that has created a rollout, and what was planned for it. -/
structure Founded (settings : Settings) (calls : List Call) (id : Nat) (r : Rollout)
    (before : List Call) (c : Call) (q : Rollouts.Request) (since : Nat)
    (members : List (List String)) : Prop where
  initial : before ++ [c] <+: calls
  issued : c.operation = .createRollout r.tenant q since
  set : r.distributionSet = q.distributionSet
  /-- The plan may have been made in an older state than that in which it is stored. -/
  planned : Rollouts.planned (settings.tenant r.tenant) r.tenant q
    ((history settings before).ago since) = .ok (members, r.totalTargets)
  number : id = (history settings before).present.nextNumber Rollouts.sequence
  planted : (history settings (before ++ [c])).present =
    (history settings before).present.plant r.tenant q members r.totalTargets c.now

section Foundation

variable {calls before : List Call} {id since : Nat} {r : Rollout} {q : Rollouts.Request}
  {members : List (List String)}

/-- A rollout that goes on has been created by the same call. -/
theorem Founded.later {r' : Rollout}
    (founded : Founded settings calls id r before c q since members) (plan : SamePlan r r')
    (d : Call) :
    Founded settings (calls ++ [d]) id r' before c q since members where
  -- Every clause names the plan only, which is the same.
  initial := founded.initial.trans (List.prefix_append calls [d])
  issued := by
    rw [plan]
    exact founded.issued
  set := by
    rw [plan]
    exact founded.set
  planned := by
    rw [plan]
    exact founded.planned
  number := founded.number
  planted := by
    rw [plan]
    exact founded.planted

/-- Every stored rollout has been created by a call of the run. -/
theorem founded_history (settings : Settings) (calls : List Call) {id : Nat} {r : Rollout}
    (stored : (history settings calls).present.rollouts.get? id = some r) :
    ∃ before c q since members, Founded settings calls id r before c q since members := by
  -- A rollout has been planned by the last call, or it goes back to an earlier one.
  induction calls using List.reverseRecOn generalizing r with
  | nil => simp [Store.empty] at stored
  | append_singleton calls d ih =>
    have coherent := coherent_history settings calls
    have after : (history settings (calls ++ [d])).present =
        d.apply settings (history settings calls) := by
      rw [history_concat]
      rfl
    rw [after] at stored
    rcases d.continues_or_plans _ coherent with
      continues | ⟨tenant, q, since, members, total, issued, planned, same⟩
    · obtain ⟨r₀, known, plan⟩ := continues.origin stored
      obtain ⟨before, c, q, since, members, founded⟩ := ih known
      exact ⟨before, c, q, since, members, founded.later plan d⟩
    · rw [same, Store.rollout_plant] at stored
      split at stored
      -- The rollout is the one that this call plants, or it has been there before.
      · rename_i number
        refine ⟨calls, d, q, since, members, ?_⟩
        rw [← Option.some.inj stored]
        exact ⟨List.prefix_rfl, issued, rfl, planned, number, after.trans same⟩
      · obtain ⟨before, c, q, since, members, founded⟩ := ih stored
        exact ⟨before, c, q, since, members, founded.later (show SamePlan r r from rfl) d⟩

/-- A created rollout is stored by the call that creates it. -/
theorem Founded.stored (founded : Founded settings calls id r before c q since members) :
    ∃ r₀, (history settings (before ++ [c])).present.rollouts.get? id = some r₀ := by
  rw [founded.planted, Store.rollout_plant, if_pos founded.number]
  exact ⟨_, rfl⟩

/-- A rollout has the members that were planned for it, until it is removed. -/
theorem Founded.members_kept (founded : Founded settings calls id r before c q since members)
    (stored : (history settings calls).present.rollouts.get? id = some r) :
    ((history settings calls).present.groupsOf id).map
      (fun g => (history settings calls).present.membersOf g.id) = members := by
  -- The roster has not changed since the rollout was planned.
  obtain ⟨more, rfl⟩ := founded.initial
  obtain ⟨r₀, first⟩ := founded.stored
  rw [← Rollouts.roster_members, roster_history settings (before ++ [c]) more first stored,
    founded.planted, founded.number]
  exact (coherent_history settings before).placed.roster_plant (peopled_history settings before)

/-- A group of a rollout has no more members than the settings allow. -/
theorem Founded.within (founded : Founded settings calls id r before c q since members)
    (stored : (history settings calls).present.rollouts.get? id = some r) {g : RolloutGroup}
    (listed : g ∈ (history settings calls).present.groupsOf id) :
    g.totalTargets ≤ (settings.tenant r.tenant).maxGroupTargets := by
  obtain ⟨found, -⟩ := (coherent_history settings calls).placed.mem_groupsOf.mp listed
  rw [← (peopled_history settings calls).length_membersOf found]
  refine Rollouts.length_of_planned founded.planned ?_
  -- The members of the group are those that were planned for it.
  rw [← founded.members_kept stored]
  exact List.mem_map.mpr ⟨g, listed, rfl⟩

/-- Where tenants have no slashes, each selected target was planned for one group. -/
theorem Founded.selected (founded : Founded settings calls id r before c q since members)
    (slashless : ∀ c ∈ calls, c.Slashless) :
    Rollouts.select ((history settings before).ago since) r.tenant q.filter = .ok members.flatten ∧
      members.flatten.Nodup ∧ members.flatten.length = r.totalTargets ∧
      ∀ name ∈ members.flatten, (history settings before).present.targets.contains
        (Target.keyOf r.tenant name) = true := by
  obtain ⟨more, rfl⟩ := founded.initial
  -- The targets were selected in an earlier state of the same history.
  obtain ⟨earlier, ⟨rest, rfl⟩, same⟩ := history_states settings before (History.ago_mem _ since)
  have planned := founded.planned
  rw [same] at planned ⊢
  have own : Target.Slashless r.tenant :=
    slashless c (by simp) r.tenant (by rw [founded.issued]; rfl)
  have keyed := keyed_history settings earlier
  have separate : Deployments.Separate r.tenant (history settings earlier).present :=
    (plain_history settings fun d member => slashless d (by simp [member])).1.separate own
      (coherent_history settings earlier).indexed keyed
  obtain ⟨selects, nodup, total⟩ := Rollouts.planned_members keyed separate planned
  refine ⟨selects, nodup, total, fun name member => ?_⟩
  -- A selected target was known when it was selected, and no target is lost.
  obtain ⟨t, listed, named⟩ := mem_select selects member
  obtain ⟨other, found⟩ := mem_targetsOf.mp listed
  have key : t.key = Target.keyOf r.tenant other := keyed found
  rw [Target.key, separate.targets found, named] at key
  refine retains_history settings earlier rest (Table.contains_iff.mpr ⟨t, ?_⟩)
  rw [key]
  exact found

end Foundation

section Coverage

variable {calls : List Call}

/-- Where tenants have no slashes, the members of groups are known targets. -/
theorem enlisted_history (settings : Settings) (slashless : ∀ c ∈ calls, c.Slashless)
    {r : Rollout} (stored : (history settings calls).present.rollouts.get? r.id = some r) :
    Enlisted r (history settings calls).present := by
  obtain ⟨before, c, q, since, members, founded⟩ := founded_history settings calls stored
  obtain ⟨-, -, -, known⟩ := founded.selected slashless
  have kept := founded.members_kept stored
  -- The rollout was planned when the history had only its first calls.
  obtain ⟨more, rfl⟩ := founded.initial
  intro id g found own name member
  have placed := (coherent_history settings (before ++ [c] ++ more)).placed
  have number := placed.groupOwn found
  have listed := placed.mem_groupsOf.mpr ⟨by rw [number]; exact found, own⟩
  -- The member is on the plan, so it was a known target when the plan was made.
  have planned : name ∈ members.flatten := by
    rw [← kept]
    exact List.mem_flatten.mpr ⟨_, List.mem_map.mpr ⟨g, listed, rfl⟩, by rw [number]; exact member⟩
  have retains : Retains _ _ := retains_history settings before ([c] ++ more)
  rw [List.append_assoc]
  exact retains (known name planned)

/-- Where tenants have no slashes, every member of a group that has begun is supplied. -/
theorem covered_history (settings : Settings) (slashless : ∀ c ∈ calls, c.Slashless) :
    Covered (history settings calls).present := by
  induction calls using List.reverseRecOn with
  | nil => exact Rollouts.covered_empty
  | append_singleton calls c ih =>
    have earlier (d : Call) (member : d ∈ calls) : d.Slashless :=
      slashless d (List.mem_append_left _ member)
    -- What is true of all calls is true of those before the last one.
    have coherent := coherent_history settings calls
    have deed : Deed settings (history settings calls) c _ := c.deed _ coherent
    rw [history_concat]
    exact deed.covered coherent (peopled_history settings calls)
      (fun stored => enlisted_history settings earlier stored) (ih earlier)

/-- Where tenants have no slashes, each member of a group that has begun is covered. -/
theorem members_covered (settings : Settings) (slashless : ∀ c ∈ calls, c.Slashless) {id : Nat}
    {r : Rollout} (stored : (history settings calls).present.rollouts.get? id = some r)
    {g : RolloutGroup} (listed : g ∈ (history settings calls).present.groupsOf id)
    (begun : 2 ≤ g.status.rank) :
    List.Forall₂ (fun name cover => ∃ a, cover = some a ∧
        Covers (history settings calls).present r name a)
      ((history settings calls).present.membersOf g.id)
      ((history settings calls).present.memberActions r.tenant g.id r.distributionSet) := by
  have coherent := coherent_history settings calls
  have indexed := coherent.indexed
  obtain ⟨plain, rollouts⟩ := plain_history settings slashless
  -- No target has a slash in its name, so its key leads to its own actions.
  have separate := plain.separate (rollouts stored) indexed (keyed_history settings calls)
  obtain ⟨found, own⟩ := coherent.placed.mem_groupsOf.mp listed
  have known : (history settings calls).present.rollouts.get? g.rollout = some r := by
    rw [own]
    exact stored
  -- What covers a member is a deployment for the group, or else the latest one of the set.
  refine Store.coverMembers_forall₂ (fun name member => ?_) (fun name a member delivers => ?_)
    fun a member => ?_
  · obtain ⟨number, a, here, key, delivers⟩ :=
      covered_history settings slashless found begun known name member
    refine ⟨a, indexed.mem_actionsOf.mpr ⟨?_, key⟩, delivers⟩
    rw [indexed.own here]
    exact here
  -- What is listed for a member is its own, since no other tenant is listed under its key.
  · obtain ⟨here, key⟩ := indexed.mem_actionsOf.mp member
    have tenant := separate.actions member
    rw [Action.targetKey, tenant, Target.keyOf_inj] at key
    exact ⟨here, tenant, key, delivers⟩
  · obtain ⟨filed, deploys⟩ := List.mem_filter.mp member
    obtain ⟨m, names, group⟩ := coherent.filed.names filed
    have here := indexed.mem_actionsOfGroup filed
    have serves : Serves a m := ⟨by simpa using deploys, names⟩
    rw [← group] at found
    obtain ⟨r', owner, tenant⟩ := owned_history settings calls here serves found
    rw [Option.some.inj (known.symm.trans owner)]
    exact ⟨here, tenant.symm, rfl, provisioned_history settings calls here serves found owner⟩

end Coverage

/-- The statuses of groups that have been started. -/
def startedStatuses : List GroupStatus :=
  [.running, .finished, .error]

theorem rank_of_started {status : GroupStatus} (begun : status ∈ startedStatuses) :
    2 ≤ status.rank := by
  cases status <;> simp_all [startedStatuses, GroupStatus.rank]

/-- Only for started groups the deployments that cover their members are looked up. -/
theorem tallyOf_eq (s : Store) (tenant : String) (r : Rollout) (g : RolloutGroup) :
    Rollouts.tallyOf s tenant r g = .ofMembers g.totalTargets
      (if g.status ∈ startedStatuses then
        (s.memberActions tenant g.id r.distributionSet).map fun a => a.map (·.status)
      else []) := by
  unfold Rollouts.tallyOf
  cases g.status <;> rfl

/-- How a rollout has come about, and how the targets that it selected became its members. -/
structure Selected (settings : Settings) (calls : List Call) (id : Nat) (r : Rollout)
    (before : List Call) (c : Call) (targets : List String) : Prop where
  initial : before ++ [c] <+: calls
  fresh : (history settings before).present.rollouts.get? id = none
  /-- The targets may have been selected in an older state than that in which they are stored. -/
  selects : ∃ q since, c.operation = .createRollout r.tenant q since ∧
    q.distributionSet = r.distributionSet ∧
    Rollouts.select ((history settings before).ago since) r.tenant q.filter = .ok targets
  once : ∀ name ∈ targets, ∃! g, g ∈ (history settings calls).present.groupsOf id ∧
    name ∈ (history settings calls).present.membersOf g.id
  /-- Group by group, the members are the selected targets, and none of them comes twice. -/
  members : (((history settings calls).present.groupsOf id).flatMap fun g =>
    (history settings calls).present.membersOf g.id) = targets
  distinct : targets.Nodup
  kept : ∀ mid, before ++ [c] <+: mid → mid <+: calls →
    roster (history settings mid).present id = roster (history settings calls).present id

/-- What the members of a rollout are, and what they are counted as. -/
structure Accounted (settings : Settings) (calls : List Call) (id : Nat) (r : Rollout) : Prop where
  selected : ∃ before c targets, Selected settings calls id r before c targets
  members : ∀ g ∈ (history settings calls).present.groupsOf id,
    ((history settings calls).present.membersOf g.id).length = g.totalTargets
  total : (((history settings calls).present.groupsOf id).map (·.totalTargets)).sum =
    r.totalTargets
  counts : ∃ counts, Rollouts.groupCounts (history settings calls).present r.tenant id =
      .ok counts ∧
    counts.map (·.1) = (history settings calls).present.groupsOf id ∧
    ∀ g tally, (g, tally) ∈ counts → tally.total = g.totalTargets ∧
      (MemberState.all.map tally.count).sum = tally.total ∧
      (g.status ∈ startedStatuses → tally.count .notStarted = 0)
  /-- Every member of a started group has a deployment of the set, which is the one that counts. -/
  covered : ∀ g ∈ (history settings calls).present.groupsOf id, g.status ∈ startedStatuses →
    List.Forall₂ (fun name cover => ∃ a, cover = some a ∧
        Covers (history settings calls).present r name a)
      ((history settings calls).present.membersOf g.id)
      ((history settings calls).present.memberActions r.tenant g.id r.distributionSet)

section Accounts

variable {calls : List Call} {id : Nat} {r : Rollout}

/-- Where lists have no members in common, each member is in one of them. -/
theorem existsUnique_of_nodup_flatMap {α β : Type} {items : List α} {f : α → List β}
    (nodup : (items.flatMap f).Nodup) {b : β} (member : b ∈ items.flatMap f) :
    ∃! a, a ∈ items ∧ b ∈ f a := by
  obtain ⟨a, here, within⟩ := List.mem_flatMap.mp member
  refine ⟨a, ⟨here, within⟩, ?_⟩
  -- In a second list the member would stand twice.
  rintro other ⟨there, also⟩
  by_contra apart
  have symm : Std.Symm (Function.onFun List.Disjoint f) := ⟨fun _ _ => List.disjoint_symm⟩
  have disjoint := (List.nodup_flatMap.mp nodup).2.forall there here apart
  exact disjoint also within

/-- Where tenants have no slashes, the targets that a rollout has selected are its members. -/
theorem selected_history (settings : Settings) (slashless : ∀ c ∈ calls, c.Slashless)
    (stored : (history settings calls).present.rollouts.get? id = some r) :
    ∃ before c targets, Selected settings calls id r before c targets ∧
      targets.length = r.totalTargets := by
  obtain ⟨before, c, q, since, members, founded⟩ := founded_history settings calls stored
  obtain ⟨selects, nodup, total, -⟩ := founded.selected slashless
  have kept := founded.members_kept stored
  -- The groups keep the members with which the rollout was planned.
  have whole : (((history settings calls).present.groupsOf id).flatMap fun g =>
      (history settings calls).present.membersOf g.id) = members.flatten := by
    rw [← kept, List.flatMap_def]
  have placed := (coherent_history settings before).placed
  refine ⟨before, c, members.flatten, ?_, total⟩
  constructor
  case initial => exact founded.initial
  case fresh =>
    rw [founded.number]
    exact placed.next_absent
  case selects => exact ⟨q, since, founded.issued, founded.set.symm, selects⟩
  case once =>
    rw [← whole] at nodup ⊢
    exact fun name member => existsUnique_of_nodup_flatMap nodup member
  case members => exact whole
  case distinct => exact nodup
  case kept =>
    rintro mid later ⟨rest, rfl⟩
    obtain ⟨r₀, first⟩ := founded.stored
    obtain ⟨more, rfl⟩ := later
    -- The rollout is there now, so it was there in between.
    cases between : (history settings (before ++ [c] ++ more)).present.rollouts.get? id with
    | some f => exact (roster_history settings _ rest between stored).symm
    | none =>
      have drawn := (coherent_history settings (before ++ [c])).placed.drawn first
      rw [gone_history settings _ rest (Nat.lt_of_lt_of_le drawn (next_history settings _ more))
        between] at stored
      cases stored

/-- The counts of a group of a stored rollout add up, and leave no member of a started one out. -/
theorem tally_accounts (settings : Settings) (slashless : ∀ c ∈ calls, c.Slashless)
    (stored : (history settings calls).present.rollouts.get? id = some r) {g : RolloutGroup}
    (listed : g ∈ (history settings calls).present.groupsOf id) :
    let tally := Rollouts.tallyOf (history settings calls).present r.tenant r g
    tally.total = g.totalTargets ∧ (MemberState.all.map tally.count).sum = tally.total ∧
      (g.status ∈ startedStatuses → tally.count .notStarted = 0) := by
  obtain ⟨found, -⟩ := (coherent_history settings calls).placed.mem_groupsOf.mp listed
  have length := (peopled_history settings calls).length_membersOf found
  rw [tallyOf_eq]
  -- Members of a group that waits are not looked up, and all count as not started.
  split
  · rename_i begun
    have covers := members_covered settings slashless stored listed (rank_of_started begun)
    -- A member without a deployment would be missing in a group that has begun.
    have none := Rollouts.Tally.none_notStarted covers
    rw [length] at none
    refine ⟨rfl, Rollouts.Tally.sum_ofMembers ?_, fun _ => none⟩
    rw [List.length_map, ← covers.length_eq, length]
  · rename_i waits
    exact ⟨rfl, Rollouts.Tally.sum_ofMembers (Nat.zero_le _), fun begun => absurd begun waits⟩

/-- Where tenants have no slashes, every rollout is accounted for until it is removed. -/
theorem rollouts_accounted (settings : Settings) (slashless : ∀ c ∈ calls, c.Slashless)
    (stored : (history settings calls).present.rollouts.get? id = some r) :
    Accounted settings calls id r where
  selected := by
    obtain ⟨before, c, targets, selected, -⟩ := selected_history settings slashless stored
    exact ⟨before, c, targets, selected⟩
  members g listed := by
    obtain ⟨found, -⟩ := (coherent_history settings calls).placed.mem_groupsOf.mp listed
    exact (peopled_history settings calls).length_membersOf found
  -- The totals of the groups add up to the number of targets selected.
  total := by
    obtain ⟨before, c, targets, selected, total⟩ := selected_history settings slashless stored
    rw [← total, ← selected.members, List.length_flatMap]
    refine congrArg List.sum (List.map_congr_left fun g listed => ?_)
    obtain ⟨found, -⟩ := (coherent_history settings calls).placed.mem_groupsOf.mp listed
    exact ((peopled_history settings calls).length_membersOf found).symm
  counts := by
    have found : (history settings calls).present.rollout? r.tenant id = some r := by
      simp [Store.rollout?, stored]
    refine ⟨_, by rw [Rollouts.groupCounts, found]; rfl, ?_, fun g tally member => ?_⟩
    · rw [List.map_map]
      exact List.map_id _
    · obtain ⟨f, listed, same⟩ := List.mem_map.mp member
      -- The counts are those of the groups in the order of their places.
      obtain ⟨rfl, rfl⟩ := Prod.mk.inj same
      exact tally_accounts settings slashless stored listed
  covered g listed begun :=
    members_covered settings slashless stored listed (rank_of_started begun)

end Accounts

/-- The calls of the launch are issued under a tenant without a slash. -/
theorem launch_slashless : ∀ c ∈ launch, c.Slashless := by
  have plain : Target.Slashless "t" := by simp [Target.Slashless]
  intro c member tenant issued
  simp only [launch, List.mem_cons, List.not_mem_nil, or_false] at member
  rcases member with rfl | rfl | rfl | rfl | rfl <;> cases issued <;> exact plain

set_option maxRecDepth 10000 in
/-- The only target is a member of the group that runs, and counts as running there. -/
theorem rollouts_accounted_launch :
    (∀ c ∈ launch, c.Slashless) ∧
      ∃ r, (history .standard launch).present.rollouts.get? 1 = some r ∧
        ((history .standard launch).present.groupsOf 1).map (fun g =>
          (g.status, (history .standard launch).present.membersOf g.id)) =
            [(.running, ["d"]), (.scheduled, [])] ∧
        Accounted .standard launch 1 r := by
  have known : ((history .standard launch).present.rollouts.get? 1).isSome = true := by
    decide +kernel
  obtain ⟨r, stored⟩ := Option.isSome_iff_exists.mp known
  exact ⟨launch_slashless, r, stored, by decide +kernel,
    rollouts_accounted .standard launch_slashless stored⟩

end Service

end DeviceUpdate
