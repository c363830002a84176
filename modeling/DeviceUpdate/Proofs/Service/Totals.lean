import DeviceUpdate.Proofs.Http.Link
import DeviceUpdate.Proofs.Rollout.Tally
import DeviceUpdate.Proofs.Rollout.Verdict
import DeviceUpdate.Proofs.Service.Accounting

/-! The totals of a rollout: its groups are counted apart, and their counts are merged. -/

namespace DeviceUpdate

open Service (tallyOf_eq)

namespace Rollouts

variable {s : Store} {tenant : String} {id : Nat} {r : Rollout} {g : RolloutGroup}

/-- The statuses that count for the members of a group; a group that waits has none of them. -/
def counted (s : Store) (r : Rollout) (g : RolloutGroup) : List (Option Status) :=
  if g.status ∈ Service.startedStatuses then coverage s r g else []

/-- The counts of all members of all groups of a rollout, taken at once. -/
def whole (s : Store) (id : Nat) (r : Rollout) : Tally :=
  .ofMembers ((s.groupsOf id).map (·.totalTargets)).sum ((s.groupsOf id).flatMap (counted s r))

/-- No more deployments are counted for a group than it has members. -/
theorem length_counted (peopled : Peopled s) (stored : s.groups.get? g.id = some g) :
    (Tally.statuses (counted s r g)).length ≤ g.totalTargets := by
  rw [← length_coverage (r := r) peopled stored]
  refine (List.length_filterMap_le id _).trans ?_
  unfold counted
  split
  · exact Nat.le_refl _
  · exact Nat.zero_le _

/-- The groups of a rollout, each with the counts of its members. -/
theorem groupCounts_eq (found : s.rollout? tenant id = some r) :
    groupCounts s tenant id = .ok ((s.groupsOf id).map fun g =>
      (g, .ofMembers g.totalTargets (counted s r g))) := by
  have own : r.tenant = tenant := by simpa using (Option.filter_eq_some_iff.mp found).2
  subst own
  rw [groupCounts, found]
  simp only [tallyOf_eq]
  rfl

/-- What is said of all groups of a rollout together, in whatever order they are taken. -/
structure Totalled (s : Store) (tenant : String) (id : Nat) (r : Rollout)
    (groups : List (RolloutGroup × Tally)) : Prop where
  given : groupCounts s tenant id = .ok groups
  listed : groups.map (·.1) = s.groupsOf id
  merged : ∀ order : List (RolloutGroup × Tally), order.Perm groups →
    Tally.mergeAll (order.map (·.2)) = whole s id r
  answered : ∀ (now : Instant) (method : Http.Method) (text : String),
    Text.unsigned? (Nat.pow 2 64) text.toList = some id →
    (Http.ManagementApi.rollout tenant text now method .groups).run s =
      (.ok (.result .ok (.object [("total", (whole s id r).toJson),
        ("groups", .ofList Http.ManagementApi.countedGroup groups)])), s)

/-- Where groups have as many members as they are said to have, their counts merge to the whole. -/
theorem totalled (peopled : Peopled s) (placed : Placed s) (found : s.rollout? tenant id = some r)
    (small : ((s.groupsOf id).map (·.totalTargets)).sum < countLimit) :
    ∃ groups, Totalled s tenant id r groups := by
  -- No group counts more members than it has, so that no count leaves its range.
  have within (g : RolloutGroup) (listed : g ∈ s.groupsOf id) :
      (Tally.statuses (counted s r g)).length ≤ g.totalTargets :=
    length_counted peopled (placed.mem_groupsOf.mp listed).1
  let groups := (s.groupsOf id).map fun g => (g, Tally.ofMembers g.totalTargets (counted s r g))
  have given : groupCounts s tenant id = .ok groups := groupCounts_eq found
  have listed : groups.map (·.1) = s.groupsOf id := by simp [groups, Function.comp_def]
  have merged (order : List (RolloutGroup × Tally)) (perm : order.Perm groups) :
      Tally.mergeAll (order.map (·.2)) = whole s id r := by
    -- However they are ordered, the groups come with their own counts.
    have own : order.map (·.2) =
        (order.map (·.1)).map fun g => Tally.ofMembers g.totalTargets (counted s r g) := by
      rw [List.map_map]
      refine List.map_congr_left fun p member => ?_
      obtain ⟨g, -, rfl⟩ := List.mem_map.mp (perm.subset member)
      rfl
    rw [own]
    exact Tally.mergeAll_perm (listed ▸ perm.map (·.1)) within small
  refine ⟨groups, given, listed, merged, fun now method text read => ?_⟩
  -- The path has the number of the rollout, and the endpoint reads the groups under it.
  have numbered : (Http.Handler.number "rollout" text).run s = (.ok id, s) := by
    simp only [Http.Handler.number, read]
    rfl
  rw [Http.ManagementApi.rollout, Http.Handler.run_bind, numbered]
  dsimp only
  rw [Http.Handler.run_bind, Http.Handler.run_look_ok given, ← merged groups (.refl groups)]
  rfl

end Rollouts

namespace Service

open Rollouts (Tally Totalled countLimit whole)

/-- Counts of parts merge to the counts of the whole, and so the totals of a rollout count all its
members at once, in whatever order its groups are merged. -/
theorem totals_merged :
    (∀ {t₁ t₂ : Nat} {m₁ m₂ : List (Option Status)},
      (Tally.statuses m₁).length ≤ t₁ → (Tally.statuses m₂).length ≤ t₂ → t₁ + t₂ < countLimit →
      (Tally.ofMembers t₁ m₁).merge (Tally.ofMembers t₂ m₂) =
        Tally.ofMembers (t₁ + t₂) (m₁ ++ m₂)) ∧
    ∀ (settings : Settings) (calls : List Call) {tenant : String} {id : Nat} {r : Rollout},
      (history settings calls).present.rollout? tenant id = some r →
      (((history settings calls).present.groupsOf id).map (·.totalTargets)).sum < countLimit →
      ∃ groups, Totalled (history settings calls).present tenant id r groups :=
  ⟨fun within₁ within₂ small => Tally.merge_ofMembers within₁ within₂ small,
    fun settings calls _ _ _ found small =>
      Rollouts.totalled (peopled_history settings calls) (coherent_history settings calls).placed
        found small⟩

set_option maxRecDepth 10000 in
/-- Two parts whose members have a state in common are counted together, and so are the group that
runs and the one that waits. -/
theorem totals_merged_launch :
    let s := (history .standard launch).present
    (Tally.ofMembers 3 [some .running, none, some .finished]).merge
          (Tally.ofMembers 2 [some .download, some .error]) =
        Tally.ofMembers 5 [some .running, none, some .finished, some .download, some .error] ∧
      (s.groupsOf 1).map (·.status) = [.running, .scheduled] ∧
      ∃ r groups, s.rollout? "t" 1 = some r ∧ Totalled s "t" 1 r groups ∧
        Rollouts.MemberState.all.map (whole s 1 r).entry =
          [none, none, some 1, none, none, none] := by
  intro s
  have totals : (s.rollout? "t" 1).map (fun r =>
      Rollouts.MemberState.all.map (whole s 1 r).entry) =
        some [none, none, some 1, none, none, none] := by
    decide +kernel
  have statuses : (s.groupsOf 1).map (·.status) = [.running, .scheduled] := by decide +kernel
  have small : ((s.groupsOf 1).map (·.totalTargets)).sum < countLimit := by decide +kernel
  obtain ⟨r, found, entries⟩ := Option.map_eq_some_iff.mp totals
  obtain ⟨groups, totalled⟩ := totals_merged.2 .standard launch found small
  exact ⟨totals_merged.1 (by decide) (by decide) (by decide), statuses,
    r, groups, found, totalled, entries⟩

end Service

end DeviceUpdate
