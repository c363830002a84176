import DeviceUpdate.Proofs.Deployment.Audit
import DeviceUpdate.Rollout.Lifecycle
import Mathlib.Algebra.GroupWithZero.Nat
import Mathlib.Data.List.Forall2
import Mathlib.Logic.Function.Basic

/-! Counts of members: every member of a group is counted once, in one of the states, and what is
counted in parts and merged is what is counted at once. -/

namespace DeviceUpdate

open Deployments (Delivers)

namespace Store

variable {s : Store} {tenant : String} {set : Nat}

/-- The latest deployment of a set to a target is one of those that are listed for it. -/
theorem latestDeployment?_cases (s : Store) (tenant name : String) (set : Nat) :
    (s.latestDeployment? tenant name set = none ∧ ∀ a ∈ s.actionsOf tenant name, ¬ Delivers set a) ∨
      ∃ a ∈ s.actionsOf tenant name, Delivers set a ∧
        s.latestDeployment? tenant name set = some a := by
  unfold latestDeployment?
  -- The latest deployment is the last one that passes the test, if any does.
  cases last : ((s.actionsOf tenant name).filter fun a =>
      a.deployment?.any fun d => d.distributionSet == set).getLast? with
  | none =>
    rw [List.getLast?_eq_none_iff, List.filter_eq_nil_iff] at last
    exact Or.inl ⟨rfl, last⟩
  | some a =>
    obtain ⟨listed, delivers⟩ := List.mem_filter.mp (List.mem_of_getLast? last)
    exact Or.inr ⟨a, listed, delivers, rfl⟩

/-- Where a deployment of the set is listed for each member, each is covered by what fits it. -/
theorem coverMembers_forall₂ {fits : String → Action → Prop} {members : List String}
    {own : List Action}
    (supplied : ∀ name ∈ members, ∃ a ∈ s.actionsOf tenant name, Delivers set a)
    (listed : ∀ name, ∀ a ∈ s.actionsOf tenant name, Delivers set a → fits name a)
    (ownFits : ∀ a ∈ own, fits a.controller a) :
    List.Forall₂ (fun name cover => ∃ a, cover = some a ∧ fits name a) members
      (s.coverMembers tenant set members own) := by
  -- Deployments of the group are used up as members are covered, so they vary.
  induction members generalizing own with
  | nil => exact .nil
  | cons name rest ih =>
    have others (name : String) (member : name ∈ rest) :=
      supplied name (List.mem_cons_of_mem _ member)
    rw [coverMembers]
    split
    -- A deployment of the group comes before all others.
    · rename_i a last
      obtain ⟨member, named⟩ := List.mem_filter.mp (List.mem_of_getLast? last)
      refine .cons ⟨a, rfl, ?_⟩ (ih others fun b kept => ownFits b (List.mem_of_mem_filter kept))
      rw [← beq_iff_eq.mp named]
      exact ownFits a member
    · refine .cons ?_ (ih others ownFits)
      rcases s.latestDeployment?_cases tenant name set with ⟨-, none⟩ | ⟨a, here, delivers, latest⟩
      · obtain ⟨a, here, delivers⟩ := supplied name List.mem_cons_self
        exact absurd delivers (none a here)
      · exact ⟨a, latest, listed name a here delivers⟩

end Store

namespace Rollouts

variable {total : Nat} {members : List (Option Status)}

/-- What has no entry is counted as none. -/
theorem Tally.getD_entryOf (n : Nat) : (Tally.entryOf n).getD 0 = n := by
  unfold Tally.entryOf
  split
  · rename_i none
    rw [none]
    rfl
  · rfl

/-- Members without a deployment are those that the others leave. -/
theorem Tally.count_notStarted :
    (Tally.ofMembers total members).count .notStarted =
      total - (members.filterMap id).length := by
  simp [count, ofMembers, getD_entryOf]

/-- Where a deployment covers each member, none of them counts as not started. -/
theorem Tally.none_notStarted {fits : String → Action → Prop} {names : List String}
    {covers : List (Option Action)}
    (covered : List.Forall₂ (fun name cover => ∃ a, cover = some a ∧ fits name a) names covers) :
    (Tally.ofMembers names.length (covers.map fun a => a.map (·.status))).count .notStarted =
      0 := by
  -- There are as many statuses as there are members.
  have length : ((covers.map fun a => a.map (·.status)).filterMap id).length = names.length := by
    induction covered with
    | nil => rfl
    | cons head _ ih =>
      obtain ⟨a, rfl, -⟩ := head
      simpa using ih
  rw [count_notStarted, length, Nat.sub_self]

/-- The counts of a group add up to the number of its members. -/
theorem Tally.sum_ofMembers (within : members.length ≤ total) :
    (MemberState.all.map (Tally.ofMembers total members).count).sum = total := by
  -- Every status counts for one of the states, and for none but that one.
  have each (statuses : List Status) :
      (statuses.map MemberState.ofStatus).count .scheduled +
        (statuses.map MemberState.ofStatus).count .running +
        (statuses.map MemberState.ofStatus).count .finished +
        (statuses.map MemberState.ofStatus).count .error +
        (statuses.map MemberState.ofStatus).count .cancelled = statuses.length := by
    induction statuses with
    | nil => rfl
    | cons status rest ih =>
      rw [List.map_cons, List.length_cons]
      cases status <;> simp only [MemberState.ofStatus, List.count_cons] <;> simp <;> omega
  have sum := each (members.filterMap id)
  have covered := List.length_filterMap_le id members
  simp only [MemberState.all, List.map_cons, List.map_nil, List.sum_cons, List.sum_nil,
    count_notStarted]
  simp only [count, ofMembers, reduceCtorEq, ↓reduceIte, getD_entryOf]
  -- The members without a deployment make up the rest of the total.
  omega

attribute [ext] Tally

namespace Tally

/-- The statuses of the deployments that cover members. -/
def statuses (members : List (Option Status)) : List Status :=
  members.filterMap id

theorem statuses_append (m₁ m₂ : List (Option Status)) :
    statuses (m₁ ++ m₂) = statuses m₁ ++ statuses m₂ :=
  List.filterMap_append

/-- Adds to the count of a state, which gets an entry if it has none. -/
def raise (t : Tally) (state : MemberState) (n : Nat) : Tally :=
  { t with entry := Function.update t.entry state (some ((t.count state + n) % countLimit)) }

/-- Counts deployments one after the other. -/
def enter (t : Tally) (statuses : List Status) : Tally :=
  statuses.foldl (fun t status => t.raise (.ofStatus status) 1) t

/-- The counts of members before any deployment is counted, some of whom no deployment covers. -/
def vacant (total uncovered : Nat) : Tally where
  total := total
  entry state := if state = .notStarted then entryOf uncovered else none

section Entries

theorem entryOf_pos {n : Nat} (occurs : 0 < n) : entryOf n = some n :=
  if_neg (Nat.pos_iff_ne_zero.mp occurs)

/-- An entry that has been raised is added to, whether or not the other counts have one. -/
theorem addEntries_left (n : Nat) (e : Option Nat) :
    addEntries (some (n % countLimit)) e = some ((n + e.getD 0) % countLimit) := by
  cases e with
  | none => rfl
  | some m => exact congrArg some (Nat.mod_add_mod n countLimit m)

theorem addEntries_comm (d e : Option Nat) : addEntries d e = addEntries e d := by
  cases d <;> cases e <;> simp [addEntries, Nat.add_comm]

/-- Up to whole turns of the counter, merged counts are sums. -/
theorem count_merge (a b : Tally) (state : MemberState) :
    (a.merge b).count state % countLimit = (a.count state + b.count state) % countLimit := by
  simp only [count, merge]
  cases a.entry state <;> cases b.entry state <;> simp [addEntries]

/-- States that occur in parts occur as often in the whole. -/
theorem addEntries_entryOf {m n : Nat} (small : m + n < countLimit) :
    addEntries (entryOf m) (entryOf n) = entryOf (m + n) := by
  -- An absent entry stands for zero, so zero is looked at by itself.
  rcases Nat.eq_zero_or_pos m with rfl | left
  · rcases Nat.eq_zero_or_pos n with rfl | right
    · rfl
    · rw [Nat.zero_add, entryOf_pos right]
      rfl
  · rcases Nat.eq_zero_or_pos n with rfl | right
    · rfl
    · rw [entryOf_pos left, entryOf_pos right, entryOf_pos (Nat.add_pos_left left n), addEntries,
        Nat.mod_eq_of_lt small]

end Entries

section Steps

theorem entry_raise (t : Tally) (state other : MemberState) (n : Nat) :
    (t.raise state n).entry other =
      if other = state then some ((t.count state + n) % countLimit) else t.entry other :=
  Function.update_apply t.entry state _ other

theorem entry_merge (a b : Tally) (state : MemberState) :
    (a.merge b).entry state = addEntries (a.entry state) (b.entry state) :=
  rfl

/-- It does not matter which counts are merged into which. -/
theorem merge_comm (a b : Tally) : a.merge b = b.merge a := by
  ext1
  · exact congrArg (· % countLimit) (Nat.add_comm a.total b.total)
  · funext state
    exact addEntries_comm (a.entry state) (b.entry state)

/-- What is added before other counts are merged may as well be added afterwards. -/
theorem raise_merge (a b : Tally) (state : MemberState) (n : Nat) :
    (a.raise state n).merge b = (a.merge b).raise state n := by
  -- Raising before or after the merger gives the same count, since both are taken modulo the limit.
  ext1
  · rfl
  funext other
  rw [entry_merge, entry_raise, entry_raise]
  split
  · rename_i same
    have turns : ((a.merge b).count state + n) % countLimit =
        (a.count state + n + b.count state) % countLimit := by
      rw [Nat.add_mod, count_merge, ← Nat.add_mod, Nat.add_right_comm]
    rw [addEntries_left, turns, same]
    rfl
  · rfl

end Steps

section Runs

theorem enter_append (t : Tally) (first second : List Status) :
    t.enter (first ++ second) = (t.enter first).enter second :=
  List.foldl_append

/-- Deployments that are counted before other counts are merged may as well be counted
afterwards. -/
theorem enter_merge (a b : Tally) (statuses : List Status) :
    (a.enter statuses).merge b = (a.merge b).enter statuses := by
  induction statuses generalizing a with
  | nil => rfl
  | cons status rest ih =>
    have step := ih (a.raise (.ofStatus status) 1)
    rw [raise_merge] at step
    exact step

/-- Where no deployment has been counted, only members without one are merged. -/
theorem vacant_merge {t₁ t₂ n₁ n₂ : Nat} (totals : t₁ + t₂ < countLimit)
    (uncovered : n₁ + n₂ < countLimit) :
    (vacant t₁ n₁).merge (vacant t₂ n₂) = vacant (t₁ + t₂) (n₁ + n₂) := by
  -- Only the state that has not started has an entry.
  ext1
  · exact Nat.mod_eq_of_lt totals
  funext state
  rw [entry_merge]
  unfold vacant
  dsimp only
  split
  · exact addEntries_entryOf uncovered
  · rfl

end Runs

section Members

variable {total t₁ t₂ : Nat} {members m₁ m₂ : List (Option Status)}

theorem ofStatus_ne_notStarted (status : Status) : MemberState.ofStatus status ≠ .notStarted := by
  cases status <;> decide

theorem total_enter (t : Tally) (statuses : List Status) : (t.enter statuses).total = t.total := by
  induction statuses generalizing t with
  | nil => rfl
  | cons status rest ih => exact ih (t.raise (.ofStatus status) 1)

/-- Each state that deployments are in gets an entry, which says how many of them are. -/
theorem entry_enter (total uncovered : Nat) {statuses : List Status}
    (small : statuses.length < countLimit) (state : MemberState) :
    ((vacant total uncovered).enter statuses).entry state =
      if state = .notStarted then entryOf uncovered
      else entryOf ((statuses.map MemberState.ofStatus).count state) := by
  -- The deployment that is counted last raises one count, which the others have left below it.
  induction statuses using List.reverseRecOn with
  | nil => rfl
  | append_singleton before status ih =>
    -- The last deployment raises the count of its own state and leaves the others.
    rw [List.length_append, List.length_singleton] at small
    have ih := ih (by omega)
    rw [enter_append, enter, List.foldl_cons, List.foldl_nil, entry_raise, List.map_append,
      List.count_append]
    split
    · rename_i own
      subst own
      have covered := ofStatus_ne_notStarted status
      rw [if_neg covered] at ih ⊢
      have length : (before.map MemberState.ofStatus).length = before.length := List.length_map _
      have few := List.count_le_length (a := MemberState.ofStatus status)
        (l := before.map MemberState.ofStatus)
      -- The count has stayed below the limit, so that it does not start anew.
      rw [count, ih, getD_entryOf, List.map_singleton, List.count_singleton_self,
        entryOf_pos (Nat.succ_pos _), Nat.mod_eq_of_lt (by omega)]
    · rename_i other
      rw [ih, List.map_singleton, List.count_singleton, beq_eq_false_iff_ne.mpr (Ne.symm other)]
      rfl

/-- Members are counted one after the other, once those without a deployment are known. -/
theorem ofMembers_eq_enter (small : (statuses members).length < countLimit) :
    ofMembers total members =
      -- The counts of the covered members are put on top of those who have not started.
      (vacant total (total - (statuses members).length)).enter (statuses members) := by
  ext1
  · rw [total_enter]
    rfl
  funext state
  have length : ((statuses members).map MemberState.ofStatus).length = (statuses members).length :=
    List.length_map _
  rw [entry_enter total _ small, ← length]
  rfl

/-- Counts of two parts are merged into the counts of both, entry by entry. -/
theorem merge_ofMembers (within₁ : (statuses m₁).length ≤ t₁) (within₂ : (statuses m₂).length ≤ t₂)
    (small : t₁ + t₂ < countLimit) :
    (ofMembers t₁ m₁).merge (ofMembers t₂ m₂) = ofMembers (t₁ + t₂) (m₁ ++ m₂) := by
  have uncovered : t₁ - (statuses m₁).length + (t₂ - (statuses m₂).length) =
      t₁ + t₂ - (statuses (m₁ ++ m₂)).length := by
    rw [statuses_append, List.length_append]
    omega
  have covered : (statuses (m₁ ++ m₂)).length < countLimit := by
    rw [statuses_append, List.length_append]
    omega
  -- The statuses may be entered in any order, and after the merger of the empty tallies.
  calc (ofMembers t₁ m₁).merge (ofMembers t₂ m₂)
      = ((vacant t₁ (t₁ - (statuses m₁).length)).enter (statuses m₁)).merge
          ((vacant t₂ (t₂ - (statuses m₂).length)).enter (statuses m₂)) := by
        rw [ofMembers_eq_enter (by omega), ofMembers_eq_enter (by omega)]
    _ = (((vacant t₁ (t₁ - (statuses m₁).length)).merge
          (vacant t₂ (t₂ - (statuses m₂).length))).enter (statuses m₁)).enter (statuses m₂) := by
        rw [merge_comm (enter _ _), enter_merge, merge_comm (vacant t₂ _), enter_merge]
    _ = (vacant (t₁ + t₂) (t₁ + t₂ - (statuses (m₁ ++ m₂)).length)).enter
          (statuses (m₁ ++ m₂)) := by
        rw [vacant_merge small (by omega), uncovered, ← enter_append, ← statuses_append]
    _ = ofMembers (t₁ + t₂) (m₁ ++ m₂) := (ofMembers_eq_enter covered).symm

/-- It does not matter in which order members are counted. -/
theorem ofMembers_perm (total : Nat) (perm : m₁.Perm m₂) :
    ofMembers total m₁ = ofMembers total m₂ := by
  have states := (perm.filterMap id).map MemberState.ofStatus
  ext1
  · rfl
  funext state
  simp only [ofMembers, states.length_eq, states.count_eq]

end Members

section Groups

variable {α : Type} {groups order : List α} {total : α → Nat} {members : α → List (Option Status)}

/-- Counts of several parts, merged one after the other. -/
def mergeAll (ts : List Tally) : Tally :=
  ts.foldl merge empty

theorem length_statuses_flatMap (within : ∀ g ∈ groups, (statuses (members g)).length ≤ total g) :
    (statuses (groups.flatMap members)).length ≤ (groups.map total).sum := by
  -- Each group contributes at most its total.
  induction groups with
  | nil => exact Nat.le_refl 0
  | cons g rest ih =>
    have own := within g List.mem_cons_self
    have others := ih fun f member => within f (List.mem_cons_of_mem g member)
    rw [List.flatMap_cons, statuses_append, List.length_append, List.map_cons, List.sum_cons]
    omega

/-- The merged counts of groups are those of all their members. -/
theorem mergeAll_ofMembers (within : ∀ g ∈ groups, (statuses (members g)).length ≤ total g)
    (small : (groups.map total).sum < countLimit) :
    mergeAll (groups.map fun g => ofMembers (total g) (members g)) =
      ofMembers (groups.map total).sum (groups.flatMap members) := by
  -- The group that is merged last adds its members to those of all groups before it.
  induction groups using List.reverseRecOn with
  | nil =>
    -- No state occurs, so none has an entry.
    ext1
    · rfl
    funext state
    exact (ite_self none).symm
  | append_singleton before g ih =>
    have earlier (f : α) (member : f ∈ before) := within f (List.mem_append_left _ member)
    have own := within g (List.mem_append_right _ List.mem_cons_self)
    have sum : ((before ++ [g]).map total).sum = (before.map total).sum + total g := by simp
    have flat : (before ++ [g]).flatMap members = before.flatMap members ++ members g := by simp
    rw [sum] at small
    rw [sum, flat, List.map_append, mergeAll, List.foldl_append,
      ← merge_ofMembers (length_statuses_flatMap earlier) own small, ← ih earlier (by omega)]
    rfl

/-- In whatever order groups are merged, their counts are those of all their members. -/
theorem mergeAll_perm (perm : order.Perm groups)
    (within : ∀ g ∈ groups, (statuses (members g)).length ≤ total g)
    (small : (groups.map total).sum < countLimit) :
    mergeAll (order.map fun g => ofMembers (total g) (members g)) =
      ofMembers (groups.map total).sum (groups.flatMap members) := by
  have sum := (perm.map total).sum_nat
  rw [mergeAll_ofMembers (fun g member => within g (perm.subset member)) (by omega), sum]
  exact ofMembers_perm _ (perm.flatMap_right members)

end Groups

end Tally

end Rollouts

end DeviceUpdate
