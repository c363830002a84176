import DeviceUpdate.Proofs.Result
import DeviceUpdate.Proofs.Service.Isolation
import Mathlib.Algebra.GroupWithZero.Nat
import Mathlib.Algebra.Order.Floor.Div
import Mathlib.Data.Finset.Card
import Mathlib.Data.String.Basic

/-! The division of targets into groups: every target comes into one group, and none is left. -/

namespace DeviceUpdate.Rollouts

section Pieces

variable {α : Type}

/-- Consecutive pieces, put together, are as much of the list as their sizes cover. -/
theorem flatten_pieces (sizes : List Nat) (items : List α) :
    (pieces sizes items).flatten = items.take sizes.sum := by
  induction sizes generalizing items with
  | nil => simp [pieces]
  | cons size rest ih => simp [pieces, ih, List.take_add]

/-- No piece is longer than one of the sizes. -/
theorem length_of_mem_pieces {sizes : List Nat} {items piece : List α}
    (member : piece ∈ pieces sizes items) : ∃ size ∈ sizes, piece.length ≤ size := by
  induction sizes generalizing items with
  -- The first piece is cut off and the others are cut from what is left.
  | nil => simp [pieces] at member
  | cons size rest ih =>
    rcases List.mem_cons.mp member with rfl | later
    · exact ⟨size, List.mem_cons_self, List.length_take_le size items⟩
    · obtain ⟨other, among, within⟩ := ih later
      exact ⟨other, List.mem_cons_of_mem size among, within⟩

/-- There are as many pieces as sizes. -/
theorem length_pieces (sizes : List Nat) (items : List α) :
    (pieces sizes items).length = sizes.length := by
  induction sizes generalizing items with
  | nil => rfl
  | cons size rest ih => rw [pieces, List.length_cons, List.length_cons, ih]

/-- Where the list is long enough, each piece is as long as its size says. -/
theorem map_length_pieces {sizes : List Nat} {items : List α}
    (enough : sizes.sum ≤ items.length) : (pieces sizes items).map List.length = sizes := by
  -- As long as the items suffice, each piece is as long as it is meant to be.
  induction sizes generalizing items with
  | nil => rfl
  | cons size rest ih =>
    rw [List.sum_cons] at enough
    have others : rest.sum ≤ (items.drop size).length := by
      rw [List.length_drop]
      omega
    rw [pieces, List.map_cons, ih others, List.length_take, Nat.min_eq_left (by omega)]

end Pieces

section Repetitions

variable {α : Type} [BEq α] [LawfulBEq α] {a b x : α} {items : List α}

omit [LawfulBEq α] in
/-- Of two equal items next to each other one is kept, and all items that differ. -/
theorem eraseReps_cons_cons (a b : α) (items : List α) :
    (a :: b :: items).eraseReps =
      if a == b then (a :: items).eraseReps else a :: (b :: items).eraseReps := by
  -- What has been passed stands in front, in reverse.
  have loop (a : α) (rest acc : List α) : List.eraseRepsBy.loop (· == ·) a rest acc =
      acc.reverse ++ List.eraseRepsBy.loop (· == ·) a rest [] := by
    induction rest generalizing a acc with
    | nil => simp [List.eraseRepsBy.loop]
    | cons b rest ih =>
      simp only [List.eraseRepsBy.loop]
      -- A repetition is dropped, and anything else is kept with the rest behind it.
      split
      · exact ih a acc
      · rw [ih b (a :: acc), ih b [a]]
        simp
  simp only [List.eraseReps, List.eraseRepsBy]
  rw [List.eraseRepsBy.loop]
  split
  · rename_i same
    rw [if_pos same]
  · rename_i other
    rw [if_neg (by simp [other]), loop]
    rfl

/-- Every item is kept once at least. -/
theorem mem_eraseReps : x ∈ items.eraseReps ↔ x ∈ items := by
  cases items with
  | nil => rfl
  | cons a rest =>
    -- What has been dropped is equal to what stands beside it.
    induction rest generalizing a with
    | nil => rfl
    | cons b rest ih =>
      rw [eraseReps_cons_cons]
      split
      · rename_i same
        rw [ih a, beq_iff_eq.mp same]
        simp
      · rw [List.mem_cons, ih b, List.mem_cons (a := x) (b := a)]

/-- Without repetitions next to each other, there is nothing to erase. -/
theorem eraseReps_eq_self (nodup : items.Nodup) : items.eraseReps = items := by
  cases items with
  | nil => rfl
  | cons a rest =>
    -- Without repetitions nothing is ever dropped.
    induction rest generalizing a with
    | nil => rfl
    | cons b rest ih =>
      have apart : a ≠ b := by
        simp only [List.nodup_cons, List.mem_cons, not_or] at nodup
        exact nodup.1.1
      rw [eraseReps_cons_cons, if_neg (by simpa using apart), ih b nodup.of_cons]

/-- Of items that ascend, the repetitions alone are in the way of ascending strictly. -/
theorem pairwise_eraseReps {α : Type} [LinearOrder α] [BEq α] [LawfulBEq α] {items : List α}
    (sorted : items.Pairwise (· ≤ ·)) : items.eraseReps.Pairwise (· < ·) := by
  cases items with
  | nil => exact .nil
  | cons a rest =>
    -- The list ascends, so equal items stand side by side.
    induction rest generalizing a with
    | nil => exact List.pairwise_singleton _ a
    | cons b rest ih =>
      obtain ⟨first, later⟩ := List.pairwise_cons.mp sorted
      rw [eraseReps_cons_cons]
      split
      · exact ih a (List.pairwise_cons.mpr
          ⟨fun c member => first c (List.mem_cons_of_mem b member), later.of_cons⟩)
      · rename_i other
        have before : a < b := lt_of_le_of_ne (first b List.mem_cons_self) (by simpa using other)
        refine List.pairwise_cons.mpr ⟨fun c member => before.trans_le ?_, ih b later⟩
        -- Whatever is kept behind stood behind.
        rcases List.mem_cons.mp (mem_eraseReps.mp member) with rfl | member
        · exact le_rfl
        · exact (List.pairwise_cons.mp later).1 c member

end Repetitions

section Sizes

/-- Sizes that differ by at most one add up to the whole. -/
theorem sum_evenSizes (total : Nat) {groups : Nat} (some : 0 < groups) :
    (evenSizes total groups).sum = total := by
  -- As many groups as the remainder counts take one more.
  have taken (n width more : Nat) :
      ((List.range n).map fun i => width + if i < more then 1 else 0).sum =
        n * width + min n more := by
    induction n with
    | zero => simp
    | succ n ih =>
      rw [List.range_succ, List.map_append, List.sum_append, ih, Nat.succ_mul]
      by_cases below : n < more
      · simp [below]
        omega
      · simp [below]
        omega
  have below := Nat.mod_lt total some
  -- The remainder is smaller than the number of groups, so all of it is taken.
  rw [evenSizes, taken, Nat.min_eq_right (Nat.le_of_lt below), Nat.div_add_mod]

/-- A bound holds for sizes that differ by at most one where it holds for the mean, rounded up. -/
theorem evenSizes_le_iff {total groups most : Nat} (some : 0 < groups) :
    (∀ size ∈ evenSizes total groups, size ≤ most) ↔ total ⌈/⌉ groups ≤ most := by
  have whole := Nat.div_add_mod total groups
  have below := Nat.mod_lt total some
  rw [ceilDiv_le_iff_le_mul some]
  constructor
  · -- No group is larger than the first.
    intro bounded
    have first := bounded (total / groups + if 0 < total % groups then 1 else 0)
      (List.mem_map.mpr ⟨0, List.mem_range.mpr some, rfl⟩)
    calc total = groups * (total / groups) + total % groups := whole.symm
      _ ≤ groups * (total / groups + if 0 < total % groups then 1 else 0) := by
        rw [Nat.mul_add]
        split
        · omega
        · omega
      _ ≤ groups * most := Nat.mul_le_mul_left groups first
  · intro enough size member
    obtain ⟨i, -, rfl⟩ := List.mem_map.mp member
    split
    · -- A group that takes one more stands for a remainder, which the bound has room for.
      have room : groups * (total / groups) < groups * most := by omega
      exact Nat.lt_of_mul_lt_mul_left room
    · have room : groups * (total / groups) ≤ groups * most := by omega
      exact Nat.le_of_mul_le_mul_left room some

/-- Sizes never increase, and any two of them differ by at most one. -/
def Even (sizes : List Nat) : Prop :=
  sizes.Pairwise fun before after => after ≤ before ∧ before ≤ after + 1

/-- The groups that take one more stand first. -/
theorem even_evenSizes (total groups : Nat) : Even (evenSizes total groups) := by
  rw [Even, evenSizes, List.pairwise_map]
  refine List.pairwise_lt_range.imp fun {i j} before => ?_
  split <;> split <;> omega

/-- Sizes that take all of a number of targets one after the other, however each comes about: no
size exceeds what the sizes before have left, and the last is all of it. -/
inductive Apportions : Nat → List Nat → Prop
  | last (left : Nat) : Apportions left [left]
  | more {left size : Nat} {sizes : List Nat} (within : size ≤ left)
      (others : Apportions (left - size) sizes) : Apportions left (size :: sizes)

/-- The last of the groups takes what is left, so that all of it is taken. -/
theorem Apportions.sum_eq {left : Nat} {sizes : List Nat} (apportions : Apportions left sizes) :
    sizes.sum = left := by
  induction apportions with
  | last left => simp
  | more within _ ih =>
    rw [List.sum_cons, ih]
    omega

/-- Shares are rounded to sizes of which none exceeds what is left. -/
theorem apportions_shareSizes {left position : Nat} {groups : List GroupShare} {sizes : List Nat}
    (some : groups ≠ []) (done : shareSizes left position groups = .ok sizes) :
    Apportions left sizes ∧ sizes.length = groups.length := by
  -- The last share takes whatever the ones before have left.
  induction groups generalizing left position sizes with
  | nil => exact absurd rfl some
  | cons g rest ih =>
    rw [shareSizes] at done
    split at done
    · obtain ⟨others, taken, same⟩ := Result.bind_eq_ok.mp done
      rw [← Except.ok.inj same]
      cases rest with
      | nil =>
        simp only [shareSizes, Except.ok.injEq] at taken
        rw [← taken]
        exact ⟨.last left, rfl⟩
      | cons h rest =>
        obtain ⟨apportions, counted⟩ := ih (by simp) taken
        exact ⟨.more (Nat.min_le_right _ _) apportions, by simp [counted]⟩
    · cases done

/-- The sizes of the groups of a plan add up to the number of targets. -/
theorem Plan.sum_sizes {total : Nat} {plan : Plan} {sizes : List Nat}
    (done : plan.sizes total = .ok sizes) : sizes.sum = total := by
  -- Either the amount is cut evenly or every share takes its part.
  unfold Plan.sizes at done
  split at done
  · cases done
  · rename_i n some
    rw [← Except.ok.inj done]
    exact sum_evenSizes total (Nat.pos_of_ne_zero fun zero => some (by rw [zero]))
  · cases done
  · rename_i groups some
    exact (apportions_shareSizes some done).1.sum_eq

/-- There is a size for each group of a plan. -/
theorem Plan.length_sizes {total : Nat} {plan : Plan} {sizes : List Nat}
    (done : plan.sizes total = .ok sizes) : sizes.length = plan.groupCount := by
  -- There is one size for each group of the plan.
  unfold Plan.sizes at done
  split at done
  · cases done
  · rw [← Except.ok.inj done]
    simp [evenSizes, groupCount]
  · cases done
  · rename_i groups some
    exact (apportions_shareSizes some done).2

end Sizes

section Division

/-- The distinct targets ascend. -/
theorem distinct_ascending (targets : List String) : (distinct targets).Pairwise (· < ·) := by
  refine pairwise_eraseReps ?_
  have sorted : (targets.mergeSort fun a b => decide (a ≤ b)).Pairwise
      fun a b => decide (a ≤ b) = true :=
    List.pairwise_mergeSort (fun a b c => by simpa using String.le_trans)
      (fun a b => by simpa using String.le_total a b) targets
  exact sorted.imp of_decide_eq_true

/-- The distinct targets are the targets. -/
theorem mem_distinct {targets : List String} {name : String} :
    name ∈ distinct targets ↔ name ∈ targets := by
  rw [distinct, mem_eraseReps, List.mem_mergeSort]

/-- There are as many distinct targets as the targets are, taken as a set. -/
theorem length_distinct (targets : List String) :
    (distinct targets).length = targets.toFinset.card := by
  have nodup : (distinct targets).Nodup := (distinct_ascending targets).imp ne_of_lt
  rw [← List.toFinset_card_of_nodup nodup]
  congr 1
  ext name
  rw [List.mem_toFinset, List.mem_toFinset, mem_distinct]

/-- A division cuts the distinct targets into pieces of the sizes that the plan says, where neither
the groups are too many nor one of the sizes is too large. -/
theorem partition_eq_ok {targets : List String} {plan : Plan} {limits : Limits}
    {members : List (List String)} : partition targets plan limits = .ok members ↔
      plan.groupCount ≤ limits.maxGroups ∧ ∃ sizes,
        plan.sizes targets.toFinset.card = .ok sizes ∧ (∀ size ∈ sizes, size ≤ limits.maxTargets) ∧
          pieces sizes (distinct targets) = members := by
  rw [← length_distinct]
  unfold partition
  -- Too many groups are refused before their sizes are computed.
  split
  · rename_i many
    exact ⟨nofun, fun done => absurd many (Nat.not_lt.mpr done.1)⟩
  · rename_i few
    refine Iff.trans ?_ (and_iff_right (Nat.not_lt.mp few)).symm
    refine Result.bind_eq_ok.trans (exists_congr fun sizes => and_congr_right fun _ => ?_)
    -- The first size beyond the limit is reported.
    split
    · rename_i size found
      refine ⟨nofun, fun done => ?_⟩
      have large : limits.maxTargets < size := by simpa using List.find?_some found
      exact absurd (done.1 size (List.mem_of_find?_eq_some found)) (Nat.not_le.mpr large)
    · rename_i small
      have bounded : ∀ size ∈ sizes, size ≤ limits.maxTargets := by simpa using small
      exact ⟨fun done => ⟨bounded, Except.ok.inj done⟩, fun done => congrArg Except.ok done.2⟩

/-- Every target is in one of the groups, in the order of the targets. -/
theorem partition_flatten {targets : List String} {plan : Plan} {limits : Limits}
    {members : List (List String)} (done : partition targets plan limits = .ok members) :
    members.flatten = distinct targets := by
  obtain ⟨-, sizes, measured, -, rfl⟩ := partition_eq_ok.mp done
  rw [flatten_pieces, Plan.sum_sizes measured, ← length_distinct, List.take_length]

/-- No group takes more targets than the limit allows. -/
theorem length_of_partition {targets : List String} {plan : Plan} {limits : Limits}
    {members : List (List String)} (done : partition targets plan limits = .ok members)
    {names : List String} (member : names ∈ members) : names.length ≤ limits.maxTargets := by
  obtain ⟨-, sizes, -, bounded, rfl⟩ := partition_eq_ok.mp done
  obtain ⟨size, among, within⟩ := length_of_mem_pieces member
  exact within.trans (bounded size among)

/-- Targets in ascending order without repetitions are divided as they are. -/
theorem distinct_eq_self {targets : List String}
    (sorted : targets.Pairwise fun a b => decide (a ≤ b) = true) (nodup : targets.Nodup) :
    distinct targets = targets := by
  rw [distinct, List.mergeSort_of_pairwise sorted, eraseReps_eq_self nodup]

variable {own : TenantSettings} {s : Store} {tenant filter : String} {targets : List String}

/-- The names that a filter selects ascend. -/
theorem select_sorted (done : select s tenant filter = .ok targets) :
    targets.Pairwise fun a b => decide (a ≤ b) = true := by
  unfold select at done
  split at done
  · cases done
  · rw [← Except.ok.inj done]
    -- The names are sorted by an order that is total and transitive.
    refine List.pairwise_mergeSort (fun a b c => ?_) (fun a b => ?_) _
    · simpa using String.le_trans
    · simpa using String.le_total a b

/-- The targets that are listed for a tenant have names of their own. -/
theorem targetsOf_apart (keyed : Deployments.Keyed s)
    -- The targets of the tenant are those with its name in front of theirs.
    (own : ∀ {name t}, s.target? tenant name = some t → t.tenant = tenant) :
    (s.targetsOf tenant).Pairwise fun t u => t.controller ≠ u.controller := by
  have listed {e : String × Target} (member : e ∈ s.targets.entries.filter fun e =>
      (Target.keyOf tenant "").toList.isPrefixOf e.1.toList) :
      e.1 = Target.keyOf tenant e.2.controller := by
    have here : e.2 ∈ s.targetsOf tenant := List.mem_map.mpr ⟨e, member, rfl⟩
    obtain ⟨name, found⟩ := Service.mem_targetsOf.mp here
    have key := keyed (Table.mem_entries_iff.mp (List.mem_of_mem_filter member))
    rw [← key, Target.key, own found]
  rw [Store.targetsOf, List.pairwise_map]
  -- Keys ascend, and within the tenant they tell names apart.
  refine (s.targets.ascending.filter _).imp_of_mem fun {e f} first second before same => ?_
  rw [listed first, listed second, same] at before
  simp at before

/-- A filter selects no target twice. -/
theorem select_nodup (keyed : Deployments.Keyed s)
    (own : ∀ {name t}, s.target? tenant name = some t → t.tenant = tenant)
    (done : select s tenant filter = .ok targets) : targets.Nodup := by
  unfold select at done
  split at done
  · cases done
  · rw [← Except.ok.inj done, (List.mergeSort_perm _ _).nodup_iff, List.Nodup, List.pairwise_map]
    exact (targetsOf_apart keyed own).filter _

/-- Where a tenant finds its own targets alone, each that is selected comes into one group. -/
theorem planned_members (keyed : Deployments.Keyed s) (separate : Deployments.Separate tenant s)
    {q : Request} {members : List (List String)} {total : Nat}
    (done : planned own tenant q s = .ok (members, total)) :
    select s tenant q.filter = .ok members.flatten ∧ members.flatten.Nodup ∧
      members.flatten.length = total := by
  unfold planned at done
  -- The request is valid and has a plan, and its filter has selected someone.
  obtain ⟨_, -, done⟩ := Result.bind_eq_ok.mp done
  obtain ⟨plan, -, done⟩ := Result.bind_eq_ok.mp done
  split at done
  · cases done
  obtain ⟨targets, selected, done⟩ := Result.bind_eq_ok.mp done
  obtain ⟨divided, parts, same⟩ := Result.bind_eq_ok.mp done
  obtain ⟨rfl, rfl⟩ := Prod.mk.inj (Except.ok.inj same)
  have nodup := select_nodup keyed separate.targets selected
  have whole : divided.flatten = targets := by
    rw [partition_flatten parts, distinct_eq_self (select_sorted selected) nodup]
  rw [whole]
  exact ⟨selected, nodup, rfl⟩

/-- No group is planned with more members than the settings allow. -/
theorem length_of_planned {q : Request} {members : List (List String)} {total : Nat}
    (done : planned own tenant q s = .ok (members, total)) {names : List String}
    (member : names ∈ members) : names.length ≤ own.maxGroupTargets := by
  unfold planned at done
  -- The groups come from the partition, which keeps each below the limit.
  obtain ⟨_, -, done⟩ := Result.bind_eq_ok.mp done
  obtain ⟨plan, -, done⟩ := Result.bind_eq_ok.mp done
  split at done
  · cases done
  obtain ⟨targets, -, done⟩ := Result.bind_eq_ok.mp done
  obtain ⟨divided, parts, same⟩ := Result.bind_eq_ok.mp done
  obtain ⟨rfl, -⟩ := Prod.mk.inj (Except.ok.inj same)
  exact length_of_partition parts member

end Division

section Completeness

/-- One after the other, groups are the targets in ascending order, each once. -/
structure Complete (targets : List String) (members : List (List String)) : Prop where
  ascending : members.flatten.Pairwise (· < ·)
  same : ∀ name, name ∈ members.flatten ↔ name ∈ targets

/-- Groups are a division of targets by a plan within limits. -/
structure Divides (targets : List String) (plan : Plan) (limits : Limits)
    (members : List (List String)) : Prop extends Complete targets members where
  counted : members.length = plan.groupCount
  few : members.length ≤ limits.maxGroups
  small : ∀ names ∈ members, names.length ≤ limits.maxTargets
  even : ∀ n, plan = .amount n → Even (members.map List.length)
  shares : ∀ groups, plan = .shares groups →
    Apportions targets.toFinset.card (members.map List.length)

variable {targets : List String} {plan : Plan} {limits : Limits} {sizes : List Nat}

/-- However many targets each group takes, none is lost and none repeated if all are taken. -/
theorem complete_pieces (whole : sizes.sum = targets.toFinset.card) :
    Complete targets (pieces sizes (distinct targets)) := by
  have all : (pieces sizes (distinct targets)).flatten = distinct targets := by
    rw [flatten_pieces, whole, ← length_distinct, List.take_length]
  refine ⟨?_, fun name => ?_⟩
  · rw [all]
    exact distinct_ascending targets
  · rw [all, mem_distinct]

/-- What is divided is divided by the plan. -/
theorem divides_of_partition {members : List (List String)}
    (done : partition targets plan limits = .ok members) :
    Divides targets plan limits members := by
  obtain ⟨few, sizes, measured, bounded, same⟩ := partition_eq_ok.mp done
  -- The pieces together have as many items as were selected.
  have whole := Plan.sum_sizes measured
  have counted : members.length = plan.groupCount := by
    rw [← same, length_pieces, Plan.length_sizes measured]
  have lengths : members.map List.length = sizes := by
    rw [← same]
    exact map_length_pieces (by rw [whole, length_distinct])
  refine ⟨same ▸ complete_pieces whole, counted, counted ▸ few,
    fun names member => length_of_partition done member, ?_, ?_⟩
  -- An even plan deals out the targets evenly.
  · rintro n rfl
    rw [lengths]
    unfold Plan.sizes at measured
    cases n with
    | zero => cases measured
    | succ n => exact Except.ok.inj measured ▸ even_evenSizes _ _
  -- A plan by shares takes the share of each group from what is left.
  · rintro groups rfl
    rw [lengths]
    unfold Plan.sizes at measured
    cases groups with
    | nil => cases measured
    | cons g rest => exact (apportions_shareSizes (by simp) measured).1

/-- A division into a number of groups fails for want of groups or for groups that are too many or
too large, and for nothing else. -/
theorem partition_amount_fails (targets : List String) (limits : Limits) (n : Nat) :
    (∃ e, partition targets (.amount n) limits = .error e) ↔
      n = 0 ∨ limits.maxGroups < n ∨ limits.maxTargets < targets.toFinset.card ⌈/⌉ n := by
  rw [← not_iff_not]
  calc (¬∃ e, partition targets (.amount n) limits = .error e)
      ↔ ∃ members, partition targets (.amount n) limits = .ok members := by
        -- It succeeds exactly if the number of groups and the greatest size are within the limits.
        cases partition targets (.amount n) limits <;> simp
    _ ↔ n ≤ limits.maxGroups ∧ ∃ sizes,
          Plan.sizes targets.toFinset.card (.amount n) = .ok sizes ∧
            ∀ size ∈ sizes, size ≤ limits.maxTargets := by
        simp [partition_eq_ok, Plan.groupCount]
    _ ↔ n ≤ limits.maxGroups ∧ n ≠ 0 ∧ targets.toFinset.card ⌈/⌉ n ≤ limits.maxTargets := by
        -- The greatest of the even sizes is the quotient, rounded up.
        cases n with
        | zero => simp [Plan.sizes]
        | succ n =>
          rw [← evenSizes_le_iff n.succ_pos]
          simp [Plan.sizes]
    _ ↔ ¬(n = 0 ∨ limits.maxGroups < n ∨ limits.maxTargets < targets.toFinset.card ⌈/⌉ n) := by
        rw [not_or, not_or, Nat.not_lt, Nat.not_lt, and_left_comm]

/-- Groups are complete, as many as the plan says and within the limits; a number of groups is
refused where it must be alone; and shares lose and repeat no target, however they are rounded. -/
theorem partition_complete (targets : List String) (limits : Limits) :
    (∀ plan members, partition targets plan limits = .ok members →
      Divides targets plan limits members) ∧
    (∀ n, (∃ e, partition targets (.amount n) limits = .error e) ↔
      n = 0 ∨ limits.maxGroups < n ∨ limits.maxTargets < targets.toFinset.card ⌈/⌉ n) ∧
    ∀ sizes, Apportions targets.toFinset.card sizes →
      Complete targets (pieces sizes (distinct targets)) :=
  ⟨fun _ _ => divides_of_partition, partition_amount_fails targets limits,
    fun _ apportions => complete_pieces apportions.sum_eq⟩

end Completeness

end DeviceUpdate.Rollouts
