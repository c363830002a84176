import DeviceUpdate.Deployment.Assignment
import DeviceUpdate.Proofs.Store.Execution
import DeviceUpdate.Proofs.Table
import DeviceUpdate.Store.Basic
import Mathlib.Data.List.Sort

/-! The lists that are read from tables with two-part keys, and what the store holds after writes. -/

namespace DeviceUpdate.Store

variable {κ α β : Type} [Ord κ] [BEq κ] [LawfulBEq κ]

omit [BEq κ] [LawfulBEq κ] in
private theorem compare_pair_lt [Std.ReflOrd κ] {first : κ} {i j : Nat}
    (before : compare (first, i) (first, j) = .lt) : i < j := by
  -- The first parts are equal, so the comparison is that of the second parts.
  have second : compare i j = .lt := by
    simpa [compare, compareLex, compareOn, Ordering.then_eq_lt] using before
  exact Nat.compare_eq_lt.mp second

/-- The second parts of the keys under a first part ascend strictly. -/
theorem keysUnder_pairwise [Std.ReflOrd κ] (t : Table (κ × Nat) α) (first : κ) :
    (keysUnder t first).Pairwise (· < ·) := by
  simp only [keysUnder, Table.keys, List.pairwise_map, List.filter_map]
  -- The keys of the table ascend, and those that are kept stay in that order.
  refine (t.ascending.filter _).imp_of_mem ?_
  rintro ⟨⟨firstA, i⟩, _⟩ ⟨⟨firstB, j⟩, _⟩ memberA memberB before
  -- Both keys carry the given first part.
  have sameA : firstA = first := by simpa using (List.mem_filter.mp memberA).2
  have sameB : firstB = first := by simpa using (List.mem_filter.mp memberB).2
  subst sameA sameB
  exact compare_pair_lt before

/-- A number stands under a first part exactly if the two together are a key. -/
theorem mem_keysUnder [Std.OrientedOrd κ] [Std.LawfulEqOrd κ] {t : Table (κ × Nat) α}
    {first : κ} {i : Nat} : i ∈ keysUnder t first ↔ t.contains (first, i) = true := by
  simp only [keysUnder, Table.keys, List.mem_map, List.mem_filter, beq_iff_eq,
    Table.contains_iff]
  constructor
  -- A listed number comes from an entry, and the entry is found under its key.
  · rintro ⟨key, ⟨⟨entry, member, rfl⟩, rfl⟩, rfl⟩
    exact ⟨entry.2, Table.mem_entries_iff.mp member⟩
  · rintro ⟨value, found⟩
    exact ⟨(first, i), ⟨⟨_, Table.mem_entries_iff.mpr found, rfl⟩, rfl⟩, rfl⟩

/-- Two tables with the same keys under a first part list the same numbers there. -/
theorem keysUnder_congr [Std.OrientedOrd κ] [Std.LawfulEqOrd κ] {t : Table (κ × Nat) α}
    {u : Table (κ × Nat) β} {first : κ}
    (same : ∀ i, t.contains (first, i) = true ↔ u.contains (first, i) = true) :
    keysUnder t first = keysUnder u first := by
  -- A strictly ascending list is determined by its members.
  apply (keysUnder_pairwise t first).eq_of_mem_iff (keysUnder_pairwise u first)
  intro i
  rw [mem_keysUnder, mem_keysUnder, same]

/-- Keys whose second parts are the first so many numbers are listed as that range. -/
theorem keysUnder_eq_range [Std.OrientedOrd κ] [Std.LawfulEqOrd κ] {t : Table (κ × Nat) α}
    {first : κ} {n : Nat} (dense : ∀ i, t.contains (first, i) = true ↔ i < n) :
    keysUnder t first = List.range n := by
  -- Both lists ascend strictly and have the same members.
  apply (keysUnder_pairwise t first).eq_of_mem_iff List.pairwise_lt_range
  intro i
  rw [mem_keysUnder, dense, List.mem_range]

/-- The values under a first part are found under its keys, in their order. -/
theorem valuesUnder_eq [Std.OrientedOrd κ] [Std.LawfulEqOrd κ] (t : Table (κ × Nat) α)
    (first : κ) :
    valuesUnder t first = (keysUnder t first).filterMap fun i => t.get? (first, i) := by
  -- Each selected entry is what its own key finds.
  simp only [valuesUnder, keysUnder, Table.keys, List.filter_map, List.map_map,
    List.filterMap_map]
  rw [← List.filterMap_eq_map]
  apply List.filterMap_congr
  rintro ⟨⟨firstA, i⟩, value⟩ member
  obtain ⟨stored, here⟩ := List.mem_filter.mp member
  have same : firstA = first := by simpa using here
  subst same
  exact (Table.mem_entries_iff.mp stored).symm

/-- A key behind all those under its first part is listed behind them. -/
theorem keysUnder_insert_last [DecidableEq κ] [Std.TransOrd κ] [Std.LawfulEqOrd κ]
    (t : Table (κ × Nat) α) {first : κ} {i : Nat} (value : α)
    (last : ∀ j ∈ keysUnder t first, j < i) :
    keysUnder (t.insert (first, i) value) first = keysUnder t first ++ [i] := by
  -- The new position is the greatest, so it belongs at the end.
  have ascending : (keysUnder t first ++ [i]).Pairwise (· < ·) := by
    refine List.pairwise_append.mpr ⟨keysUnder_pairwise t first, List.pairwise_singleton _ i, ?_⟩
    intro j member k single
    rw [List.mem_singleton.mp single]
    exact last j member
  -- Both lists ascend strictly and have the same members.
  apply (keysUnder_pairwise _ first).eq_of_mem_iff ascending
  intro j
  rw [mem_keysUnder, Table.contains_insert, List.mem_append, List.mem_singleton, mem_keysUnder,
    Prod.mk.injEq]
  exact ⟨fun or => or.symm.imp_right And.right, fun or => or.symm.imp_left fun same => ⟨rfl, same⟩⟩

/-- A value behind all those under a first part is listed behind them. -/
theorem valuesUnder_insert_last [DecidableEq κ] [Std.TransOrd κ] [Std.LawfulEqOrd κ]
    (t : Table (κ × Nat) α) {first : κ} {i : Nat} (value : α)
    (last : ∀ j ∈ keysUnder t first, j < i) :
    valuesUnder (t.insert (first, i) value) first = valuesUnder t first ++ [value] := by
  -- The keys are those from before and the new one.
  rw [valuesUnder_eq, valuesUnder_eq, keysUnder_insert_last t value last, List.filterMap_append]
  -- What stands under the other keys is found as before.
  have others :
      (keysUnder t first).filterMap (fun j => (t.insert (first, i) value).get? (first, j)) =
      (keysUnder t first).filterMap fun j => t.get? (first, j) := by
    apply List.filterMap_congr
    intro j member
    have before := last j member
    rw [Table.get?_insert, if_neg (by simp only [Prod.mk.injEq, true_and]; omega)]
  rw [others]
  simp [Table.get?_insert]

end DeviceUpdate.Store

namespace DeviceUpdate

/-- The entry of the log in which the server remarks on an action. -/
def Action.remark (a : Action) (now : Instant) (message : String) : LogEntry :=
  ⟨a.id, 0, a.status, .system, now, none, [message]⟩

/-- The entry of the log for a report of the device on an action. -/
def Feedback.entry (f : Feedback) (action : Nat) (logged : Status) (now : Instant) : LogEntry :=
  ⟨action, 0, logged, .device, now, f.code, f.logMessages⟩

namespace Store

/-- The store after an action is stored together with a new entry of a log. -/
def record (s : Store) (a : Action) (e : LogEntry) : Store :=
  (s.putAction a).append e

section Record

variable (s : Store) (a : Action) (e : LogEntry)

@[simp] theorem record_sequences : (s.record a e).sequences = s.sequences := rfl

/-- Only the stored action is found anew. -/
@[simp] theorem get?_putAction (id : Nat) :
    (s.putAction a).actions.get? id = if id = a.id then some a else s.actions.get? id :=
  Table.get?_insert s.actions a.id id a

/-- Only the recorded action is found anew. -/
@[simp] theorem get?_record (id : Nat) :
    (s.record a e).actions.get? id = if id = a.id then some a else s.actions.get? id :=
  s.get?_putAction a id

/-- Only the recorded action is listed anew, under the key of its target. -/
theorem listed_record (key : String) (id : Nat) :
    (s.record a e).targetActions.contains (key, id) = true ↔
      (key, id) = (a.targetKey, a.id) ∨ s.targetActions.contains (key, id) = true :=
  Table.contains_insert s.targetActions (a.targetKey, a.id) (key, id) ()

/-- A new entry stands under a key of its own action. -/
theorem get?_log_append {id : Nat} (other : id ≠ e.action) (i : Nat) :
    (s.append e).log.get? (id, i) = s.log.get? (id, i) := by
  rw [show (s.append e).log = s.log.insert (e.action, s.nextPosition e.action)
    { e with position := s.nextPosition e.action } from rfl, Table.get?_insert]
  simp [other]

/-- The logs of other actions are found as they were when an action is recorded. -/
theorem get?_log_record {id : Nat} (other : id ≠ e.action) (i : Nat) :
    (s.record a e).log.get? (id, i) = s.log.get? (id, i) :=
  (s.putAction a).get?_log_append e other i

/-- The positions that are taken in the logs of other actions stay as they are. -/
theorem keysUnder_record {id : Nat} (other : id ≠ e.action) :
    keysUnder (s.record a e).log id = keysUnder s.log id :=
  keysUnder_congr fun i => by
    rw [Table.contains_iff, Table.contains_iff, get?_log_record s a e other]

/-- The logs of all actions but that of the entry stay as they are. -/
theorem logOf_record {id : Nat} (other : id ≠ e.action) :
    (s.record a e).logOf id = s.logOf id := by
  simp only [logOf, valuesUnder_eq, keysUnder_record s a e other, get?_log_record s a e other]

/-- The next position of a log is behind all that are taken. -/
theorem lt_nextPosition {id i : Nat} (member : i ∈ keysUnder s.log id) : i < s.nextPosition id := by
  have ascending := keysUnder_pairwise s.log id
  unfold nextPosition
  split
  · rename_i last found
    -- The positions ascend, so the last one is the highest.
    obtain ⟨before, here⟩ := List.getLast?_eq_some_iff.mp found
    rw [here] at member ascending
    rcases List.mem_append.mp member with earlier | same
    · have below :=
        (List.pairwise_append.mp ascending).2.2 i earlier last (List.mem_singleton_self _)
      omega
    · rw [List.mem_singleton.mp same]
      omega
  -- Without any entry there is no member to be below.
  · rename_i none
    rw [List.getLast?_eq_none_iff.mp none] at member
    cases member

/-- The position of a new entry is taken behind all others of its log. -/
theorem keysUnder_record_own :
    keysUnder (s.record a e).log e.action =
      keysUnder s.log e.action ++ [s.nextPosition e.action] :=
  keysUnder_insert_last s.log _ fun _ member => s.lt_nextPosition member

/-- A new entry stands behind all others of its log. -/
theorem logOf_record_own :
    (s.record a e).logOf e.action =
      s.logOf e.action ++ [{ e with position := s.nextPosition e.action }] :=
  valuesUnder_insert_last s.log _ fun _ member => s.lt_nextPosition member

/-- Recording an entry only adds to logs. -/
theorem prefix_logOf_record (id : Nat) : s.logOf id <+: (s.record a e).logOf id := by
  by_cases own : id = e.action
  · rw [own, logOf_record_own]
    exact List.prefix_append _ _
  · exact (logOf_record s a e own).symm ▸ List.prefix_rfl

end Record

section Sequences

variable (s : Store) (sequence : String)

@[simp] theorem advance_actions : (s.advance sequence).actions = s.actions := rfl

@[simp] theorem advance_targetActions :
    (s.advance sequence).targetActions = s.targetActions := rfl

@[simp] theorem advance_rollouts : (s.advance sequence).rollouts = s.rollouts := rfl

/-- Drawing a number moves its own sequence by one and no other. -/
theorem nextNumber_advance (other : String) :
    (s.advance sequence).nextNumber other =
      s.nextNumber other + if other = sequence then 1 else 0 := by
  simp only [nextNumber, advance, Table.get?_insert]
  by_cases same : other = sequence <;> simp [same]

/-- The next number depends on the sequences alone. -/
theorem nextNumber_congr {s t : Store} (same : s.sequences = t.sequences) (sequence : String) :
    s.nextNumber sequence = t.nextNumber sequence := by
  simp only [nextNumber, same]

end Sequences

end Store

end DeviceUpdate
