import DeviceUpdate.Table
import Mathlib.Data.List.Induction
import Mathlib.Data.List.Sort

/-! Laws of tables: which entries they hold, and what a lookup finds after a change. -/

namespace DeviceUpdate.Table

variable {κ α : Type} [Ord κ]

/-- Nothing is found in a table without entries. -/
@[simp] theorem get?_empty (key : κ) : (empty : Table κ α).get? key = none := rfl

/-- A table holds exactly the entries that its lookups find. -/
theorem mem_entries_iff [Std.OrientedOrd κ] [Std.LawfulEqOrd κ] {t : Table κ α} {key : κ}
    {value : α} : (key, value) ∈ t.entries ↔ t.get? key = some value := by
  obtain ⟨entries, ascending⟩ := t
  simp only [get?]
  -- The keys ascend, so the first entry with the key is the only one.
  induction entries with
  | nil => simp
  | cons entry rest ih =>
    obtain ⟨first, others⟩ := List.pairwise_cons.mp ascending
    -- The entry at hand is the one that is found, or the search goes on behind it.
    by_cases same : entry.1 = key
    · subst same
      -- All keys behind it are greater, so none of them is its own.
      have alone : (entry.1, value) ∉ rest := fun member => by
        simpa using first _ member
      simp [alone, Prod.ext_iff, eq_comm]
    · have other : (key, value) ≠ entry := fun equal => same (by rw [← equal])
      simpa [same, other] using ih others

/-- Tables in which the same is found are the same. -/
theorem ext_get? [Std.OrientedOrd κ] [Std.LawfulEqOrd κ] {t u : Table κ α}
    (same : ∀ key, t.get? key = u.get? key) : t = u := by
  -- Strict comparison has what two ascending lists need to be equal if their members are.
  have antisymm : Std.Antisymm fun a b : κ × α => compare a.1 b.1 = .lt := by
    refine ⟨fun a b before after => ?_⟩
    rw [Std.OrientedOrd.eq_swap, after] at before
    cases before
  have irrefl : Std.Irrefl fun a b : κ × α => compare a.1 b.1 = .lt :=
    ⟨fun a before => by simp at before⟩
  -- Both lists of entries ascend strictly and have the same members.
  have entries : t.entries = u.entries := by
    refine t.ascending.eq_of_mem_iff u.ascending ?_
    rintro ⟨key, value⟩
    rw [mem_entries_iff, mem_entries_iff, same]
  cases t
  cases u
  cases entries
  rfl

/-- A key has a value exactly if an entry holds it. -/
theorem contains_iff {t : Table κ α} {key : κ} :
    t.contains key = true ↔ ∃ value, t.get? key = some value := by
  simp only [contains, Option.isSome_iff_exists]

/-- Putting a value in changes what is found for its key and for no other. -/
theorem get?_insert [DecidableEq κ] [Std.TransOrd κ] [Std.LawfulEqOrd κ] (t : Table κ α)
    (key other : κ) (value : α) :
    (t.insert key value).get? other = if other = key then some value else t.get? other := by
  obtain ⟨entries, ascending⟩ := t
  simp only [get?, insert]
  clear ascending
  -- The induction follows the one pass that looks for the place of the key.
  induction entries with
  | nil =>
    by_cases same : other = key
    · simp [insertEntry, same]
    · simp [insertEntry, same, Ne.symm same]
  | cons entry rest ih =>
    obtain ⟨first, old⟩ := entry
    by_cases same : other = key
    -- For the key itself the new value is found wherever it comes to stand.
    · subst same
      simp only [↓reduceIte] at ih ⊢
      simp only [insertEntry]
      split
      · simp
      · simp
      · rename_i after
        have different : first ≠ other := fun equal => by simp [equal] at after
        simpa [different] using ih
    · simp only [if_neg same] at ih ⊢
      simp only [insertEntry]
      split
      · simp [Ne.symm same]
      -- The entry with the key is replaced, and that is not the one looked for.
      · rename_i here
        have here : key = first := Std.LawfulEqCmp.eq_of_compare here
        simp [← here, Ne.symm same]
      · by_cases found : first = other
        · simp [found]
        · simpa [found] using ih

/-- Of two values that are put in for one key, the second stands. -/
theorem insert_insert [DecidableEq κ] [Std.TransOrd κ] [Std.LawfulEqOrd κ] (t : Table κ α)
    (key : κ) (first second : α) :
    (t.insert key first).insert key second = t.insert key second := by
  refine ext_get? fun other => ?_
  rw [get?_insert, get?_insert, get?_insert]
  by_cases same : other = key <;> simp [same]

/-- A filtered table finds a value only if it passes the test. -/
theorem get?_filter [Std.OrientedOrd κ] [Std.LawfulEqOrd κ] (t : Table κ α)
    (keep : κ → α → Bool) (key : κ) :
    (t.filter keep).get? key = (t.get? key).filter (keep key) := by
  -- Both sides find a value exactly if it is an entry that passes.
  apply Option.ext
  intro value
  rw [← mem_entries_iff, Option.filter_eq_some_iff, ← mem_entries_iff]
  simp only [filter, List.mem_filter]

/-- A table that is filtered by its keys finds what it found before under those that pass. -/
theorem get?_filter_keys [Std.OrientedOrd κ] [Std.LawfulEqOrd κ] (t : Table κ α)
    (keep : κ → Bool) (key : κ) :
    (t.filter fun k _ => keep k).get? key = if keep key then t.get? key else none := by
  rw [get?_filter]
  cases keep key <;> cases t.get? key <;> rfl

/-- Removing a key leaves nothing to be found for it and all else as it was. -/
theorem get?_erase [DecidableEq κ] [Std.OrientedOrd κ] [Std.LawfulEqOrd κ] (t : Table κ α)
    (key other : κ) :
    (t.erase key).get? other = if other = key then none else t.get? other := by
  rw [erase, get?_filter]
  -- The filter drops what stands under the key, and nothing else.
  by_cases same : other = key
  · subst same
    cases t.get? other <;> simp
  · cases t.get? other <;> simp [same]

/-- A key that is put in has a value from then on, and every other as before. -/
theorem contains_insert [DecidableEq κ] [Std.TransOrd κ] [Std.LawfulEqOrd κ] (t : Table κ α)
    (key other : κ) (value : α) :
    (t.insert key value).contains other = true ↔ other = key ∨ t.contains other = true := by
  simp only [contains_iff, get?_insert]
  by_cases same : other = key <;> simp [same]

section Keys

/-- The keys are those that have a value. -/
theorem mem_keys [Std.OrientedOrd κ] [Std.LawfulEqOrd κ] {t : Table κ α} {key : κ} :
    key ∈ t.keys ↔ t.contains key = true := by
  rw [contains_iff, keys, List.mem_map]
  constructor
  · rintro ⟨⟨_, value⟩, member, rfl⟩
    exact ⟨value, mem_entries_iff.mp member⟩
  · rintro ⟨value, found⟩
    exact ⟨(key, value), mem_entries_iff.mpr found, rfl⟩

/-- The keys ascend. -/
theorem keys_pairwise (t : Table Nat α) : t.keys.Pairwise (· < ·) := by
  rw [keys, List.pairwise_map]
  exact t.ascending.imp fun before => Nat.compare_eq_lt.mp before

end Keys

section Listed

variable [Std.LawfulEqOrd κ]

/-- No key stands in a table twice. -/
theorem nodup_keys (t : Table κ α) : (t.entries.map (·.1)).Nodup := by
  rw [List.Nodup, List.pairwise_map]
  refine t.ascending.imp fun before same => ?_
  simp [same] at before

variable [Std.TransOrd κ]

/-- The last entry of a list is put into the table of the others. -/
theorem ofList_append (l : List (κ × α)) (e : κ × α) :
    ofList (l ++ [e]) = (ofList l).insert e.1 e.2 := by
  simp [ofList]

variable [DecidableEq κ]

/-- Whatever a table of a list holds stands in the list. -/
theorem mem_of_get?_ofList {l : List (κ × α)} {key : κ} {value : α}
    (found : (ofList l).get? key = some value) : (key, value) ∈ l := by
  -- Of two entries of a key the later one counts, so the list is followed from its end.
  induction l using List.reverseRecOn with
  | nil => simp [ofList] at found
  | append_singleton l e ih =>
    rw [ofList_append, get?_insert] at found
    rw [List.mem_append, List.mem_singleton]
    split at found
    · rename_i same
      exact .inr (by rw [same, ← Option.some.inj found])
    · exact .inl (ih found)

/-- A table of a list without repeated keys holds all that stands in the list. -/
theorem get?_ofList {l : List (κ × α)} (distinct : (l.map (·.1)).Nodup) {key : κ} {value : α} :
    (ofList l).get? key = some value ↔ (key, value) ∈ l := by
  refine ⟨mem_of_get?_ofList, fun member => ?_⟩
  -- The names differ, so no later entry covers an earlier one.
  induction l using List.reverseRecOn with
  | nil => simp at member
  | append_singleton l e ih =>
    rw [List.map_append, List.nodup_append] at distinct
    rw [ofList_append, get?_insert]
    rcases List.mem_append.mp member with member | member
    · have other : key ≠ e.1 :=
        distinct.2.2 key (List.mem_map.mpr ⟨_, member, rfl⟩) e.1 (by simp)
      rw [if_neg other, ih distinct.1 member]
    · cases List.mem_singleton.mp member
      simp

/-- A table is the table of its entries in any order. -/
theorem ofList_perm {t : Table κ α} {order : List (κ × α)} (same : order.Perm t.entries) :
    ofList order = t := by
  have distinct : (order.map (·.1)).Nodup := (same.map _).nodup_iff.mpr t.nodup_keys
  refine ext_get? fun key => Option.ext fun value => ?_
  rw [get?_ofList distinct, same.mem_iff, mem_entries_iff]

/-- A table is the table of its entries. -/
theorem ofList_entries (t : Table κ α) : ofList t.entries = t :=
  ofList_perm (List.Perm.refl _)

end Listed

end DeviceUpdate.Table
