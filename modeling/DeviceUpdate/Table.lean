/-! Finite maps in the order of their keys. -/

namespace DeviceUpdate

/-- Pairs compare by their first parts and then by their second. -/
instance instOrdPair {α β : Type} [Ord α] [Ord β] : Ord (α × β) := lexOrd

/-- A finite map whose entries stand in ascending order of their keys. -/
structure Table (κ α : Type) [Ord κ] where
  /-- The keys with their values. -/
  entries : List (κ × α)
  /-- Every key comes before the keys that follow it. -/
  ascending : entries.Pairwise fun a b => compare a.1 b.1 = .lt
  deriving DecidableEq

namespace Table

variable {κ α β : Type} [Ord κ]

/-- No entries. -/
def empty : Table κ α :=
  ⟨[], .nil⟩

instance : Inhabited (Table κ α) := ⟨empty⟩

/-- The keys in ascending order. -/
def keys (t : Table κ α) : List κ :=
  t.entries.map (·.1)

/-- The values in the order of their keys. -/
def values (t : Table κ α) : List α :=
  t.entries.map (·.2)

/-- The number of entries. -/
def size (t : Table κ α) : Nat :=
  t.entries.length

/-- The value of a key. -/
def get? (t : Table κ α) (key : κ) : Option α :=
  (t.entries.find? fun e => compare e.1 key == .eq).map (·.2)

/-- Whether a key has a value. -/
def contains (t : Table κ α) (key : κ) : Bool :=
  (t.get? key).isSome

/-- The entries that pass a test. -/
def filter (t : Table κ α) (keep : κ → α → Bool) : Table κ α :=
  ⟨t.entries.filter fun e => keep e.1 e.2, t.ascending.filter _⟩

/-- Removes the entry of a key. -/
def erase (t : Table κ α) (key : κ) : Table κ α :=
  t.filter fun k _ => compare k key != .eq

/-- Entries with one put in at its place, where it replaces an entry of the same key. -/
def insertEntry (key : κ) (value : α) : List (κ × α) → List (κ × α)
  | [] => [(key, value)]
  | (k, v) :: rest =>
    match compare key k with
    | .lt => (key, value) :: (k, v) :: rest
    | .eq => (key, value) :: rest
    | .gt => (k, v) :: insertEntry key value rest

theorem mem_insertEntry {key : κ} {value : α} {e : κ × α} :
    ∀ {l : List (κ × α)}, e ∈ insertEntry key value l → e = (key, value) ∨ e ∈ l
  | [], member => by simpa [insertEntry] using member
  | (k, v) :: rest, member => by
    simp only [insertEntry] at member
    split at member
    · simpa using member
    · simp only [List.mem_cons] at member ⊢
      exact member.imp id Or.inr
    · simp only [List.mem_cons] at member ⊢
      rcases member with same | member
      · exact Or.inr (Or.inl same)
      · exact (mem_insertEntry member).imp id Or.inr

theorem pairwise_insertEntry [Std.TransOrd κ] [Std.LawfulEqOrd κ] (key : κ) (value : α) :
    ∀ {l : List (κ × α)}, l.Pairwise (fun a b => compare a.1 b.1 = .lt) →
      (insertEntry key value l).Pairwise fun a b => compare a.1 b.1 = .lt
  | [], _ => by simp [insertEntry]
  | (k, v) :: rest, sorted => by
    have tail := List.pairwise_cons.mp sorted
    simp only [insertEntry]
    split
    · -- The new key is smaller than the first, and so smaller than all.
      rename_i before
      refine List.pairwise_cons.mpr ⟨fun e member => ?_, sorted⟩
      rcases List.mem_cons.mp member with same | member
      · rw [same]; exact before
      · exact Std.TransCmp.lt_trans before (tail.1 e member)
    · rename_i same
      have same : key = k := Std.LawfulEqCmp.eq_of_compare same
      subst same
      exact List.pairwise_cons.mpr tail
    · rename_i after
      refine List.pairwise_cons.mpr ⟨fun e member => ?_, pairwise_insertEntry key value tail.2⟩
      rcases mem_insertEntry member with same | member
      · rw [same]; exact Std.OrientedCmp.gt_iff_lt.mp after
      · exact tail.1 e member

/-- Gives a key a value, in place of the one it has. -/
def insert [Std.TransOrd κ] [Std.LawfulEqOrd κ] (t : Table κ α) (key : κ) (value : α) :
    Table κ α :=
  ⟨insertEntry key value t.entries, pairwise_insertEntry key value t.ascending⟩

/-- The table of a list of entries, where the last value of a key counts. -/
def ofList [Std.TransOrd κ] [Std.LawfulEqOrd κ] (entries : List (κ × α)) : Table κ α :=
  entries.foldl (fun t e => t.insert e.1 e.2) empty

end Table

end DeviceUpdate
