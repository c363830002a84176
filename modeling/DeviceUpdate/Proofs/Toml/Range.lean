import DeviceUpdate.Proofs.Toml.Document
import Mathlib.Data.Option.Basic

/-! Every whole number in the document of a text is one of 64 bits with its sign. -/

namespace DeviceUpdate.Toml

/-- All whole numbers in a document are below the limit of 64 bits with a sign. -/
inductive Signed : Json → Prop where
  | null : Signed .null
  | bool (b : Bool) : Signed (.bool b)
  | integer (n : Int) (limited : n < Nat.pow 2 63) : Signed (.integer n)
  | float (x : Float) : Signed (.float x)
  | string (s : String) : Signed (.string s)
  | array (items : List Json) (each : ∀ j ∈ items, Signed j) : Signed (.array items)
  | object (members : List (String × Json)) (each : ∀ m ∈ members, Signed m.2) :
      Signed (.object members)

variable {cs rest : List Char} {j : Json} {value : ValueReader}

section Words

theorem decimal?_lt {n : Int} (read : decimal? cs = some n) : n < Nat.pow 2 63 := by
  have positive : (0 : Int) < Nat.pow 2 63 := by decide
  -- The sign and the digits are split off first, and only the digits are bounded.
  obtain ⟨negative, digits, sign⟩ : ∃ a b, splitSign cs = (a, b) := ⟨_, _, rfl⟩
  rw [decimal?, sign] at read
  obtain ⟨ds, -, bounded⟩ := Option.bind_eq_some_iff.mp read
  dsimp only at bounded
  cases negative with
  | true =>
    obtain ⟨-, same⟩ := Option.ite_none_right_eq_some.mp ((if_pos rfl).symm.trans bounded)
    rw [← Option.some.inj same]
    exact Int.lt_of_le_of_lt (by omega) positive
  | false =>
    obtain ⟨limited, same⟩ :=
      Option.ite_none_right_eq_some.mp ((if_neg Bool.false_ne_true).symm.trans bounded)
    rwa [← Option.some.inj same]

theorem radix?_lt {n : Int} (read : radix? cs = some n) : n < Nat.pow 2 63 := by
  unfold radix? at read
  split at read
  -- A number with a base has no sign and the same bound.
  · obtain ⟨base, -, read⟩ := Option.bind_eq_some_iff.mp read
    obtain ⟨m, -, bounded⟩ := Option.bind_eq_some_iff.mp read
    obtain ⟨limited, same⟩ := Option.ite_none_right_eq_some.mp bounded
    rw [← Option.some.inj same]
    exact Int.ofNat_lt.mpr limited
  · cases read

/-- A date or a time holds no numbers. -/
theorem signed_moment (cs : List Char) : Signed (moment cs) := by
  refine .object _ fun m member => ?_
  cases List.mem_singleton.mp member
  exact .string _

theorem signed_wordValue (read : wordValue? cs = some j) : Signed j := by
  -- Dates and truth values hold no number, so only the integers matter.
  unfold wordValue? at read
  split at read
  · cases read
    exact signed_moment cs
  · split at read
    · cases read
      exact .bool _
    · cases read
      exact .bool _
    · rcases (Option.orElse_eq_some _ _ _).mp read with whole | ⟨-, other⟩
      · obtain ⟨n, number, rfl⟩ := Option.map_eq_some_iff.mp whole
        refine .integer n ?_
        rcases (Option.orElse_eq_some _ _ _).mp number with number | ⟨-, number⟩
        · exact decimal?_lt number
        · exact radix?_lt number
      · obtain ⟨x, -, rfl⟩ := Option.map_eq_some_iff.mp other
        exact .float x

theorem signed_readScalar (read : readScalar? cs = some (j, rest)) : Signed j := by
  unfold readScalar? at read
  split at read
  -- A text holds no number.
  · cases read
    exact .string _
  · unfold readWord? at read
    dsimp only at read
    split at read
    · cases read
      exact signed_moment _
    · obtain ⟨found, word, same⟩ := Option.map_eq_some_iff.mp read
      cases same
      exact signed_wordValue word

end Words

section Tables

/-- All whole numbers under the keys of a table have 64 bits with a sign. -/
def Entries.Signed (entries : Entries) : Prop :=
  ∀ e ∈ entries, Toml.Signed e.2.toJson

variable {entries result last : Entries} {key : String} {node : Node} {path : List String}

theorem signed_table : Signed (.object (membersOf entries)) ↔ entries.Signed := by
  -- The members of the table are its entries, one for one.
  rw [membersOf_eq_map]
  constructor
  · rintro (_ | _) e member
    rename_i each
    exact each _ (List.mem_map_of_mem member)
  · intro signed
    refine .object _ fun m member => ?_
    obtain ⟨e, inside, rfl⟩ := List.mem_map.mp member
    exact signed e inside

theorem signed_series {earlier : List Json} : Signed (Node.series earlier last).toJson ↔
    (∀ j ∈ earlier, Signed j) ∧ last.Signed := by
  -- The last table of the series is still open, and the ones before are closed.
  rw [Node.toJson, ← signed_table]
  constructor
  · rintro (_ | _)
    rename_i each
    exact ⟨fun j member => each j (by simp [member]), each _ (by simp)⟩
  · rintro ⟨others, final⟩
    refine .array _ fun j member => ?_
    rcases List.mem_cons.mp (List.mem_reverse.mp member) with rfl | member
    · exact final
    · exact others j member

namespace Entries.Signed

theorem of_lookup (signed : entries.Signed) (found : entries.lookup key = some node) :
    Toml.Signed node.toJson := by
  obtain ⟨before, after, split, -⟩ := List.lookup_eq_some_iff.mp found
  exact signed (key, node) (by simp [split])

theorem add (signed : entries.Signed) (new : Toml.Signed node.toJson) :
    (entries.add key node).Signed := by
  intro e member
  rcases List.mem_append.mp member with member | member
  · exact signed e member
  · cases List.mem_singleton.mp member
    exact new

theorem replace (signed : entries.Signed) (new : Toml.Signed node.toJson) :
    (entries.replace key node).Signed := by
  intro e member
  -- One entry is replaced, and the others are as before.
  obtain ⟨old, inside, same⟩ := List.mem_map.mp member
  split at same
  · cases same
    exact new
  · cases same
    exact signed e inside

/-- What a change keeps of one table, it keeps of the tables around it. -/
theorem modifyAt {dotted : Bool} {change : Origin → Entries → Option Entries}
    (keeps : ∀ origin entries result, Entries.Signed entries →
      change origin entries = some result → Entries.Signed result)
    {origin : Origin} (signed : entries.Signed)
    (changed : Entries.modifyAt dotted change path origin entries = some result) :
    result.Signed := by
  induction path generalizing origin entries result with
  -- The path is followed down to its end, where the change is made, and the tables on it are
  -- rebuilt.
  | nil => exact keeps origin entries result signed changed
  | cons key path ih =>
    unfold Entries.modifyAt at changed
    split at changed
    · obtain ⟨inner, inside, same⟩ := Option.bind_eq_some_iff.mp changed
      cases same
      exact signed.add (signed_table.mpr (ih (fun e member => by cases member) inside))
    -- A value or a table that may not be entered stops the change.
    · rename_i found
      split at changed
      · cases changed
      · obtain ⟨inner, inside, same⟩ := Option.bind_eq_some_iff.mp changed
        cases same
        have inner := signed_table.mp (signed.of_lookup found)
        exact signed.replace (signed_table.mpr (ih inner inside))
    · rename_i found
      obtain ⟨last, inside, same⟩ := Option.bind_eq_some_iff.mp changed
      cases same
      obtain ⟨earlier, final⟩ := signed_series.mp (signed.of_lookup found)
      exact signed.replace (signed_series.mpr ⟨earlier, ih final inside⟩)
    · cases changed

theorem assign (signed : entries.Signed) (value : Toml.Signed j)
    (changed : entries.assign path key j = some result) : result.Signed := by
  refine signed.modifyAt (fun origin entries result signed done => ?_) changed
  split at done
  · cases done
  · cases done
    exact signed.add value

theorem openTable (signed : entries.Signed) (changed : entries.openTable path key = some result) :
    result.Signed := by
  -- A new table is empty, and one that was only implied keeps what is in it.
  refine signed.modifyAt (fun origin entries result signed done => ?_) changed
  split at done
  · cases done
    exact signed.add (signed_table.mpr fun e member => by cases member)
  · rename_i found
    cases done
    exact signed.replace (signed.of_lookup found : Toml.Signed (Node.table .implied _).toJson)
  · cases done

theorem openSeries (signed : entries.Signed)
    (changed : entries.openSeries path key = some result) : result.Signed := by
  have empty : Entries.Signed [] := fun e member => by cases member
  -- A series begins with an empty table, or gets another one at its end.
  refine signed.modifyAt (fun origin entries result signed done => ?_) changed
  split at done
  · cases done
    exact signed.add (signed_series.mpr ⟨fun _ => by simp, empty⟩)
  · cases done
    obtain ⟨earlier, final⟩ := signed_series.mp (signed.of_lookup ‹_›)
    refine signed.replace (signed_series.mpr ⟨fun j member => ?_, empty⟩)
    rcases List.mem_cons.mp member with rfl | member
    · exact signed_table.mpr final
    · exact earlier j member
  · cases done

theorem assignUnder (signed : entries.Signed) (value : Toml.Signed j) {header : List String}
    (changed : entries.assignUnder header path key j = some result) : result.Signed :=
  signed.modifyAt (fun _ _ _ signed done => signed.assign value done) changed

end Entries.Signed

end Tables

section Values

/-- Whatever a reader reads, its whole numbers have 64 bits with a sign. -/
def ValueReader.Signed (value : ValueReader) : Prop :=
  ∀ cs j rest, value cs = some (j, rest) → Toml.Signed j

theorem signed_readPair {key : Key} (signed : value.Signed)
    (read : readPair? value cs = some ((key, j), rest)) : Signed j := by
  obtain ⟨_, -, read⟩ := Option.bind_eq_some_iff.mp read
  obtain ⟨_, -, read⟩ := Option.bind_eq_some_iff.mp read
  obtain ⟨⟨found, behind⟩, here, read⟩ := Option.bind_eq_some_iff.mp read
  cases read
  exact signed _ _ _ here

theorem signed_readItems {items : List Json} {room : Nat} (signed : value.Signed)
    (read : readItems? value room cs = some (items, rest)) : ∀ j ∈ items, Signed j := by
  induction room generalizing cs items rest with
  | zero => cases read
  -- One item is read at a time, and a comma asks for more of them.
  | succ room ih =>
    unfold readItems? at read
    split at read
    · cases read
      exact fun j member => by cases member
    · obtain ⟨⟨item, behind⟩, here, read⟩ := Option.bind_eq_some_iff.mp read
      have first : Signed item := signed _ _ _ here
      dsimp only at read
      split at read
      · obtain ⟨⟨more, final⟩, others, same⟩ := Option.bind_eq_some_iff.mp read
        cases same
        exact List.forall_mem_cons.mpr ⟨first, ih others⟩
      · cases read
        simpa using first
      · cases read

theorem signed_readPairs {pairs : List (Key × Json)} {room : Nat} (signed : value.Signed)
    (read : readPairs? value room cs = some (pairs, rest)) : ∀ p ∈ pairs, Signed p.2 := by
  induction room generalizing cs pairs rest with
  | zero => cases read
  -- One pair is read at a time, and a comma asks for more of them.
  | succ room ih =>
    obtain ⟨⟨⟨key, item⟩, behind⟩, here, read⟩ := Option.bind_eq_some_iff.mp read
    have first : Signed item := signed_readPair signed here
    dsimp only at read
    split at read
    · obtain ⟨⟨more, final⟩, others, same⟩ := Option.bind_eq_some_iff.mp read
      cases same
      exact List.forall_mem_cons.mpr ⟨first, ih others⟩
    · cases read
      simpa using first
    · cases read

theorem signed_readInline {pairs : List (Key × Json)} (signed : value.Signed)
    (read : readInline? value cs = some (pairs, rest)) : ∀ p ∈ pairs, Signed p.2 := by
  unfold readInline? at read
  split at read
  · cases read
    exact fun p member => by cases member
  · exact signed_readPairs signed read

theorem signed_tableOf {pairs : List (Key × Json)} (signed : ∀ p ∈ pairs, Signed p.2)
    (made : tableOf? pairs = some j) : Signed j := by
  obtain ⟨entries, folded, rfl⟩ := Option.map_eq_some_iff.mp made
  refine signed_table.mpr ?_
  -- The pairs are assigned in turn, so what holds of the entries is kept along the run.
  have run {pairs : List (Key × Json)} {before after : Entries} (each : ∀ p ∈ pairs, Signed p.2)
      (start : before.Signed)
      (folded : pairs.foldlM (fun (entries : Entries) (pair : Key × Json) =>
        entries.assign pair.1.path pair.1.last pair.2) before = some after) : after.Signed := by
    induction pairs generalizing before with
    | nil =>
      cases folded
      exact start
    | cons p pairs ih =>
      obtain ⟨middle, assigned, folded⟩ := Option.bind_eq_some_iff.mp folded
      exact ih (fun p member => each p (List.mem_cons_of_mem _ member))
        (start.assign (each p List.mem_cons_self) assigned) folded
  exact run signed (fun e member => by cases member) folded

theorem signed_readNested (depth : Nat) : ValueReader.Signed (readNested? depth) := by
  -- Arrays and tables nest to a fixed depth, and behind the last one only scalars are read.
  induction depth with
  | zero => exact fun cs j rest read => signed_readScalar read
  | succ depth ih =>
    intro cs j rest read
    unfold readNested? at read
    split at read
    · obtain ⟨⟨items, behind⟩, here, same⟩ := Option.map_eq_some_iff.mp read
      cases same
      exact .array _ (signed_readItems ih here)
    · obtain ⟨⟨pairs, behind⟩, here, read⟩ := Option.bind_eq_some_iff.mp read
      obtain ⟨table, made, same⟩ := Option.bind_eq_some_iff.mp read
      cases same
      exact signed_tableOf (signed_readInline ih here) made
    · exact signed_readScalar read

end Values

section Documents

/-- The value of a pair has whole numbers of 64 bits with a sign. -/
def Statement.Signed : Statement → Prop
  | .pair _ j => Toml.Signed j
  | _ => True

theorem signed_read {s : Statement} (read : Statement.read? cs = some (some s, rest)) :
    s.Signed := by
  unfold Statement.read? at read
  split at read
  any_goals cases read
  · obtain ⟨⟨found, behind⟩, here, same⟩ := Option.map_eq_some_iff.mp read
    cases same
    -- A header has no value.
    unfold Statement.readHeader? at here
    split at here
    all_goals
      obtain ⟨⟨key, behind⟩, -, here⟩ := Option.bind_eq_some_iff.mp here
      obtain ⟨_, -, same⟩ := Option.bind_eq_some_iff.mp here
      cases same
      trivial
  · obtain ⟨⟨⟨key, j⟩, behind⟩, here, same⟩ := Option.map_eq_some_iff.mp read
    cases same
    exact signed_readPair (signed_readNested maxNesting) here

theorem signed_readLines {said : List Statement} {room : Nat}
    (read : Statement.readLines? room cs = some said) : ∀ s ∈ said, s.Signed := by
  -- Line after line is read, and each adds one statement at most.
  induction room generalizing cs said with
  -- No room is left, so that nothing is read but the end.
  | zero =>
    cases cs with
    | nil =>
      cases read
      exact fun s member => by cases member
    | cons c cs => cases read
  | succ room ih =>
    cases cs with
    | nil =>
      cases read
      exact fun s member => by cases member
    | cons c cs =>
      obtain ⟨⟨first, behind⟩, line, read⟩ := Option.bind_eq_some_iff.mp read
      obtain ⟨more, others, same⟩ := Option.bind_eq_some_iff.mp read
      -- A line is a statement, if it has one, and its end.
      cases same
      obtain ⟨⟨found, ending⟩, here, ended⟩ := Option.bind_eq_some_iff.mp line
      obtain ⟨_, -, same⟩ := Option.bind_eq_some_iff.mp ended
      cases same
      intro s member
      rcases List.mem_append.mp member with member | member
      · cases Option.mem_toList.mp member
        exact signed_read here
      · exact ih others s member

theorem signed_step {d next : Draft} {s : Statement} (signed : d.entries.Signed)
    (value : s.Signed) (stepped : d.step? s = some next) : next.entries.Signed := by
  -- Opening a table or a series adds no value, and a pair adds the one it carries.
  cases s with
  | table key =>
    obtain ⟨entries, opened, rfl⟩ := Option.map_eq_some_iff.mp stepped
    exact signed.openTable opened
  | series key =>
    obtain ⟨entries, opened, rfl⟩ := Option.map_eq_some_iff.mp stepped
    exact signed.openSeries opened
  | pair key j =>
    obtain ⟨entries, assigned, rfl⟩ := Option.map_eq_some_iff.mp stepped
    exact signed.assignUnder value assigned

theorem signed_foldlM {said : List Statement} {d final : Draft} (each : ∀ s ∈ said, s.Signed)
    (signed : d.entries.Signed) (folded : said.foldlM Draft.step? d = some final) :
    final.entries.Signed := by
  -- Every statement has been shown to keep the signs, so a run of them does.
  induction said generalizing d with
  | nil =>
    cases folded
    exact signed
  | cons s said ih =>
    obtain ⟨next, stepped, folded⟩ := Option.bind_eq_some_iff.mp folded
    exact ih (fun s member => each s (List.mem_cons_of_mem _ member))
      (signed_step signed (each s List.mem_cons_self) stepped) folded

/-- Whatever text is read, the whole numbers of its document have 64 bits with a sign. -/
theorem signed_of_read {text : String} (read : read? text = some j) : Signed j := by
  obtain ⟨said, lines, made⟩ := Option.bind_eq_some_iff.mp read
  obtain ⟨final, folded, rfl⟩ := Option.map_eq_some_iff.mp made
  exact signed_table.mpr
    (signed_foldlM (signed_readLines lines) (fun e member => by cases member) folded)

end Documents

end DeviceUpdate.Toml
