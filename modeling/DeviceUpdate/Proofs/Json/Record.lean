import DeviceUpdate.Json.Instant
import DeviceUpdate.Proofs.Json.Text
import DeviceUpdate.Proofs.Table
import DeviceUpdate.Proofs.Time.Timestamp

/-! The values of fields, and the records made of them, are read from the documents that they are
written as. -/

namespace DeviceUpdate

namespace Json

/-- A value is read from the document that it is written as, which is plain and not `null`. -/
structure Faithful {α : Type} (encode : α → Json) (decode : Json → Option α) (a : α) : Prop where
  plain : (encode a).Plain
  present : encode a ≠ .null
  back : decode (encode a) = some a

variable {α : Type} {encode : α → Json} {decode : Json → Option α}

section Values

theorem faithful_text (s : String) : Faithful string text? s :=
  ⟨.string s, by simp, rfl⟩

/-- A timestamp is read as it is written. -/
theorem faithful_instant (t : Instant) : Faithful ofInstant instant? t :=
  ⟨.string _, by simp [ofInstant], Timestamp.read?_write t⟩

/-- A number below a limit of at most 64 bits. -/
theorem faithful_below {limit n : Nat} (small : n < limit) (limited : limit ≤ 2 ^ 64) :
    Faithful natural (below? limit) n where
  plain := by
    refine .integer n ?_ ?_ <;> simp only [Int.pow_eq] <;> omega
  present := by simp [natural]
  back := by simp [below?, natural, small]

theorem faithful_natural64 {n : Nat} (fits : n < 2 ^ 64) : Faithful natural natural64? n :=
  faithful_below fits (by decide)

theorem faithful_natural32 {n : Nat} (fits : n < 2 ^ 32) : Faithful natural natural32? n :=
  faithful_below fits (by decide)

theorem faithful_natural16 {n : Nat} (fits : n < 2 ^ 16) : Faithful natural natural16? n :=
  faithful_below fits (by decide)

/-- A whole number of 32 bits with its sign. -/
theorem faithful_signed32 {n : Int} (fits : -2 ^ 31 ≤ n ∧ n < 2 ^ 31) :
    Faithful integer signed32? n where
  plain := by
    refine .integer n ?_ ?_ <;> simp only [Int.pow_eq] <;> omega
  present := by simp
  back := by
    rw [signed32?, if_pos]
    rw [Bool.and_eq_true, decide_eq_true_eq, decide_eq_true_eq]
    exact fits

/-- A value with a name of its own is read from the name. -/
theorem faithful_named {names : List (String × α)} {name : α → String} {a : α}
    (own : names.lookup (name a) = some a) : Faithful (fun a => string (name a)) (named? names) a :=
  ⟨.string _, by simp, own⟩

/-- A list is read if each of its values is. -/
theorem Faithful.list {values : List α} (each : ∀ a ∈ values, Faithful encode decode a) :
    Faithful (ofList encode) (list? decode) values where
  plain := by
    refine .array _ fun j member => ?_
    obtain ⟨a, here, rfl⟩ := List.mem_map.mp member
    exact (each a here).plain
  present := by simp [ofList]
  back := by
    -- Element by element; that the list as a whole is read is the form mapM gives it.
    have read : (values.map encode).mapM decode = some values := by
      induction values with
      | nil => rfl
      | cons a values ih =>
        have others := ih fun a member => each a (List.mem_cons_of_mem _ member)
        simp [(each a List.mem_cons_self).back, others]
    exact read

/-- A table of texts is read with all its entries. -/
theorem faithful_texts (t : Table String String) : Faithful ofTexts texts? t where
  plain := by
    refine .object _ fun m member => ?_
    obtain ⟨e, -, rfl⟩ := List.mem_map.mp member
    exact .string _
  present := by simp [ofTexts]
  back := by
    -- The entries are read back one by one, in the order in which they were written.
    have read (entries : List (String × String)) :
        (entries.map fun e => (e.1, string e.2)).mapM (fun m : String × Json =>
          (text? m.2).map fun s => (m.1, s)) = some entries := by
      induction entries with
      | nil => rfl
      | cons e entries ih =>
        rw [List.map_cons, List.mapM_cons, ih]
        rfl
    -- Rebuilding the table from its own entries gives the table, since they are sorted already.
    calc texts? (ofTexts t) = (some t.entries).map Table.ofList :=
          congrArg (Option.map Table.ofList) (read t.entries)
      _ = some t := by rw [Option.map_some, Table.ofList_entries]

end Values

section Options

variable {o : Option α}

/-- A value that may be missing is a plain document. -/
theorem plain_ofOption (each : ∀ a ∈ o, Faithful encode decode a) : (ofOption encode o).Plain := by
  cases o with
  | none => exact .null
  | some a => exact (each a rfl).plain

/-- A value that is there is read as such. -/
theorem Faithful.nullable {a : α} (faithful : Faithful encode decode a) :
    nullable decode (encode a) = some (some a) := by
  unfold Json.nullable
  split
  · exact absurd ‹_› faithful.present
  · rw [faithful.back]
    rfl

/-- A value that may be missing is read back. -/
theorem nullable_ofOption (each : ∀ a ∈ o, Faithful encode decode a) :
    nullable decode (ofOption encode o) = some o := by
  cases o with
  | none => rfl
  | some a => exact (each a rfl).nullable

end Options

section Free

/-! Texts, truth values and instants are read back without any condition. -/

attribute [simp] Plain.null Plain.bool Plain.string

@[simp] theorem text?_string (s : String) : text? (string s) = some s := rfl

@[simp] theorem flag?_bool (b : Bool) : flag? (bool b) = some b := rfl

@[simp] theorem instant?_ofInstant (t : Instant) : instant? (ofInstant t) = some t :=
  (faithful_instant t).back

@[simp] theorem texts?_ofTexts (t : Table String String) : texts? (ofTexts t) = some t :=
  (faithful_texts t).back

@[simp] theorem plain_ofInstant (t : Instant) : (ofInstant t).Plain :=
  (faithful_instant t).plain

@[simp] theorem plain_ofTexts (t : Table String String) : (ofTexts t).Plain :=
  (faithful_texts t).plain

@[simp] theorem plain_optional_text (o : Option String) : (ofOption string o).Plain :=
  plain_ofOption fun s _ => faithful_text s

@[simp] theorem plain_optional_instant (o : Option Instant) : (ofOption ofInstant o).Plain :=
  plain_ofOption fun t _ => faithful_instant t

@[simp] theorem nullable_text (o : Option String) : nullable text? (ofOption string o) = some o :=
  nullable_ofOption fun s _ => faithful_text s

@[simp] theorem nullable_instant (o : Option Instant) :
    nullable instant? (ofOption ofInstant o) = some o :=
  nullable_ofOption fun t _ => faithful_instant t

end Free

namespace Record

variable {members : List (String × Json)} {names : List String} {name : String} {r : Record}
  {a : α} {o : Option α}

/-- An object in which no name stands twice is read. -/
theorem readWith?_object (surplus : Surplus) (distinct : (members.map (·.1)).Nodup)
    (names : List String) :
    readWith? surplus names (.object members) = some ⟨memberSlot members⟩ := by
  -- Distinct names give each name one place at most among the members.
  have once : ∀ name, (members.countP fun m => m.1 == name) ≤ 1 := fun name => by
    have counted := List.nodup_iff_count_le_one.mp distinct name
    rwa [List.count, List.countP_map] at counted
  have single : names.any (fun name => 1 < members.countP fun m => m.1 == name) = false := by
    simp [once]
  rw [readWith?, single]
  rfl

theorem read?_object (distinct : (members.map (·.1)).Nodup) (names : List String) :
    read? names (.object members) = some ⟨memberSlot members⟩ :=
  readWith?_object .refused distinct names

theorem memberSlot_cons (other : String) (j : Json) (rest : List (String × Json)) (name : String) :
    memberSlot ((other, j) :: rest) name =
      if other = name then .given j else memberSlot rest name := by
  by_cases same : other = name <;> simp [memberSlot, same]

/-- A field that must be there is the first member of its name. -/
@[simp] theorem required_cons (other : String) (j : Json) (rest : List (String × Json))
    (name : String) (decode : Json → Option α) :
    (⟨memberSlot ((other, j) :: rest)⟩ : Record).required name decode =
      if other = name then decode j else (⟨memberSlot rest⟩ : Record).required name decode := by
  by_cases same : other = name <;> simp [required, memberSlot_cons, same]

/-- A field that may be `null` is the first member of its name. -/
@[simp] theorem optional_cons (other : String) (j : Json) (rest : List (String × Json))
    (name : String) (decode : Json → Option α) :
    (⟨memberSlot ((other, j) :: rest)⟩ : Record).optional name decode =
      if other = name then nullable decode j
      else (⟨memberSlot rest⟩ : Record).optional name decode := by
  by_cases same : other = name
  · cases j <;> simp [optional, nullable, memberSlot_cons, same]
  · simp [optional, memberSlot_cons, same]

/-- A field with a value for when it is missing is the first member of its name. -/
@[simp] theorem defaulted_cons (other : String) (j : Json) (rest : List (String × Json))
    (name : String) (decode : Json → Option α) (missing : α) :
    (⟨memberSlot ((other, j) :: rest)⟩ : Record).defaulted name decode missing =
      if other = name then decode j
      else (⟨memberSlot rest⟩ : Record).defaulted name decode missing := by
  by_cases same : other = name <;> simp [defaulted, memberSlot_cons, same]

/-- A field that no member has takes the value for when it is missing. -/
@[simp] theorem defaulted_nil (name : String) (decode : Json → Option α) (missing : α) :
    (⟨memberSlot []⟩ : Record).defaulted name decode missing = some missing :=
  rfl

end Record

/-- A record is read from its object if its fields are read from the members. -/
theorem faithful_object {members : α → List (String × Json)} {decode : Record → Option α}
    {names : List String} {a : α} (distinct : ((members a).map (·.1)).Nodup)
    (plain : ∀ m ∈ members a, m.2.Plain) (back : decode ⟨Record.memberSlot (members a)⟩ = some a) :
    Faithful (fun a => .object (members a)) (fun j => (Record.read? names j).bind decode) a where
  plain := .object _ plain
  present := by simp
  back := by rw [Record.read?_object distinct, Option.bind_some, back]

end Json

end DeviceUpdate
