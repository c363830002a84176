import DeviceUpdate.Json.Reader
import DeviceUpdate.Proofs.Json.Token

/-! Documents without fractions are read as they are written. -/

namespace DeviceUpdate.Json

/-- A document in which all numbers are whole numbers of 64 bits. -/
inductive Plain : Json → Prop where
  | null : Plain .null
  | bool (b : Bool) : Plain (.bool b)
  | integer (n : Int) (least : -Int.pow 2 63 ≤ n) (greatest : n < Int.pow 2 64) :
      Plain (.integer n)
  | string (s : String) : Plain (.string s)
  | array (items : List Json) (plain : ∀ j ∈ items, Plain j) : Plain (.array items)
  | object (members : List (String × Json)) (plain : ∀ m ∈ members, Plain m.2) :
      Plain (.object members)

/-- A text gives tokens that hand a document to the container that waits for it. -/
structure Conveys (text : String) (j : Json) (found : List Token) : Prop where
  spells : Spells text.toList found
  delivers : ∀ frames expect, expect = .value ∨ expect = .firstItem →
    found.foldlM Reading.step? ⟨frames, expect⟩ = Reading.deliver j frames

/-- A text gives tokens that add these items to an array. -/
structure Lists (text : String) (items : List Json) (found : List Token) : Prop where
  spells : Spells text.toList found
  adds : ∀ done frames expect, expect = .value ∨ expect = .firstItem →
    found.foldlM Reading.step? ⟨.array done :: frames, expect⟩ =
      some ⟨.array (items.reverse ++ done) :: frames, .separator⟩

/-- A text gives tokens that add these members to an object. -/
structure Gathers (text : String) (members : List (String × Json)) (found : List Token) : Prop where
  spells : Spells text.toList found
  adds : ∀ done frames expect, expect = .name ∨ expect = .firstName →
    found.foldlM Reading.step? ⟨.object done true :: frames, expect⟩ =
      some ⟨.object (members.reverse ++ done) true :: frames, .separator⟩

variable {text more : String} {j : Json} {items : List Json} {name : String}
  {members : List (String × Json)} {found later : List Token}

section Parts

/-- One token that is a document. -/
theorem conveys_token {t : Token} (spells : Spells text.toList [t])
    (step : ∀ frames, Reading.stepValue? frames t = Reading.deliver j frames)
    (other : t ≠ .closeArray) : Conveys text j [t] where
  spells := spells
  delivers frames expect waits := by
    -- A token that is a whole value may stand wherever a value may; only a closing bracket is also
    -- taken where an item is optional.
    rcases waits with rfl | rfl
    · simp [Reading.step?, step]
    · cases t with
      | closeArray => exact absurd rfl other
      | _ => simp [Reading.step?, step]

/-- A literal. -/
theorem conveys_word (word : ∀ c ∈ text.toList, isWordChar c = true) (some : text.toList ≠ [])
    (value : wordValue? text.toList = .some j) : Conveys text j [.scalar j] :=
  conveys_token (spells_word word some value) (fun _ => rfl) (by simp)

/-- An array without items. -/
theorem conveys_empty_array : Conveys "[]" (.array []) [.openArray, .closeArray] where
  spells := (spells_nil.mark (c := ']') rfl).mark (c := '[') rfl
  delivers frames expect waits := by
    rcases waits with rfl | rfl <;>
      simp [Reading.step?, Reading.stepValue?, Reading.closeArray?]

/-- An object without members. -/
theorem conveys_empty_object : Conveys "\x7b\x7d" (.object []) [.openObject, .closeObject] where
  spells := (spells_nil.mark (c := '\x7d') rfl).mark (c := '\x7b') rfl
  delivers frames expect waits := by
    rcases waits with rfl | rfl <;>
      simp [Reading.step?, Reading.stepValue?, Reading.closeObject?]

/-- A single item. -/
theorem Conveys.lists (conveys : Conveys text j found) : Lists text [j] found where
  spells := conveys.spells
  adds done frames expect waits := by
    rw [conveys.delivers _ _ waits]
    rfl

/-- An item with others behind it. -/
theorem Lists.cons (first : Conveys text j found) (others : Lists more items later) :
    Lists (text ++ "," ++ more) (j :: items) (found ++ .comma :: later) where
  spells := by
    simpa using first.spells.between others.spells (c := ',') rfl
  adds done frames expect waits := by
    rw [List.foldlM_append, first.lists.adds _ _ _ waits]
    simp [Reading.step?, Reading.stepSeparator?, others.adds]

/-- An array around its items. -/
theorem Lists.conveys (lists : Lists text items found) :
    Conveys ("[" ++ text ++ "]") (.array items) (.openArray :: (found ++ [.closeArray])) where
  spells := by
    simpa using (lists.spells.between spells_nil (c := ']') rfl).mark (c := '[') rfl
  delivers frames expect waits := by
    -- The bracket opens a frame of its own, in which the items are gathered.
    have opened : Reading.step? ⟨frames, expect⟩ .openArray =
        some ⟨.array [] :: frames, .firstItem⟩ := by
      rcases waits with rfl | rfl <;> rfl
    rw [List.foldlM_cons, opened, Option.bind_eq_bind, Option.bind_some, List.foldlM_append,
      lists.adds _ _ _ (Or.inr rfl)]
    simp [Reading.step?, Reading.stepSeparator?, Reading.closeArray?]

/-- A single member. -/
theorem Conveys.gathers (conveys : Conveys text j found) :
    Gathers (quote name ++ ":" ++ text) [(name, j)] (.text (some name) :: .colon :: found) where
  spells := by
    simpa using (spells_quote name).between conveys.spells (c := ':') rfl
  adds done frames expect waits := by
    -- A name is taken at the start of an object and behind a comma alike.
    have named : Reading.step? ⟨.object done true :: frames, expect⟩ (.text (some name)) =
        some ⟨.member done true name :: frames, .colon⟩ := by
      rcases waits with rfl | rfl <;> rfl
    have colon : Reading.step? ⟨.member done true name :: frames, .colon⟩ .colon =
        some ⟨.member done true name :: frames, .value⟩ := rfl
    rw [List.foldlM_cons, named, Option.bind_eq_bind, Option.bind_some, List.foldlM_cons, colon,
      Option.bind_eq_bind, Option.bind_some, conveys.delivers _ _ (Or.inl rfl)]
    rfl

/-- A member with others behind it. -/
theorem Gathers.cons (first : Conveys text j found) (others : Gathers more members later) :
    Gathers (quote name ++ ":" ++ text ++ "," ++ more) ((name, j) :: members)
      ((.text (some name) :: .colon :: found) ++ .comma :: later) where
  spells := by
    have member : Gathers (quote name ++ ":" ++ text) [(name, j)] _ := first.gathers
    simpa using member.spells.between others.spells (c := ',') rfl
  -- The first member closes at the comma, and the comma leaves a name to be expected.
  adds done frames expect waits := by
    rw [List.foldlM_append, first.gathers.adds _ _ _ waits]
    simp [Reading.step?, Reading.stepSeparator?, others.adds]

/-- An object around its members. -/
theorem Gathers.conveys (gathers : Gathers text members found) :
    Conveys ("\x7b" ++ text ++ "\x7d") (.object members)
      (.openObject :: (found ++ [.closeObject])) where
  spells := by
    simpa using (gathers.spells.between spells_nil (c := '\x7d') rfl).mark (c := '\x7b') rfl
  delivers frames expect waits := by
    -- The brace opens a frame of its own, in which the members are gathered.
    have opened : Reading.step? ⟨frames, expect⟩ .openObject =
        some ⟨.object [] true :: frames, .firstName⟩ := by
      rcases waits with rfl | rfl <;> rfl
    rw [List.foldlM_cons, opened, Option.bind_eq_bind, Option.bind_some, List.foldlM_append,
      gathers.adds _ _ _ (Or.inr rfl)]
    simp [Reading.step?, Reading.stepSeparator?, Reading.closeObject?]

end Parts

section Documents

/-- The items of an array are added as they are written. -/
theorem exists_lists (each : ∀ j ∈ items, ∃ found, Conveys (write j) j found) (some : items ≠ []) :
    ∃ found, Lists (writeItems items) items found := by
  -- Only the last item has no comma behind it, so the list is split twice.
  induction items with
  | nil => exact absurd rfl some
  | cons j items ih =>
    obtain ⟨found, conveys⟩ := each j List.mem_cons_self
    cases items with
    | nil => exact ⟨found, by simpa [writeItems] using conveys.lists⟩
    | cons next items =>
      obtain ⟨later, others⟩ :=
        ih (fun j member => each j (List.mem_cons_of_mem _ member)) (by simp)
      exact ⟨_, by simpa [writeItems] using Lists.cons conveys others⟩

/-- The members of an object are added as they are written. -/
theorem exists_gathers (each : ∀ m ∈ members, ∃ found, Conveys (write m.2) m.2 found)
    (some : members ≠ []) : ∃ found, Gathers (writeMembers members) members found := by
  -- Only the last member has no comma behind it, so the list is split twice.
  induction members with
  | nil => exact absurd rfl some
  | cons m members ih =>
    obtain ⟨name, j⟩ := m
    obtain ⟨found, conveys⟩ := each (name, j) List.mem_cons_self
    cases members with
    | nil => exact ⟨_, by simpa [writeMembers] using conveys.gathers⟩
    | cons next members =>
      obtain ⟨later, others⟩ :=
        ih (fun m member => each m (List.mem_cons_of_mem _ member)) (by simp)
      exact ⟨_, by simpa [writeMembers] using Gathers.cons conveys others⟩

/-- What is written of a document conveys it. -/
theorem Plain.exists_conveys (plain : Plain j) : ∃ found, Conveys (write j) j found := by
  induction plain with
  | null => exact ⟨_, conveys_word (List.all_eq_true.mp rfl) (by decide) rfl⟩
  | bool b =>
    cases b with
    | true => exact ⟨_, conveys_word (List.all_eq_true.mp rfl) (by decide) rfl⟩
    | false => exact ⟨_, conveys_word (List.all_eq_true.mp rfl) (by decide) rfl⟩
  | integer n least greatest =>
    exact ⟨_, conveys_token (spells_integer least greatest) (fun _ => rfl) (by simp)⟩
  | string s => exact ⟨_, conveys_token (spells_quote s) (fun _ => rfl) (by simp)⟩
  -- The empty array has a spelling of its own, with nothing between the brackets.
  | array items _ each =>
    by_cases none : items = []
    · subst none
      exact ⟨_, conveys_empty_array⟩
    · obtain ⟨found, lists⟩ := exists_lists each none
      exact ⟨_, lists.conveys⟩
  -- The same holds of the empty object.
  | object members _ each =>
    by_cases none : members = []
    · subst none
      exact ⟨_, conveys_empty_object⟩
    · obtain ⟨found, gathers⟩ := exists_gathers each none
      exact ⟨_, gathers.conveys⟩

theorem allSound_iff : allSound items = true ↔ ∀ j ∈ items, j.isSound = true := by
  induction items with
  | nil => simp [allSound]
  | cons j items ih => simp [allSound, ih]

theorem allMembersSound_iff :
    allMembersSound members = true ↔ ∀ m ∈ members, m.2.isSound = true := by
  induction members with
  | nil => simp [allMembersSound]
  | cons m members ih => simp [allMembersSound, ih]

/-- A plain document stands for a value in each of its parts. -/
theorem Plain.isSound (plain : Plain j) : j.isSound = true := by
  induction plain with
  | array items _ each => exact allSound_iff.mpr each
  | object members _ each => exact allMembersSound_iff.mpr each
  | _ => rfl

/-- A document is read as it is written. -/
theorem Plain.read?_write (plain : Plain j) : read? (write j) = some j := by
  obtain ⟨found, conveys⟩ := plain.exists_conveys
  have tokens : tokens? (write j).toList = some found := conveys.spells.tokens?
  have delivered := conveys.delivers [] .value (Or.inl rfl)
  simp [read?, tokens, ofTokens?, Reading.start, delivered, Reading.deliver, Reading.finish?]

end Documents

end DeviceUpdate.Json
