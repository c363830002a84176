import DeviceUpdate.Proofs.Toml.Statement

/-! The document that written tables make: each table stands under its name, with its values in
order. -/

namespace DeviceUpdate.Toml

variable {front inner : Entries} {header path : List String} {key name : String}
  {origin : Origin} {change : Origin → Entries → Option Entries} {put : Entries → Entries}
  {entries : List (String × Scalar)}

section Changes

/-- Nothing is found under a key that no entry has. -/
theorem lookup_eq_none : front.lookup key = none ↔ ∀ e ∈ front, e.1 ≠ key := by
  rw [List.lookup_eq_none_iff]
  refine forall₂_congr fun e _ => ?_
  rw [bne_iff_ne, ne_comm]

/-- What stands last under a key is found if no other has the key. -/
theorem lookup_last (absent : front.lookup key = none) (node : Node) :
    (front ++ [(key, node)]).lookup key = some node := by
  simp [List.lookup_append, absent]

/-- What stands last under a key is replaced if no other has the key. -/
theorem replace_last (absent : front.lookup key = none) (node next : Node) :
    Entries.replace (front ++ [(key, node)]) key next = front ++ [(key, next)] := by
  have others : front.map (fun e => if e.1 = key then (key, next) else e) = front := by
    refine (List.map_congr_left fun e member => ?_).trans (List.map_id front)
    rw [if_neg (lookup_eq_none.mp absent e member)]
    rfl
  simp [Entries.replace, others]

/-- A path leads on from where its first part leads. -/
theorem modifyAt_append (path more : List String) (outset : Origin) (front : Entries) :
    Entries.modifyAt false change (path ++ more) outset front =
      Entries.modifyAt false (Entries.modifyAt false change more) path outset front := by
  induction path generalizing outset front with
  | nil => rfl
  | cons key path ih =>
    simp only [List.cons_append, Entries.modifyAt]
    split <;> simp only [ih]

/-- A header leads into the table that stands last under its name. -/
theorem modifyAt_last (absent : front.lookup key = none) (outset : Origin) :
    Entries.modifyAt false change [key] outset (front ++ [(key, .table origin inner)]) =
      (change origin inner).map fun inner => front ++ [(key, .table origin inner)] := by
  simp only [Entries.modifyAt, lookup_last absent, Bool.false_and, Bool.false_eq_true, if_false]
  cases change origin inner with
  | none => rfl
  | some inner => simp [replace_last absent]

/-- A header brings a table along that was missing on the way. -/
theorem modifyAt_new (absent : front.lookup key = none) (outset : Origin) :
    Entries.modifyAt false change [key] outset front =
      Entries.modifyAt false change [key] outset (front ++ [(key, .table .implied [])]) := by
  rw [modifyAt_last absent]
  simp only [Entries.modifyAt, absent, Bool.false_eq_true, if_false]
  cases change .implied [] with
  | none => rfl
  | some inner => rfl

end Changes

section Tables

/-- A header leads to a place in the tables, whatever stands there. -/
def Focus (header : List String) (put : Entries → Entries) : Prop :=
  ∀ (change : Entries → Option Entries) (inner : Entries),
    Entries.modifyAt false (fun _ => change) header .header (put inner) = (change inner).map put

/-- No header leads to the outermost tables. -/
theorem focus_outermost : Focus [] id :=
  fun change inner => by simp [Entries.modifyAt]

/-- A longer header leads to the table that stands last under its last part. -/
theorem Focus.last (focus : Focus path put) (absent : front.lookup name = none) (origin : Origin) :
    Focus (path ++ [name]) fun inner => put (front ++ [(name, .table origin inner)]) := by
  intro change inner
  have inside : Entries.modifyAt false (fun _ => change) [name] =
      fun _ => Entries.modifyAt false (fun _ => change) [name] .header := rfl
  rw [modifyAt_append, inside, focus, modifyAt_last absent, Option.map_map]
  rfl

/-- The values of a table under their keys. -/
def tableOf (entries : List (String × Scalar)) : Entries :=
  entries.map fun entry => (entry.1, .value entry.2.toJson)

/-- The values of a table are put into it one after another. -/
theorem foldlM_pairs (focus : Focus header put)
    (distinct : ((inner ++ tableOf entries).map (·.1)).Nodup) :
    (entries.map fun entry => Statement.pair ⟨[], entry.1⟩ entry.2.toJson).foldlM Draft.step?
      ⟨put inner, header⟩ = some ⟨put (inner ++ tableOf entries), header⟩ := by
  -- The pairs are added one after the other, each under a name that is still free.
  induction entries generalizing inner with
  | nil => simp [tableOf]
  | cons entry entries ih =>
    have new : inner.lookup entry.1 = none := by
      rw [List.map_append] at distinct
      refine lookup_eq_none.mpr fun e member same => ?_
      have apart := (List.nodup_append.mp distinct).2.2 e.1 (List.mem_map_of_mem member) entry.1
      exact apart (by simp [tableOf]) same
    have assigned : inner.assign [] entry.1 entry.2.toJson =
        some (inner.add entry.1 (.value entry.2.toJson)) := by
      simp [Entries.assign, Entries.modifyAt, new]
    have step : Draft.step? ⟨put inner, header⟩ (.pair ⟨[], entry.1⟩ entry.2.toJson) =
        some ⟨put (inner.add entry.1 (.value entry.2.toJson)), header⟩ := by
      simp [Draft.step?, Entries.assignUnder, focus _ inner, assigned]
    have others := @ih (inner.add entry.1 (.value entry.2.toJson)) (by
      simpa [Entries.add, tableOf] using distinct)
    rw [List.map_cons, List.foldlM_cons, step, Option.bind_eq_bind, Option.bind_some, others]
    simp [Entries.add, tableOf]

/-- The statements of a table put it behind all others. -/
theorem foldlM_table (focus : Focus path put) (absent : front.lookup name = none)
    (distinct : (entries.map (·.1)).Nodup) (header : List String) :
    (Section.statements ⟨path ++ [name], entries⟩).foldlM Draft.step? ⟨put front, header⟩ =
      some ⟨put (front ++ [(name, .table .header (tableOf entries))]), path ++ [name]⟩ := by
  have key : headerKey (path ++ [name]) = ⟨path, name⟩ := by simp [headerKey]
  have opened : Draft.step? ⟨put front, header⟩ (.table ⟨path, name⟩) =
      some ⟨put (front ++ [(name, .table .header [])]), path ++ [name]⟩ := by
    simp [Draft.step?, Entries.openTable, focus _ front, absent, Entries.add, Key.parts]
  -- Opening the table leaves the draft at its empty inside, where the pairs go.
  have unlike : (([] ++ tableOf entries : Entries).map (·.1)).Nodup := by
    simpa [tableOf, Function.comp_def] using distinct
  have filled := foldlM_pairs (focus.last absent .header) unlike
  rw [Section.statements, List.foldlM_cons, key, opened, Option.bind_eq_bind, Option.bind_some]
  exact filled

/-- A table by its name and its values. -/
abbrev Named := String × List (String × Scalar)

/-- The statements of tables under one header. -/
def statementsUnder (path : List String) (tables : List Named) : List Statement :=
  tables.flatMap fun t => Section.statements ⟨path ++ [t.1], t.2⟩

/-- What stands under the names of tables with headers. -/
def nodesOf (tables : List Named) : Entries :=
  tables.map fun t => (t.1, .table .header (tableOf t.2))

/-- A table is not found among those of other names. -/
theorem lookup_nodesOf {tables : List Named} (absent : name ∉ tables.map (·.1)) :
    (nodesOf tables).lookup name = none := by
  refine lookup_eq_none.mpr fun e member same => absent ?_
  obtain ⟨t, inside, rfl⟩ := List.mem_map.mp member
  exact List.mem_map.mpr ⟨t, inside, same⟩

/-- Tables under one header come to stand one behind another. -/
theorem foldlM_tables (focus : Focus path put) (before : List Named) {tables : List Named}
    (distinct : ((before ++ tables).map (·.1)).Nodup)
    (apart : ∀ t ∈ tables, (t.2.map (·.1)).Nodup) (header : List String) :
    ∃ final, (statementsUnder path tables).foldlM Draft.step? ⟨put (nodesOf before), header⟩ =
      some ⟨put (nodesOf (before ++ tables)), final⟩ := by
  -- The tables before are kept in the draft, so the induction carries them along.
  induction tables generalizing before header with
  | nil => exact ⟨header, by simp [statementsUnder]⟩
  | cons t tables ih =>
    have absent : t.1 ∉ before.map (·.1) := fun member => by
      rw [List.map_append] at distinct
      exact (List.nodup_append.mp distinct).2.2 _ member t.1 (by simp) rfl
    have here := foldlM_table focus (lookup_nodesOf absent) (apart t List.mem_cons_self) header
    obtain ⟨final, others⟩ := ih (before ++ [t]) (by simpa using distinct)
      (fun u member => apart u (List.mem_cons_of_mem _ member)) (path ++ [t.1])
    refine ⟨final, ?_⟩
    have grown : nodesOf (before ++ [t]) =
        nodesOf before ++ [(t.1, .table .header (tableOf t.2))] := by simp [nodesOf]
    rw [statementsUnder, List.flatMap_cons, List.foldlM_append, here, Option.bind_eq_bind,
      Option.bind_some, ← grown, ← statementsUnder, others]
    simp

/-- Tables under a header that stands nowhere itself bring its table along. -/
theorem foldlM_nested (absent : front.lookup key = none) {tables : List Named}
    (some : tables ≠ []) (distinct : (tables.map (·.1)).Nodup)
    (apart : ∀ t ∈ tables, (t.2.map (·.1)).Nodup) (header : List String) :
    ∃ final, (statementsUnder [key] tables).foldlM Draft.step? ⟨front, header⟩ =
      .some ⟨front ++ [(key, .table .implied (nodesOf tables))], final⟩ := by
  -- The first table implies the outer one, and all the others find it there.
  obtain ⟨t, tables, rfl⟩ := List.exists_cons_of_ne_nil some
  have opened : Draft.step? ⟨front, header⟩ (.table ⟨[key], t.1⟩) =
      Draft.step? ⟨front ++ [(key, .table .implied [])], header⟩ (.table ⟨[key], t.1⟩) := by
    rw [Draft.step?, Draft.step?, Entries.openTable, Entries.openTable, modifyAt_new absent]
  obtain ⟨final, filled⟩ := foldlM_tables (focus_outermost.last absent .implied) []
    distinct apart header
  obtain ⟨others, starts⟩ : ∃ others, statementsUnder [key] (t :: tables) =
      .table ⟨[key], t.1⟩ :: others := ⟨_, rfl⟩
  refine ⟨final, ?_⟩
  rw [starts, List.foldlM_cons, opened, ← List.foldlM_cons, ← starts]
  exact filled

end Tables

section Documents

/-- A written text is read as the document that its statements make. -/
theorem read?_writeAll {sections : List Section} (fits : ∀ t ∈ sections, t.Fits) :
    read? (String.ofList (Section.writeAll sections)) =
      ofStatements? (sections.flatMap Section.statements) := by
  have lines := (lines_writeAll fits).readAll?
  -- Whether anything is written depends only on there being a section.
  have bracket : Section.writeAll sections = [] ∨
      ∃ cs, Section.writeAll sections = '[' :: cs := by
    match sections with
    | [] => exact .inl rfl
    | [t] => exact .inr ⟨_, rfl⟩
    | t :: next :: rest => exact .inr ⟨_, rfl⟩
  -- A header comes first, so that no byte order mark is dropped.
  rcases bracket with nothing | ⟨cs, opens⟩
  · simp only [nothing] at lines ⊢
    simp [read?, lines]
  · have unmarked : ('[' == byteOrderMark) = false := by decide
    rw [opens] at lines ⊢
    simp [read?, unmarked, lines]

/-- The members of a table. -/
def memberOf (entry : String × Scalar) : String × Json :=
  (entry.1, entry.2.toJson)

theorem membersOf_eq_map (front : Entries) :
    membersOf front = front.map fun e => (e.1, e.2.toJson) := by
  induction front with
  | nil => rfl
  | cons e front ih => rw [membersOf, ih, List.map_cons]

theorem membersOf_nodesOf (tables : List Named) :
    membersOf (nodesOf tables) = tables.map fun t => (t.1, .object (t.2.map memberOf)) := by
  simp [membersOf_eq_map, nodesOf, tableOf, memberOf, Node.toJson, Function.comp_def]

/-- Tables one behind another make a document. -/
theorem ofStatements?_tables {tables : List Named} (distinct : (tables.map (·.1)).Nodup)
    (apart : ∀ t ∈ tables, (t.2.map (·.1)).Nodup) :
    ofStatements? (statementsUnder [] tables) =
      some (.object (tables.map fun t => (t.1, .object (t.2.map memberOf)))) := by
  obtain ⟨final, folded⟩ := foldlM_tables focus_outermost [] distinct apart []
  have drafted : (statementsUnder [] tables).foldlM Draft.step? .start =
      some ⟨nodesOf tables, final⟩ := folded
  rw [ofStatements?, drafted, Option.map_some, Entries.toJson, membersOf_nodesOf]

/-- Tables, and further ones behind them under one header, make a document. -/
theorem ofStatements?_nested {tables nested : List Named} (some : nested ≠ [])
    (distinct : (tables.map (·.1)).Nodup) (absent : key ∉ tables.map (·.1))
    (apart : ∀ t ∈ tables, (t.2.map (·.1)).Nodup) (unlike : (nested.map (·.1)).Nodup)
    (inside : ∀ t ∈ nested, (t.2.map (·.1)).Nodup) :
    ofStatements? (statementsUnder [] tables ++ statementsUnder [key] nested) =
      .some (.object (tables.map (fun t => (t.1, .object (t.2.map memberOf))) ++
        [(key, .object (nested.map fun t => (t.1, .object (t.2.map memberOf))))])) := by
  -- First the tables on the outermost level are filled, and then the nested ones.
  obtain ⟨middle, begun⟩ := foldlM_tables focus_outermost [] distinct apart []
  have drafted : (statementsUnder [] tables).foldlM Draft.step? .start =
      .some ⟨nodesOf tables, middle⟩ := begun
  obtain ⟨final, ended⟩ := foldlM_nested (lookup_nodesOf absent) some unlike inside middle
  rw [ofStatements?, List.foldlM_append, drafted, Option.bind_eq_bind, Option.bind_some, ended,
    Option.map_some, Entries.toJson, membersOf_eq_map, List.map_append, ← membersOf_eq_map,
    membersOf_nodesOf]
  simp [Node.toJson, membersOf_nodesOf]

end Documents

end DeviceUpdate.Toml
