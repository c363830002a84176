import DeviceUpdate.Proofs.Settings.Range
import DeviceUpdate.Proofs.Toml.Document

/-! A settings file that is written from loaded settings is loaded as the same settings. -/

namespace DeviceUpdate

open Toml (Named statementsUnder memberOf)

section Tenants

variable {s : TenantSettings}

/-- The values of a tenant can be written. -/
theorem TenantSettings.Fits.entries (fits : s.Fits) : ∀ entry ∈ s.entries, entry.2.Fits := by
  have numbers := fits.windowPolls
  have entries := fits.maxEntries
  have messages := fits.maxMessages
  have targets := fits.maxGroupTargets
  have groups := fits.maxGroups
  simp [TenantSettings.entries, Toml.Scalar.Fits]
  omega

/-- No key of a tenant stands twice. -/
theorem TenantSettings.nodup_entries (s : TenantSettings) : (s.entries.map (·.1)).Nodup := by
  simp [TenantSettings.entries]

theorem TenantSettings.map_memberOf_entries (s : TenantSettings) :
    s.entries.map memberOf = s.members := rfl

theorem TenantSettings.span?_clock {d : Span} (whole : d.Whole) :
    span? (.string d.clock) = some d := by
  have read := whole.read_clock
  simp [span?, read, Except.toOption]

/-- The settings of a tenant are read from their record. -/
theorem TenantSettings.Fits.read?_members (fits : s.Fits) (surplus : Json.Surplus) :
    read? surplus (.object s.members) = some s := by
  -- Each setting is read back by itself, the two spans from their clocks and the limits as numbers.
  have polling := span?_clock fits.polling
  have minPolling := span?_clock fits.minPolling
  have windowPolls := (Json.faithful_natural32 fits.windowPolls).back
  have maxEntries := (Json.faithful_natural32 fits.maxEntries).back
  have maxMessages := (Json.faithful_natural32 fits.maxMessages).back
  have maxGroupTargets := (Json.faithful_natural32 fits.maxGroupTargets).back
  have maxGroups := (Json.faithful_natural32 fits.maxGroups).back
  have distinct : (s.members.map (·.1)).Nodup := by simp [members]
  rw [read?, Json.Record.readWith?_object surplus distinct]
  simp [members, polling, minPolling, windowPolls, maxEntries, maxMessages, maxGroupTargets,
    maxGroups]

end Tenants

namespace Settings

variable {s : Settings} {order : List (String × TenantSettings)}

section Tables

/-- The tables of a settings file that are none of a single tenant. -/
def common (s : Settings) : List Named :=
  [("server", [("bind", .text s.bind.write), ("data_dir", .text s.dataDirectory)]),
    ("scheduler", [("tick_secs", .integer s.tickSeconds)]), ("tenant_defaults", s.defaults.entries)]

/-- The tables of tenants by their names. -/
def tablesOf (order : List (String × TenantSettings)) : List Named :=
  order.map fun (name, t) => (name, t.entries)

/-- The tables of a settings file, where the tenants come in some order. -/
def sectionsIn (s : Settings) (order : List (String × TenantSettings)) : List Toml.Section :=
  s.common.map (fun t => ⟨[t.1], t.2⟩) ++
    match order with
    | [] => [⟨["tenants"], []⟩]
    | order => (tablesOf order).map fun t => ⟨["tenants", t.1], t.2⟩

/-- Writes the text of a settings file, where the tenants come in some order. -/
def writeIn (s : Settings) (order : List (String × TenantSettings)) : String :=
  String.ofList (Toml.Section.writeAll (s.sectionsIn order))

/-- The text of a settings file has the tenants in the order of their names. -/
theorem writeIn_entries (s : Settings) : s.writeIn s.tenants.entries = s.write := by
  have same : s.sectionsIn s.tenants.entries = s.sections := by
    unfold sectionsIn sections tenantSections
    cases s.tenants.entries with
    | nil => rfl
    | cons e entries => simp [common, tablesOf, Function.comp_def]
  rw [writeIn, same, write]

/-- The document of settings, where the tenants come in some order. -/
def documentIn (s : Settings) (order : List (String × TenantSettings)) : Json :=
  .object (s.common.map (fun t => (t.1, .object (t.2.map memberOf))) ++
    [("tenants", .object ((tablesOf order).map fun t => (t.1, .object (t.2.map memberOf))))])

/-- The values of the common tables can be written. -/
theorem fits_common (fits : s.Fits) : ∀ t ∈ s.common, ∀ entry ∈ t.2, entry.2.Fits := by
  intro t member
  simp only [common, List.mem_cons, List.not_mem_nil, or_false] at member
  rcases member with rfl | rfl | rfl
  -- Only the tick of the scheduler and the limits of the defaults are bounded.
  · simp [Toml.Scalar.Fits]
  · have tick := fits.tick
    simp [Toml.Scalar.Fits]
    omega
  · exact fits.defaults.entries

theorem fits_sectionsIn (fits : s.Fits) (tenants : ∀ e ∈ order, e.2.Fits) :
    ∀ t ∈ s.sectionsIn order, t.Fits := by
  intro t member
  rcases List.mem_append.mp member with member | member
  · obtain ⟨t, inside, rfl⟩ := List.mem_map.mp member
    exact ⟨by simp, by simp [Toml.maxNesting], fits_common fits t inside⟩
  -- An empty section stands for the tenants if there are none.
  · cases order with
    | nil =>
      cases List.mem_singleton.mp member
      exact ⟨by simp, by simp [Toml.maxNesting], fun entry absent => by cases absent⟩
    | cons e order =>
      obtain ⟨t, inside, rfl⟩ := List.mem_map.mp member
      obtain ⟨e, listed, rfl⟩ := List.mem_map.mp inside
      exact ⟨by simp, by simp [Toml.maxNesting], (tenants e listed).entries⟩

/-- No key of a common table stands twice. -/
theorem nodup_common (s : Settings) : ∀ t ∈ s.common, (t.2.map (·.1)).Nodup := by
  intro t member
  simp only [common, List.mem_cons, List.not_mem_nil, or_false] at member
  rcases member with rfl | rfl | rfl
  · simp
  · simp
  · exact s.defaults.nodup_entries

/-- The text of settings is read as their document. -/
theorem read?_writeIn (fits : s.Fits) (tenants : ∀ e ∈ order, e.2.Fits)
    (distinct : (order.map (·.1)).Nodup) :
    Toml.read? (s.writeIn order) = some (s.documentIn order) := by
  rw [writeIn, Toml.read?_writeAll (fits_sectionsIn fits tenants)]
  cases order with
  | nil =>
    -- An empty table stands for all tenants.
    have text : (s.sectionsIn []).flatMap Toml.Section.statements =
        statementsUnder [] (s.common ++ [("tenants", [])]) := by
      simp [sectionsIn, statementsUnder, List.flatMap_map]
    have names : ((s.common ++ [("tenants", [])] : List Named).map (·.1)).Nodup := by
      simp [common]
    have apart : ∀ t ∈ (s.common ++ [("tenants", [])] : List Named), (t.2.map (·.1)).Nodup := by
      simpa [or_imp, forall_and] using s.nodup_common
    rw [text, Toml.ofStatements?_tables names apart]
    simp [documentIn, tablesOf]
  -- Each tenant has a table of its own, nested below the one for all.
  | cons e order =>
    have text : (s.sectionsIn (e :: order)).flatMap Toml.Section.statements =
        statementsUnder [] s.common ++ statementsUnder ["tenants"] (tablesOf (e :: order)) := by
      simp [sectionsIn, statementsUnder, List.flatMap_map]
    have names : (s.common.map (·.1)).Nodup := by simp [common]
    have absent : "tenants" ∉ s.common.map (·.1) := by simp [common]
    have unlike : ((tablesOf (e :: order)).map (·.1)).Nodup := by
      simpa [tablesOf, Function.comp_def] using distinct
    have inside : ∀ t ∈ tablesOf (e :: order), (t.2.map (·.1)).Nodup := by
      intro t member
      obtain ⟨e, -, rfl⟩ := List.mem_map.mp member
      exact e.2.nodup_entries
    have some : tablesOf (e :: order) ≠ [] := by simp [tablesOf]
    rw [text, Toml.ofStatements?_nested some names absent s.nodup_common unlike inside]
    rfl

end Tables

section Records

theorem server?_record (fits : s.bind.Fits) (surplus : Json.Surplus) :
    server? surplus (.object
      [("bind", .string s.bind.write), ("data_dir", .string s.dataDirectory)]) =
      some (s.bind, s.dataDirectory) := by
  have endpoint := Network.Endpoint.read?_write fits
  rw [server?, Json.Record.readWith?_object surplus (by simp)]
  simp [endpoint]

theorem scheduler?_record {n : Nat} (small : n < 2 ^ 63) (surplus : Json.Surplus) :
    scheduler? surplus (.object [("tick_secs", .integer n)]) = some n := by
  have tick : Json.natural64? (.integer n) = some n := (Json.faithful_natural64 (by omega)).back
  rw [scheduler?, Json.Record.readWith?_object surplus (by simp), Option.bind_eq_bind,
    Option.bind_some, Json.Record.defaulted_cons, if_pos rfl, tick]

theorem tenants?_record (tenants : ∀ e ∈ order, e.2.Fits)
    (listed : order.Perm s.tenants.entries) (surplus : Json.Surplus) :
    tenants? surplus (.object (order.map fun e => (e.1, .object e.2.members))) =
      some s.tenants := by
  have each {order : List (String × TenantSettings)} (tenants : ∀ e ∈ order, e.2.Fits) :
      (order.map fun e => (e.1, Json.object e.2.members)).mapM (fun m =>
        (TenantSettings.read? surplus m.2).map fun t => (m.1, t)) = some order := by
    -- The tenants are read in the order of the file, and the table sorts them again.
    induction order with
    | nil => rfl
    | cons e order ih =>
      have others := ih fun e member => tenants e (List.mem_cons_of_mem _ member)
      have here := (tenants e List.mem_cons_self).read?_members surplus
      simp [here, others]
  rw [tenants?, each tenants, Option.map_some, Table.ofList_perm listed]

/-- Settings are read from their document. -/
theorem read?_documentIn (fits : s.Fits) (listed : order.Perm s.tenants.entries)
    (surplus : Json.Surplus) : read? surplus (s.documentIn order) = some s := by
  have tenants : ∀ e ∈ order, e.2.Fits :=
    fun e member => fits.tenants e (listed.mem_iff.mp member)
  have document : s.documentIn order = .object [
      ("server", .object [("bind", .string s.bind.write), ("data_dir", .string s.dataDirectory)]),
      ("scheduler", .object [("tick_secs", .integer s.tickSeconds)]),
      ("tenant_defaults", .object s.defaults.members),
      -- The document is the record of the four groups of settings.
      ("tenants", .object (order.map fun e => (e.1, .object e.2.members)))] := by
    simp only [documentIn, tablesOf, List.map_map, ← TenantSettings.map_memberOf_entries]
    rfl
  rw [document, read?, Json.Record.readWith?_object surplus (by simp)]
  simp [server?_record fits.bind, scheduler?_record fits.tick, fits.defaults.read?_members,
    tenants?_record tenants listed]

end Records

/-- Settings in their ranges and without a fault are loaded from what is written of them. -/
theorem Fits.load_writeIn (fits : s.Fits) (faultless : s.fault? = none)
    (listed : order.Perm s.tenants.entries) : load (some (s.writeIn order)) = .ok s := by
  have tenants : ∀ e ∈ order, e.2.Fits :=
    fun e member => fits.tenants e (listed.mem_iff.mp member)
  have distinct : (order.map (·.1)).Nodup :=
    (listed.map _).nodup_iff.mpr s.tenants.nodup_keys
  simp only [load, ofText, read?_writeIn fits tenants distinct, read?_documentIn fits listed,
    faultless]

/-- The settings that can be loaded are those in their ranges and without a fault, and all of them
are loaded again from the text that is written of them, in whatever order their tenants come. -/
theorem load_write (s : Settings) :
    ((∃ file, load file = .ok s) ↔ s.Fits ∧ s.fault? = none) ∧
      ∀ file, load file = .ok s → load (some s.write) = .ok s ∧
        ∀ order, order.Perm s.tenants.entries → load (some (s.writeIn order)) = .ok s := by
  -- The settings as they are written themselves are the case of the usual order.
  have again (fits : s.Fits) (faultless : s.fault? = none) : load (some s.write) = .ok s := by
    rw [← writeIn_entries]
    exact fits.load_writeIn faultless (List.Perm.refl _)
  refine ⟨⟨?_, ?_⟩, fun file loaded => ?_⟩
  · rintro ⟨file, loaded⟩
    exact of_load loaded
  · rintro ⟨fits, faultless⟩
    exact ⟨_, again fits faultless⟩
  · obtain ⟨fits, faultless⟩ := of_load loaded
    exact ⟨again fits faultless, fun order listed => fits.load_writeIn faultless listed⟩

/-- A scoped address, and tenants without a name and with quotation marks in theirs. -/
theorem load_write_quoted : ∃ s : Settings,
    load (some ("[server]\nbind = \"[2001:db8::1%7]:9090\"\ndata_dir = \"a\\tb\\\\c\"\n" ++
      "[tenants.\"\"]\n[tenants.\"a \\\"b\\\"\"]\npolling_time = \"26:00:01\"\n")) = .ok s ∧
    s.tenants.keys = ["", "a \"b\""] ∧
    load (some s.write) = .ok s ∧
    load (some (s.writeIn s.tenants.entries.reverse)) = .ok s := by
  let s : Settings := { standard with
    bind := ⟨.v6 [0x2001, 0xdb8, 0, 0, 0, 0, 0, 1], 7, 9090⟩
    dataDirectory := "a\tb\\c"
    tenants := (Table.empty.insert "" .standard).insert "a \"b\""
      { TenantSettings.standard with polling := .ofSeconds 93601 } }
  have loaded : load (some
      ("[server]\nbind = \"[2001:db8::1%7]:9090\"\ndata_dir = \"a\\tb\\\\c\"\n" ++
      "[tenants.\"\"]\n[tenants.\"a \\\"b\\\"\"]\npolling_time = \"26:00:01\"\n")) = .ok s := by
    decide +kernel
  obtain ⟨same, others⟩ := (load_write s).2 _ loaded
  exact ⟨s, loaded, by decide +kernel, same, others _ (List.reverse_perm _)⟩

end Settings

end DeviceUpdate
