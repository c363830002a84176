import DeviceUpdate.Proofs.Json.Record
import DeviceUpdate.Proofs.Network.Endpoint
import DeviceUpdate.Proofs.Time.Clock
import DeviceUpdate.Proofs.Toml.Range
import DeviceUpdate.Settings.File

/-! The values of settings that were read lie in the ranges of their fields. -/

namespace DeviceUpdate

/-- The spans of a tenant are whole seconds, and its numbers have 32 bits. -/
structure TenantSettings.Fits (s : TenantSettings) : Prop where
  polling : s.polling.Whole
  minPolling : s.minPolling.Whole
  windowPolls : s.windowPolls < 2 ^ 32
  maxEntries : s.maxEntries < 2 ^ 32
  maxMessages : s.maxMessages < 2 ^ 32
  maxGroupTargets : s.maxGroupTargets < 2 ^ 32
  maxGroups : s.maxGroups < 2 ^ 32

/-- The server has an address, ticks are counted in 63 bits, and the settings of all tenants fit. -/
structure Settings.Fits (s : Settings) : Prop where
  bind : s.bind.Fits
  tick : s.tickSeconds < 2 ^ 63
  defaults : s.defaults.Fits
  tenants : ∀ e ∈ s.tenants.entries, e.2.Fits

namespace Json

variable {α : Type} {j : Json} {r : Record} {name : String} {decode : Json → Option α}
  {standard a : α} {limit missing n : Nat}

/-- Whatever comes out of a list was made of one of its members. -/
theorem of_mem_mapM {β : Type} {f : β → Option α} {l : List β} {made : List α}
    (done : l.mapM f = some made) (member : a ∈ made) : ∃ b ∈ l, f b = some a := by
  induction l generalizing made with
  | nil =>
    cases done
    cases member
  | cons b l ih =>
    rw [List.mapM_cons] at done
    obtain ⟨first, here, done⟩ := Option.bind_eq_some_iff.mp done
    obtain ⟨others, there, same⟩ := Option.bind_eq_some_iff.mp done
    cases same
    rcases List.mem_cons.mp member with rfl | member
    -- What was made comes from the head or from one of the others.
    · exact ⟨b, List.mem_cons_self, here⟩
    · obtain ⟨c, inside, found⟩ := ih there member
      exact ⟨c, List.mem_cons_of_mem _ inside, found⟩

/-- A field is what was read from its place, or what it is when it is missing. -/
theorem Record.of_defaulted (read : r.defaulted name decode standard = some a) :
    a = standard ∨ ∃ j, r.slot name = .given j ∧ decode j = some a := by
  unfold Record.defaulted at read
  split at read
  · exact .inr ⟨_, ‹_›, read⟩
  · exact .inl (Option.some.inj read).symm

/-- What holds of a missing field and of all that can be read for it holds of the field. -/
theorem Record.defaulted_of {P : α → Prop} (otherwise : P standard)
    (each : ∀ j a, decode j = some a → P a) (read : r.defaulted name decode standard = some a) :
    P a := by
  rcases Record.of_defaulted read with rfl | ⟨j, -, found⟩
  · exact otherwise
  · exact each j a found

theorem below?_lt (read : below? limit j = some n) : n < limit := by
  unfold below? at read
  split at read
  · obtain ⟨bounds, same⟩ := Option.ite_none_right_eq_some.mp read
    rw [Bool.and_eq_true, decide_eq_true_eq, decide_eq_true_eq] at bounds
    rw [← Option.some.inj same]
    omega
  · cases read

/-- A field of 32 bits, if it is so also when it is missing. -/
theorem Record.defaulted_natural32_lt (small : missing < 2 ^ 32)
    (read : r.defaulted name natural32? missing = some n) : n < 2 ^ 32 :=
  defaulted_of (P := (· < 2 ^ 32)) small (fun _ _ => below?_lt) read

/-- What a record has in a place is a part of its document. -/
theorem Record.signed_slot {surplus : Surplus} {names : List String} (signed : Toml.Signed j)
    (read : readWith? surplus names j = some r) {value : Json}
    (given : r.slot name = .given value) : Toml.Signed value := by
  unfold readWith? at read
  -- Both shapes of a record take their values from the members of the document.
  cases signed with
  | object members each =>
    simp only [Option.ite_none_left_eq_some] at read
    obtain ⟨-, same⟩ := read
    cases same
    dsimp only [memberSlot] at given
    split at given
    -- A member that is found is one of those of the document.
    · rename_i found
      cases given
      exact each _ (List.mem_of_find?_eq_some found)
    · cases given
  | array items each =>
    simp only [Option.ite_none_left_eq_some] at read
    obtain ⟨-, same⟩ := read
    cases same
    dsimp only [itemSlot] at given
    split at given
    -- So is an item.
    · rename_i found
      cases given
      exact each _ (List.mem_of_getElem? found)
    · cases given
  -- Any other document is no record.
  | _ => cases read

end Json

namespace TenantSettings

theorem fits_standard : standard.Fits where
  polling := Span.whole_ofSeconds (by decide)
  minPolling := Span.whole_ofSeconds (by decide)
  windowPolls := by decide
  maxEntries := by decide
  maxMessages := by decide
  maxGroupTargets := by decide
  maxGroups := by decide

theorem whole_of_span? {j : Json} {d : Span} (read : span? j = some d) : d.Whole := by
  obtain ⟨text, -, found⟩ := Option.bind_eq_some_iff.mp read
  exact Span.whole_of_read (Result.eq_ok_of_toOption found)

/-- Whatever is read as the settings of a tenant fits. -/
theorem fits_of_read {surplus : Json.Surplus} {j : Json} {s : TenantSettings}
    (read : read? surplus j = some s) : s.Fits := by
  obtain ⟨r, -, read⟩ := Option.bind_eq_some_iff.mp read
  obtain ⟨polling, first, read⟩ := Option.bind_eq_some_iff.mp read
  obtain ⟨minPolling, second, read⟩ := Option.bind_eq_some_iff.mp read
  obtain ⟨windowPolls, third, read⟩ := Option.bind_eq_some_iff.mp read
  obtain ⟨multiAssignments, -, read⟩ := Option.bind_eq_some_iff.mp read
  obtain ⟨maxEntries, fourth, read⟩ := Option.bind_eq_some_iff.mp read
  obtain ⟨maxMessages, fifth, read⟩ := Option.bind_eq_some_iff.mp read
  obtain ⟨maxGroupTargets, sixth, read⟩ := Option.bind_eq_some_iff.mp read
  obtain ⟨maxGroups, seventh, read⟩ := Option.bind_eq_some_iff.mp read
  -- A setting that is not in the document has its default, which fits.
  cases read
  have standard := fits_standard
  exact {
    polling := Json.Record.defaulted_of standard.polling (fun _ _ => whole_of_span?) first
    minPolling := Json.Record.defaulted_of standard.minPolling (fun _ _ => whole_of_span?) second
    windowPolls := Json.Record.defaulted_natural32_lt standard.windowPolls third
    maxEntries := Json.Record.defaulted_natural32_lt standard.maxEntries fourth
    maxMessages := Json.Record.defaulted_natural32_lt standard.maxMessages fifth
    maxGroupTargets := Json.Record.defaulted_natural32_lt standard.maxGroupTargets sixth
    maxGroups := Json.Record.defaulted_natural32_lt standard.maxGroups seventh }

end TenantSettings

namespace Settings

variable {surplus : Json.Surplus} {j : Json}

theorem fits_standard : standard.Fits where
  bind := ⟨.v4 rfl (by decide), by decide, fun _ _ => rfl, by decide⟩
  tick := by decide
  defaults := TenantSettings.fits_standard
  tenants e member := by cases member

theorem fits_of_server? {endpoint : Network.Endpoint} {directory : String}
    (read : server? surplus j = some (endpoint, directory)) : endpoint.Fits := by
  obtain ⟨r, -, read⟩ := Option.bind_eq_some_iff.mp read
  obtain ⟨bind, found, read⟩ := Option.bind_eq_some_iff.mp read
  obtain ⟨_, -, same⟩ := Option.bind_eq_some_iff.mp read
  cases same
  refine Json.Record.defaulted_of fits_standard.bind (fun j e read => ?_) found
  obtain ⟨text, -, read⟩ := Option.bind_eq_some_iff.mp read
  exact Network.Endpoint.fits_of_read read

/-- The numbers of a document that has a sign and 64 bits are below their half. -/
theorem lt_of_scheduler? {n : Nat} (signed : Toml.Signed j)
    (read : scheduler? surplus j = some n) : n < 2 ^ 63 := by
  obtain ⟨r, record, read⟩ := Option.bind_eq_some_iff.mp read
  -- The default is small, and a number of the document has a sign and 63 bits.
  rcases Json.Record.of_defaulted read with rfl | ⟨value, given, number⟩
  · decide
  · cases Json.Record.signed_slot signed record given with
    | integer m limited =>
      obtain ⟨-, same⟩ := Option.ite_none_right_eq_some.mp number
      have small : m < ((2 ^ 63 : Nat) : Int) := limited
      rw [← Option.some.inj same]
      omega
    | _ => cases number

theorem fits_of_tenants? {tenants : Table String TenantSettings}
    (read : tenants? surplus j = some tenants) : ∀ e ∈ tenants.entries, e.2.Fits := by
  unfold tenants? at read
  -- Sorting the tenants into the table adds none.
  split at read
  · obtain ⟨listed, found, rfl⟩ := Option.map_eq_some_iff.mp read
    intro e member
    have inside := Table.mem_of_get?_ofList (Table.mem_entries_iff.mp member)
    obtain ⟨m, -, made⟩ := Json.of_mem_mapM found inside
    obtain ⟨t, one, same⟩ := Option.map_eq_some_iff.mp made
    rw [← (Prod.mk.inj same).2]
    exact TenantSettings.fits_of_read one
  · cases read

/-- Whatever is read as settings from a text fits. -/
theorem fits_of_read {s : Settings} (signed : Toml.Signed j) (read : read? surplus j = some s) :
    s.Fits := by
  obtain ⟨r, record, read⟩ := Option.bind_eq_some_iff.mp read
  obtain ⟨⟨endpoint, directory⟩, server, read⟩ := Option.bind_eq_some_iff.mp read
  obtain ⟨tick, scheduler, read⟩ := Option.bind_eq_some_iff.mp read
  obtain ⟨defaults, tenant, read⟩ := Option.bind_eq_some_iff.mp read
  obtain ⟨tenants, table, same⟩ := Option.bind_eq_some_iff.mp read
  cases same
  have standard := fits_standard
  -- Every group of settings is either left out or read from a value of the document.
  refine ⟨?_, ?_, ?_, ?_⟩
  · exact Json.Record.defaulted_of (P := fun server => server.1.Fits) standard.bind
      (fun _ _ => fits_of_server?) server
  · rcases Json.Record.of_defaulted scheduler with rfl | ⟨value, given, found⟩
    · exact standard.tick
    · exact lt_of_scheduler? (Json.Record.signed_slot signed record given) found
  · exact Json.Record.defaulted_of standard.defaults
      (fun _ _ => TenantSettings.fits_of_read) tenant
  · exact Json.Record.defaulted_of (P := fun tenants => ∀ e ∈ tenants.entries, e.2.Fits)
      standard.tenants (fun _ _ => fits_of_tenants?) table

/-- Whatever is loaded fits and can be worked with. -/
theorem of_load {file : Option String} {s : Settings} (loaded : load file = .ok s) :
    s.Fits ∧ s.fault? = none := by
  cases file with
  -- Without a file the settings are the standard ones.
  | none =>
    cases loaded
    exact ⟨fits_standard, rfl⟩
  | some text =>
    rw [load, ofText] at loaded
    -- The text is a document, the document has settings in it, and these have no fault.
    cases document : Toml.read? text with
    | none =>
      rw [document] at loaded
      cases loaded
    | some j =>
      simp only [document] at loaded
      split at loaded
      · cases loaded
      · rename_i record
        split at loaded
        · cases loaded
        · cases loaded
          exact ⟨fits_of_read (Toml.signed_of_read document) record, ‹_›⟩

end Settings

end DeviceUpdate
