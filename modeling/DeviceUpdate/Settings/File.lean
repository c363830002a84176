import DeviceUpdate.Settings.Record
import DeviceUpdate.Toml.Document
import DeviceUpdate.Toml.Writer

/-! The file of the settings: what is read from it, and how it is written. -/

namespace DeviceUpdate

/-- The values of the settings of a tenant. -/
def TenantSettings.entries (s : TenantSettings) : List (String × Toml.Scalar) :=
  [("polling_time", .text s.polling.clock), ("min_polling_time", .text s.minPolling.clock),
    ("maintenance_window_poll_count", .integer s.windowPolls),
    ("multi_assignments", .flag s.multiAssignments),
    ("max_status_entries_per_action", .integer s.maxEntries),
    ("max_messages_per_status", .integer s.maxMessages),
    ("max_targets_per_rollout_group", .integer s.maxGroupTargets),
    ("max_groups_per_rollout", .integer s.maxGroups)]

namespace Settings

/-- Why the settings cannot be read from a text. -/
inductive LoadError where
  /-- The text is not TOML, or its values are not those of settings. -/
  | unreadable
  /-- A span has more seconds than can be counted. -/
  | overrun
  /-- The settings cannot be worked with. -/
  | invalid (fault : Fault)
  deriving DecidableEq, Repr

/-- Reads the text of a settings file, where items beyond the fields of a record are ignored. -/
def ofText (text : String) : Except LoadError Settings :=
  match Toml.read? text with
  | none => .error .unreadable
  | some j =>
    -- Reading fails as well where a duration overruns, and this is told apart here.
    match read? .ignored j with
    | none => .error (if overruns .ignored j then .overrun else .unreadable)
    | some s =>
      -- What has been read is checked last.
      match s.fault? with
      | some fault => .error (.invalid fault)
      | none => .ok s

/-- Reads a settings file, without which all is standard. -/
def load (file : Option String) : Except LoadError Settings :=
  match file with
  | some text => ofText text
  | none => .ok standard

/-- The tables of the tenants; an empty one tells that there are none. -/
def tenantSections (s : Settings) : List Toml.Section :=
  match s.tenants.entries with
  | [] => [⟨["tenants"], []⟩]
  | entries => entries.map fun (name, t) => ⟨["tenants", name], t.entries⟩

/-- The tables of a settings file. -/
def sections (s : Settings) : List Toml.Section :=
  [⟨["server"], [("bind", .text s.bind.write), ("data_dir", .text s.dataDirectory)]⟩,
    ⟨["scheduler"], [("tick_secs", .integer s.tickSeconds)]⟩,
    ⟨["tenant_defaults"], s.defaults.entries⟩] ++ s.tenantSections

/-- Writes the text of a settings file. -/
def write (s : Settings) : String :=
  String.ofList (Toml.Section.writeAll s.sections)

end Settings

end DeviceUpdate
