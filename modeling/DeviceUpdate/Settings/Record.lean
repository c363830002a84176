import DeviceUpdate.Json.Record
import DeviceUpdate.Network.Endpoint
import DeviceUpdate.Time.Span

/-! The settings of the server and of its tenants. -/

namespace DeviceUpdate

/-- The settings of a tenant. -/
structure TenantSettings where
  /-- How long devices sleep between polls. -/
  polling : Span
  /-- The shortest time for which devices are told to sleep. -/
  minPolling : Span
  /-- How many times a device polls before a window opens. -/
  windowPolls : Nat
  /-- Whether a target may have several deployments at once. -/
  multiAssignments : Bool
  /-- How many log entries of an action its device may write. -/
  maxEntries : Nat
  /-- How many messages a report may carry. -/
  maxMessages : Nat
  /-- How many targets a group may have. -/
  maxGroupTargets : Nat
  /-- How many groups a rollout may have. -/
  maxGroups : Nat
  deriving DecidableEq, Repr

namespace TenantSettings

/-- The settings where nothing else is said. -/
def standard : TenantSettings where
  polling := .ofSeconds 300
  minPolling := .ofSeconds 30
  windowPolls := 3
  multiAssignments := false
  maxEntries := 100
  maxMessages := 50
  maxGroupTargets := 20000
  maxGroups := 500

/-- How long devices sleep when no window lies ahead. -/
def effectivePolling (s : TenantSettings) : Span :=
  s.polling.max s.minPolling

/-- The record of the settings. -/
def members (s : TenantSettings) : List (String × Json) :=
  [("polling_time", .string s.polling.clock), ("min_polling_time", .string s.minPolling.clock),
    ("maintenance_window_poll_count", .natural s.windowPolls),
    ("multi_assignments", .bool s.multiAssignments),
    ("max_status_entries_per_action", .natural s.maxEntries),
    ("max_messages_per_status", .natural s.maxMessages),
    ("max_targets_per_rollout_group", .natural s.maxGroupTargets),
    ("max_groups_per_rollout", .natural s.maxGroups)]

/-- The names of the fields in their order. -/
def fields : List String :=
  ["polling_time", "min_polling_time", "maintenance_window_poll_count", "multi_assignments",
    "max_status_entries_per_action", "max_messages_per_status", "max_targets_per_rollout_group",
    "max_groups_per_rollout"]

/-- A span in hours, minutes and seconds. -/
def span? (j : Json) : Option Span :=
  (Json.text? j).bind fun s => (Span.read Span.readClock s).toOption

/-- Reads the record of the settings; what is missing is standard. -/
def read? (surplus : Json.Surplus) (j : Json) : Option TenantSettings := do
  let r ← Json.Record.readWith? surplus fields j
  -- What is missing is as in the standard settings.
  pure {
    polling := ← r.defaulted "polling_time" span? standard.polling
    minPolling := ← r.defaulted "min_polling_time" span? standard.minPolling
    windowPolls := ←
      r.defaulted "maintenance_window_poll_count" Json.natural32? standard.windowPolls
    multiAssignments := ← r.defaulted "multi_assignments" Json.flag? standard.multiAssignments
    maxEntries := ← r.defaulted "max_status_entries_per_action" Json.natural32? standard.maxEntries
    maxMessages := ← r.defaulted "max_messages_per_status" Json.natural32? standard.maxMessages
    maxGroupTargets := ←
      r.defaulted "max_targets_per_rollout_group" Json.natural32? standard.maxGroupTargets
    maxGroups := ← r.defaulted "max_groups_per_rollout" Json.natural32? standard.maxGroups }

/-- Reads the record of the settings, in which every item is that of a field. -/
def ofJson? : Json → Option TenantSettings :=
  read? .refused

/-- Whether a field is a span of more seconds than can be counted. -/
def isOverrun (field : String × Json) : Bool :=
  ["polling_time", "min_polling_time"].contains field.1 &&
    (Json.text? field.2).any fun s =>
      match Span.readClock s with
      | .error .overrun => true
      | _ => false

/-- Whether the first field of a record that is not read is such a span. -/
def overruns (surplus : Json.Surplus) (j : Json) : Bool :=
  let isUnread (field : String × Json) := (read? surplus (.object [field])).isNone
  ((Json.namedIn fields j).find? isUnread).any isOverrun

end TenantSettings

/-- All settings. -/
structure Settings where
  /-- Where the server listens. -/
  bind : Network.Endpoint
  /-- Where the server keeps its data. -/
  dataDirectory : String
  /-- How many seconds lie between two looks at the rollouts. -/
  tickSeconds : Nat
  /-- The settings of tenants that have none of their own. -/
  defaults : TenantSettings
  /-- The settings of tenants by name. -/
  tenants : Table String TenantSettings
  deriving DecidableEq

namespace Settings

/-- The settings where nothing else is said. -/
def standard : Settings where
  -- The server listens on all addresses.
  bind := ⟨.v4 [0, 0, 0, 0], 0, 8080⟩
  dataDirectory := "/var/lib/fleetgrid"
  tickSeconds := 10
  defaults := .standard
  tenants := .empty

/-- The settings of a tenant. -/
def tenant (s : Settings) (name : String) : TenantSettings :=
  (s.tenants.get? name).getD s.defaults

/-- The record of the settings. -/
def toJson (s : Settings) : Json :=
  .object [
    ("server", .object
      [("bind", .string s.bind.write), ("data_dir", .string s.dataDirectory)]),
    ("scheduler", .object [("tick_secs", .natural s.tickSeconds)]),
    ("tenant_defaults", .object s.defaults.members),
    ("tenants", .object (s.tenants.entries.map fun (name, t) => (name, .object t.members)))]

/-- Reads the record of the server: where it listens and keeps its data. -/
def server? (surplus : Json.Surplus) (j : Json) : Option (Network.Endpoint × String) := do
  let r ← Json.Record.readWith? surplus ["bind", "data_dir"] j
  let endpoint ← r.defaulted "bind" (fun j => (Json.text? j).bind Network.Endpoint.read?)
    standard.bind
  let directory ← r.defaulted "data_dir" Json.text? standard.dataDirectory
  pure (endpoint, directory)

/-- Reads the record of the scheduler: the seconds of a tick. -/
def scheduler? (surplus : Json.Surplus) (j : Json) : Option Nat := do
  let r ← Json.Record.readWith? surplus ["tick_secs"] j
  r.defaulted "tick_secs" Json.natural64? standard.tickSeconds

/-- Reads the settings of tenants by name; the last settings of a name count. -/
def tenants? (surplus : Json.Surplus) : Json → Option (Table String TenantSettings)
  | .object members =>
    let tenant? (m : String × Json) : Option (String × TenantSettings) :=
      (TenantSettings.read? surplus m.2).map fun t => (m.1, t)
    (members.mapM tenant?).map Table.ofList
  | _ => none

/-- The names of the fields in their order. -/
def fields : List String :=
  ["server", "scheduler", "tenant_defaults", "tenants"]

/-- Reads the record of the settings; what is missing is standard. -/
def read? (surplus : Json.Surplus) (j : Json) : Option Settings := do
  let r ← Json.Record.readWith? surplus fields j
  let (endpoint, directory) ←
    r.defaulted "server" (server? surplus) (standard.bind, standard.dataDirectory)
  pure {
    bind := endpoint
    dataDirectory := directory
    tickSeconds := ← r.defaulted "scheduler" (scheduler? surplus) standard.tickSeconds
    defaults := ← r.defaulted "tenant_defaults" (TenantSettings.read? surplus) standard.defaults
    tenants := ← r.defaulted "tenants" (tenants? surplus) standard.tenants }

/-- Reads the record of the settings, in which every item is that of a field. -/
def ofJson? : Json → Option Settings :=
  read? .refused

/-- Whether a field has a span in it, of some tenant, of more seconds than can be counted. -/
def isOverrun (surplus : Json.Surplus) (field : String × Json) : Bool :=
  let isUnread (tenant : String × Json) := (TenantSettings.read? surplus tenant.2).isNone
  match field.1 with
  | "tenant_defaults" => TenantSettings.overruns surplus field.2
  | "tenants" =>
    ((Json.namedIn [] field.2).find? isUnread).any (TenantSettings.overruns surplus ·.2)
  | _ => false

/-- Whether the first value of a record that is not read is such a span. -/
def overruns (surplus : Json.Surplus) (j : Json) : Bool :=
  let isUnread (field : String × Json) := (read? surplus (.object [field])).isNone
  ((Json.namedIn fields j).find? isUnread).any (isOverrun surplus)

/-- What is wrong with settings. -/
inductive Fault where
  /-- There is no time between two ticks. -/
  | noTickSeconds
  /-- A tenant's devices never poll before a window. -/
  | noWindowPolls (name : String)
  /-- A tenant's devices may write no log entries. -/
  | noEntries (name : String)
  /-- A tenant's rollouts may have no groups. -/
  | noGroups (name : String)
  deriving DecidableEq, Repr

/-- The wording of a fault. -/
def Fault.message : Fault → String
  | noTickSeconds => "scheduler.tick_secs must be positive"
  | noWindowPolls name => name ++ ": maintenance_window_poll_count must be positive"
  | noEntries name => name ++ ": max_status_entries_per_action must be positive"
  | noGroups name => name ++ ": max_groups_per_rollout must be positive"

/-- The first fault in the settings of a tenant. -/
def tenantFault? (name : String) (t : TenantSettings) : Option Fault :=
  if t.windowPolls = 0 then some (.noWindowPolls name)
  else if t.maxEntries = 0 then some (.noEntries name)
  else if t.maxGroups = 0 then some (.noGroups name)
  else none

/-- The first fault in the settings, where tenants come in the order of their names. -/
def fault? (s : Settings) : Option Fault :=
  if s.tickSeconds = 0 then some .noTickSeconds
  else
    tenantFault? "tenant_defaults" s.defaults <|>
      s.tenants.entries.findSome? fun (name, t) => tenantFault? name t

end Settings

end DeviceUpdate
