import DeviceUpdate.Json.Instant

/-! Targets: the devices that software is delivered to. -/

namespace DeviceUpdate

/-- How far a target agrees with what is assigned to it. -/
inductive UpdateStatus where
  /-- The target is known but has never polled. -/
  | unknown
  /-- The target has polled, and nothing is pending. -/
  | registered
  /-- An assignment is in flight. -/
  | pending
  /-- The last deployment failed. -/
  | error
  /-- The installed set is the assigned one. -/
  | inSync
  deriving DecidableEq, Repr

namespace UpdateStatus

/-- The name of a status in records. -/
def name : UpdateStatus → String
  | unknown => "UNKNOWN"
  | registered => "REGISTERED"
  | pending => "PENDING"
  | error => "ERROR"
  | inSync => "IN_SYNC"

/-- The statuses by name. -/
def names : List (String × UpdateStatus) :=
  [unknown, registered, pending, error, inSync].map fun s => (s.name, s)

end UpdateStatus

/-- A managed device. -/
structure Target where
  tenant : String
  /-- The name of the device within its tenant. -/
  controller : String
  status : UpdateStatus
  /-- The network address of the last poll. -/
  address : Option String
  lastPoll : Option Instant
  /-- The distribution set assigned last. -/
  assigned : Option Nat
  /-- The distribution set installed last. -/
  installed : Option Nat
  installedAt : Option Instant
  /-- Whether the device is to report its attributes. -/
  wantsAttributes : Bool
  attributes : Table String String
  createdAt : Instant
  createdBy : String
  modifiedAt : Instant
  deriving DecidableEq

namespace Target

/-- The key of a target: its tenant and its name with a slash between them. -/
def keyOf (tenant controller : String) : String :=
  tenant ++ "/" ++ controller

/-- The key of a target. -/
def key (t : Target) : String :=
  keyOf t.tenant t.controller

/-- A target that has never polled. -/
def new (tenant controller createdBy : String) (now : Instant) : Target where
  tenant := tenant
  controller := controller
  status := .unknown
  address := none
  lastPoll := none
  assigned := none
  installed := none
  installedAt := none
  -- A new target is asked for its attributes.
  wantsAttributes := true
  attributes := .empty
  createdAt := now
  createdBy := createdBy
  modifiedAt := now

/-- The record of a target. -/
def toJson (t : Target) : Json :=
  .object [
    ("tenant", .string t.tenant),
    ("controller_id", .string t.controller),
    ("update_status", .string t.status.name),
    ("address", .ofOption .string t.address),
    ("last_poll_at", .ofOption .ofInstant t.lastPoll),
    ("assigned_ds", .ofOption .natural t.assigned),
    ("installed_ds", .ofOption .natural t.installed),
    ("installed_at", .ofOption .ofInstant t.installedAt),
    ("request_attributes", .bool t.wantsAttributes),
    ("attributes", .ofTexts t.attributes),
    ("created_at", .ofInstant t.createdAt),
    ("created_by", .string t.createdBy),
    ("last_modified_at", .ofInstant t.modifiedAt)]

/-- The names of the fields in their order. -/
def fields : List String :=
  ["tenant", "controller_id", "update_status", "address", "last_poll_at", "assigned_ds",
    "installed_ds", "installed_at", "request_attributes", "attributes", "created_at",
    "created_by", "last_modified_at"]

/-- Reads the record of a target. -/
def ofJson? (j : Json) : Option Target := do
  let r ← Json.Record.read? fields j
  pure {
    tenant := ← r.required "tenant" Json.text?
    controller := ← r.required "controller_id" Json.text?
    status := ← r.required "update_status" (Json.named? UpdateStatus.names)
    address := ← r.optional "address" Json.text?
    lastPoll := ← r.optional "last_poll_at" Json.instant?
    assigned := ← r.optional "assigned_ds" Json.natural64?
    installed := ← r.optional "installed_ds" Json.natural64?
    installedAt := ← r.optional "installed_at" Json.instant?
    wantsAttributes := ← r.required "request_attributes" Json.flag?
    attributes := ← r.required "attributes" Json.texts?
    createdAt := ← r.required "created_at" Json.instant?
    createdBy := ← r.required "created_by" Json.text?
    modifiedAt := ← r.required "last_modified_at" Json.instant? }

end Target

end DeviceUpdate
