import DeviceUpdate.Action.Status
import DeviceUpdate.Json.Instant

/-! The entries of the log that every action has. -/

namespace DeviceUpdate

/-- Who wrote an entry. -/
inductive Source where
  /-- The server. -/
  | system
  /-- The device, through its feedback. -/
  | device
  deriving DecidableEq, Repr

namespace Source

/-- The name of a source in records. -/
def name : Source → String
  | system => "system"
  | device => "device"

/-- The sources by name. -/
def names : List (String × Source) :=
  [system, device].map fun s => (s.name, s)

end Source

/-- An entry of the log of an action. -/
structure LogEntry where
  action : Nat
  /-- The position in the log. -/
  position : Nat
  status : Status
  source : Source
  occurredAt : Instant
  code : Option Int
  messages : List String
  deriving DecidableEq

namespace LogEntry

/-- The record of an entry. -/
def toJson (e : LogEntry) : Json :=
  .object [("action_id", .natural e.action), ("seq", .natural e.position),
    ("status", .string e.status.name), ("source", .string e.source.name),
    ("occurred_at", .ofInstant e.occurredAt), ("code", .ofOption .integer e.code),
    ("messages", .ofList .string e.messages)]

/-- Reads the record of an entry. -/
def ofJson? (j : Json) : Option LogEntry := do
  let r ← Json.Record.read?
    ["action_id", "seq", "status", "source", "occurred_at", "code", "messages"] j
  pure {
    action := ← r.required "action_id" Json.natural64?
    position := ← r.required "seq" Json.natural64?
    status := ← r.required "status" (Json.named? Status.names)
    source := ← r.required "source" (Json.named? Source.names)
    occurredAt := ← r.required "occurred_at" Json.instant?
    code := ← r.optional "code" Json.signed32?
    messages := ← r.required "messages" (Json.list? Json.text?) }

end LogEntry

end DeviceUpdate
