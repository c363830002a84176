import DeviceUpdate.Json.Record
import DeviceUpdate.Time.Timestamp

/-! Instants in documents. -/

namespace DeviceUpdate.Json

/-- An instant, from its timestamp. -/
def instant? : Json → Option Instant
  | string s => Timestamp.read? s
  | _ => none

/-- The timestamp of an instant. -/
def ofInstant (t : Instant) : Json :=
  string (Timestamp.write t)

end DeviceUpdate.Json
