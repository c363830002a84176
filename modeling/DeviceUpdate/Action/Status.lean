/-! The states of an action. -/

namespace DeviceUpdate

/-- The state of an action. -/
inductive Status where
  | scheduled
  | running
  | download
  | downloaded
  | canceling
  | canceled
  | cancelRejected
  | finished
  | error
  | warning
  | retrieved
  deriving DecidableEq, Repr

namespace Status

/-- Every status, in the order in which they are declared. -/
def all : List Status :=
  [scheduled, running, download, downloaded, canceling, canceled, cancelRejected, finished, error,
    warning, retrieved]

/-- The name of a status in records. -/
def name : Status → String
  | scheduled => "SCHEDULED"
  | running => "RUNNING"
  | download => "DOWNLOAD"
  | downloaded => "DOWNLOADED"
  | canceling => "CANCELING"
  | canceled => "CANCELED"
  | cancelRejected => "CANCEL_REJECTED"
  | finished => "FINISHED"
  | error => "ERROR"
  | warning => "WARNING"
  | retrieved => "RETRIEVED"

/-- The word for a status in messages. -/
def word : Status → String
  | scheduled => "Scheduled"
  | running => "Running"
  | download => "Download"
  | downloaded => "Downloaded"
  | canceling => "Canceling"
  | canceled => "Canceled"
  | cancelRejected => "CancelRejected"
  | finished => "Finished"
  | error => "Error"
  | warning => "Warning"
  | retrieved => "Retrieved"

/-- The statuses by name. -/
def names : List (String × Status) :=
  all.map fun s => (s.name, s)

/-- Whether a status ends an action for good. -/
def isTerminal : Status → Bool
  | finished | error | canceled => true
  | _ => false

end Status

end DeviceUpdate
