import DeviceUpdate.Json.Record

/-! What devices report about the actions they carry out. -/

namespace DeviceUpdate

/-- Where a device is in carrying out an action. -/
inductive Execution where
  | scheduled
  | proceeding
  | resumed
  | download
  | downloaded
  | retrieved
  | rejected
  | canceled
  | closed
  deriving DecidableEq, Repr

namespace Execution

/-- The name of an execution in documents. -/
def name : Execution → String
  | scheduled => "scheduled"
  | proceeding => "proceeding"
  | resumed => "resumed"
  | download => "download"
  | downloaded => "downloaded"
  | retrieved => "retrieved"
  | rejected => "rejected"
  | canceled => "canceled"
  | closed => "closed"

/-- The executions by name. -/
def names : List (String × Execution) :=
  [scheduled, proceeding, resumed, download, downloaded, retrieved, rejected, canceled, closed].map
    fun e => (e.name, e)

end Execution

/-- The outcome that a device reports. -/
inductive Outcome where
  | none
  | success
  | failure
  deriving DecidableEq, Repr

namespace Outcome

/-- The name of an outcome in documents. -/
def name : Outcome → String
  | none => "none"
  | success => "success"
  | failure => "failure"

/-- The outcomes by name. -/
def names : List (String × Outcome) :=
  [none, success, failure].map fun o => (o.name, o)

end Outcome

/-- How many steps of how many are done. -/
structure Progress where
  done : Nat
  total : Nat
  deriving DecidableEq, Repr

namespace Progress

/-- The record of a progress. -/
def toJson (p : Progress) : Json :=
  .object [("cnt", .natural p.done), ("of", .natural p.total)]

/-- Reads the record of a progress. -/
def ofJson? (j : Json) : Option Progress := do
  let r ← Json.Record.read? ["cnt", "of"] j
  pure { done := ← r.required "cnt" Json.natural32?, total := ← r.required "of" Json.natural32? }

end Progress

/-- One report of a device. -/
structure Feedback where
  execution : Execution
  outcome : Outcome
  code : Option Int
  progress : Option Progress
  messages : List String
  deriving DecidableEq, Repr

namespace Feedback

/-- The messages as the log holds them, with the progress in front. -/
def logMessages (f : Feedback) : List String :=
  let progress := match f.progress with
    | some p => ["progress " ++ Text.decimal p.done ++ "/" ++ Text.decimal p.total]
    | none => []
  progress ++ f.messages

/-- A member that is left out when there is nothing to say. -/
def memberOf {α : Type} (name : String) (encode : α → Json) : Option α → List (String × Json)
  | none => []
  | some a => [(name, encode a)]

/-- The document that a device sends. -/
def toJson (f : Feedback) : Json :=
  let result := ("finished", Json.string f.outcome.name) ::
    memberOf "progress" Progress.toJson f.progress
  let details := if f.messages.isEmpty then [] else [("details", Json.ofList .string f.messages)]
  .object [("status", .object
    (("execution", .string f.execution.name) :: ("result", .object result) ::
      (memberOf "code" .integer f.code ++ details)))]

/-- Reads the result part of a report. -/
def readResult? (j : Json) : Option (Outcome × Option Progress) := do
  let r ← Json.Record.read? ["finished", "progress"] j
  let outcome ← r.defaulted "finished" (Json.named? Outcome.names) .none
  let progress ← r.defaulted "progress" (Json.nullable Progress.ofJson?) none
  pure (outcome, progress)

/-- Reads the status part of a report. -/
def readStatus? (j : Json) : Option Feedback := do
  let r ← Json.Record.read? ["execution", "result", "code", "details"] j
  let execution ← r.required "execution" (Json.named? Execution.names)
  let (outcome, progress) ← r.required "result" readResult?
  let code ← r.defaulted "code" (Json.nullable Json.signed32?) none
  let messages ← r.defaulted "details" (Json.list? Json.text?) []
  pure ⟨execution, outcome, code, progress, messages⟩

/-- Reads the document that a device sends. -/
def ofJson? (j : Json) : Option Feedback := do
  let r ← Json.Record.read? ["status"] j
  r.required "status" readStatus?

end Feedback

end DeviceUpdate
