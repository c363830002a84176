import DeviceUpdate.Deployment.Error
import DeviceUpdate.Device.Gateway
import DeviceUpdate.Http.MediaType
import DeviceUpdate.Rollout.Error
import DeviceUpdate.Store.Transaction

/-! What answers a request: a computation on the store that ends early where it cannot go on. -/

namespace DeviceUpdate.Http

/-- Why an answer ends early. -/
inductive Halt where
  /-- The response is settled already. -/
  | answered (r : Response)
  /-- There is no response, because an instant beyond the calendar was to be computed, or a number
  that its bits cannot hold. -/
  | stopped
  deriving Repr

namespace Halt

/-- The end that a failed deployment operation comes to. -/
def ofDeploy : DeployError → Halt
  | .outOfCalendar | .overrun => stopped
  | e => answered (.failure e.failure e.message)

/-- The end that a failed request of a device comes to. -/
def ofDevice : Device.Error → Halt
  | .deploy e => ofDeploy e
  | e => answered (.failure e.failure e.message)

/-- The end that a failed rollout operation comes to. -/
def ofRollout : Rollouts.Error → Halt
  | .deploy e => ofDeploy e
  | e => answered (.failure e.failure e.message)

end Halt

/-- A computation on the store; what it has stored stays when it ends early. -/
abbrev Handler := ExceptT Halt (StateM Store)

namespace Handler

variable {ε α : Type}

/-- Ends with a refusal. -/
def refuse (code : StatusCode) (message : String) : Handler α :=
  throw (.answered (.refusal code message))

/-- What a computation leaves in the store, and its value or why it ends early. -/
def ofStep (halt : ε → Halt) (step : Store → Except ε α × Store) : Handler α :=
  ExceptT.mk fun s =>
    match step s with
    | (.ok a, s) => (.ok a, s)
    | (.error e, s) => (.error (halt e), s)

/-- Carries a transaction out. -/
def transact (halt : ε → Halt) (t : Transaction ε α) : Handler α :=
  ofStep halt t.run

/-- What can be found in the store. -/
def look (halt : ε → Halt) (f : Store → Except ε α) : Handler α :=
  ofStep halt fun s => (f s, s)

/-- The value in the body of a request, which must be JSON. -/
def body (r : Request) (decode : Json → Option α) : Handler α :=
  if !r.hasJson then
    refuse .unsupportedMediaType "Expected request with `Content-Type: application/json`"
  else
    match (Json.read? r.body).bind decode with
    | some a => pure a
    | none => refuse .badRequest "<bad body>"

/-- The number that a name in a path spells; a text that spells none can name nothing. -/
def number (kind text : String) : Handler Nat :=
  match Text.unsigned? (Nat.pow 2 64) text.toList with
  | some n => pure n
  | none => refuse .notFound (kind ++ " not found: " ++ text)

/-- Runs a computation on a store. -/
def run (h : Handler α) (s : Store) : Except Halt α × Store :=
  StateT.run (ExceptT.run h) s

theorem run_look (halt : ε → Halt) (f : Store → Except ε α) (s : Store) :
    ((look halt f).run s).2 = s := by
  -- Neither branch touches the store.
  simp only [run, look, ofStep, ExceptT.run, ExceptT.mk, StateT.run]
  split <;> simp_all

end Handler

end DeviceUpdate.Http
