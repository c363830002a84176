import DeviceUpdate.Deployment.Reporting

/-! What administrators do with targets and actions. -/

namespace DeviceUpdate.Deployments

/-- How attributes that a device sends combine with those it has. -/
inductive AttributeMode where
  /-- They are added, and replace those of the same names. -/
  | merge
  /-- They replace all others. -/
  | replace
  /-- Those of the same names are removed. -/
  | remove
  deriving DecidableEq, Repr

namespace AttributeMode

/-- The name of a mode in documents. -/
def name : AttributeMode → String
  | merge => "merge"
  | replace => "replace"
  | remove => "remove"

/-- The modes by name. -/
def names : List (String × AttributeMode) :=
  [merge, replace, remove].map fun m => (m.name, m)

/-- The attributes of a target after a device has sent some. -/
def apply (mode : AttributeMode) (old sent : Table String String) : Table String String :=
  match mode with
  | merge => sent.entries.foldl (fun t e => t.insert e.1 e.2) old
  | replace => sent
  | remove => old.filter fun name _ => !sent.contains name

end AttributeMode

/-- Attributes that a device sends. -/
structure AttributeReport where
  mode : AttributeMode
  data : Table String String
  deriving DecidableEq

namespace AttributeReport

/-- The record of a report. -/
def toJson (r : AttributeReport) : Json :=
  .object [("mode", .string r.mode.name), ("data", .ofTexts r.data)]

/-- Reads the record of a report. -/
def ofJson? (j : Json) : Option AttributeReport := do
  let r ← Json.Record.read? ["mode", "data"] j
  pure {
    mode := ← r.defaulted "mode" (Json.named? AttributeMode.names) .merge
    data := ← r.required "data" Json.texts? }

end AttributeReport

/-- Registers a target that has not polled yet. -/
def createTarget (tenant controller : String) (attributes : Table String String) (now : Instant) :
    Transaction DeployError Target := do
  if ← Transaction.read fun s => (s.target? tenant controller).isSome then
    throw (.targetExists controller)
  let target := { Target.new tenant controller "system" now with attributes := attributes }
  Transaction.change fun s => s.putTarget target
  pure target

/-- Takes the attributes that a device sends. -/
def updateAttributes (tenant controller : String) (r : AttributeReport) (now : Instant) :
    Transaction DeployError Target := do
  let target ← Transaction.orElse (← Transaction.read fun s => s.target? tenant controller)
    (.targetNotFound controller)
  let updated := { target with
    attributes := r.mode.apply target.attributes r.data
    wantsAttributes := false
    modifiedAt := now }
  Transaction.change fun s => s.putTarget updated
  pure updated

/-- Assigns a distribution set to a target. -/
def assign (settings : TenantSettings) (tenant controller : String) (q : AssignmentRequest)
    (now : Instant) : Transaction DeployError Assigned :=
  assignIn settings tenant controller q none now

/-- Starts the cancellation of a deployment. -/
def cancel (tenant : String) (id : Nat) (now : Instant) : Transaction DeployError Action := do
  let subject ← Transaction.orElse (← Transaction.read fun s => s.action? tenant id)
    (.actionNotFound id)
  cancelIn subject now

/-- Refuses a pending cancellation, so that the deployment goes on. -/
def rejectCancel (tenant : String) (id : Nat) (now : Instant) :
    Transaction DeployError Action := do
  let cancel ← Transaction.orElse (← Transaction.read fun s => s.action? tenant id)
    (.actionNotFound id)
  let subjectId ← Transaction.orElse cancel.cancels? (.actionNotFound id)
  let subject ← Transaction.orElse (← Transaction.read fun s => s.action? tenant subjectId)
    (.actionNotFound subjectId)
  let (rejected, resumed) ← liftM (cancel.rejectCancel subject now)
  Transaction.change fun s => s.putAction rejected.action
  Transaction.note cancel.id .cancelRejected now "cancellation rejected by administrator"
  -- A subject that is not waiting for the cancellation has nothing to go on with.
  if resumed.action ≠ subject then
    Transaction.change fun s => s.putAction resumed.action
    Transaction.note subject.id .running now
      ("cancel action " ++ Text.decimal cancel.id ++ " rejected")
  pure rejected.action

/-- The actions of a target, oldest first. -/
def actions (s : Store) (tenant controller : String) : Except DeployError (List Action) :=
  if (s.target? tenant controller).isSome then .ok (s.actionsOf tenant controller)
  else .error (.targetNotFound controller)

/-- An action of a tenant. -/
def action (s : Store) (tenant : String) (id : Nat) : Except DeployError Action :=
  match s.action? tenant id with
  | some a => .ok a
  | none => .error (.actionNotFound id)

/-- A target of a tenant. -/
def target (s : Store) (tenant controller : String) : Except DeployError Target :=
  match s.target? tenant controller with
  | some t => .ok t
  | none => .error (.targetNotFound controller)

/-- Stores a new distribution set under the next number. -/
def createSet {ε : Type} (tenant name version : String) (modules : List SoftwareModule)
    (now : Instant) : Transaction ε DistributionSet := do
  let id ← Transaction.draw "distribution_set"
  let set : DistributionSet := ⟨id, tenant, name, version, modules, now⟩
  Transaction.change fun s => s.putSet set
  pure set

end DeviceUpdate.Deployments
