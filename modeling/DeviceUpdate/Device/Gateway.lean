import DeviceUpdate.Deployment.Administration
import DeviceUpdate.Device.Document
import DeviceUpdate.Device.Validator

/-! The requests of devices. -/

namespace DeviceUpdate.Device

/-- Why a request of a device fails. -/
inductive Error where
  | targetNotFound (controller : String)
  | actionNotFound (id : Nat)
  | notInstalled (id : Nat)
  | setNotFound (id : Nat)
  | deploy (e : DeployError)
  deriving DecidableEq, Repr

namespace Error

/-- The wording of an error. -/
def message : Error → String
  | targetNotFound controller => "target not found: " ++ controller
  | actionNotFound id => "action not found: " ++ Text.decimal id
  | notInstalled id => "action " ++ Text.decimal id ++ " has not been installed"
  | setNotFound id => "distribution set not found: " ++ Text.decimal id
  | deploy e => e.message

/-- The category of an error. -/
def failure : Error → Failure
  | targetNotFound _ | actionNotFound _ | notInstalled _ | setNotFound _ => .notFound
  | deploy e => e.failure

end Error

/-- A computation that may leave the calendar. -/
def inCalendar {α : Type} : Except OutOfCalendar α → Except Error α
  | .ok a => .ok a
  | .error _ => .error (.deploy .outOfCalendar)

/-- A computation whose numbers may outgrow their bits. -/
def inBits {α : Type} : Except Text.Overrun α → Except Error α
  | .ok a => .ok a
  | .error _ => .error (.deploy .overrun)

/-- The target that a poll leaves behind. -/
def polled (known : Option Target) (tenant controller : String) (address : Option String)
    (now : Instant) : Target :=
  -- A device that polls need not be registered beforehand.
  let target := known.getD (.new tenant controller "plug-and-play" now)
  { target with
    status := if target.status = .unknown then .registered else target.status
    lastPoll := some now
    address := address <|> target.address }

/-- Notes a poll on the target, which is registered if it is new; the flag tells whether it was. -/
def touch (s : Store) (tenant controller : String) (address : Option String) (now : Instant) :
    (Target × Bool) × Store :=
  let known := s.target? tenant controller
  let target := polled known tenant controller address now
  ((target, known.isNone), s.putTarget target)

/-- The weight that counts for an action without one. -/
def rank (a : Action) : Nat :=
  a.weight?.getD maxWeight

/-- Whether an action is to be worked on before another, where several may be in flight. -/
def precedes (multi : Bool) (a b : Action) : Bool :=
  if multi && rank a != rank b then rank b < rank a else a.id < b.id

/-- The first of the actions to be worked on. -/
def first? (multi : Bool) : List Action → Option Action
  | [] => none
  | a :: rest =>
    match first? multi rest with
    | none => some a
    | some b => if precedes multi b a then some b else some a

/-- The deployment that a device is to work on: the heaviest in flight, and of those the oldest. -/
def current? (multi : Bool) (actions : List Action) : Option Action :=
  first? multi (actions.filter (·.isInFlight))

/-- The first pending cancellation. -/
def pendingCancel? (actions : List Action) : Option Action :=
  actions.find? fun a => a.active && a.isCancel

/-- The last deployment that was installed. -/
def installed? (actions : List Action) : Option Action :=
  actions.reverse.find? fun a => !a.isCancel && a.status == .finished

/-- The path under which a device finds its documents. -/
def basePath (tenant controller : String) : String :=
  "/" ++ tenant ++ "/controller/v1/" ++ controller

/-- What an answer to a poll depends on. -/
def pollParts (target : Target) (current cancel installed : Option Action) (sleep : Span) :
    -- The status of an action is part of what the tag is made of.
    List (String × Validator.Value) :=
  let tagged (a : Option Action) : Validator.Value :=
    match a with
    | some a => .present (.withStatus a.id a.status)
    | none => .absent
  [("assigned", .ofNumber? target.assigned), ("installed", .ofNumber? target.installed),
    ("deployment", tagged current), ("cancel", tagged cancel),
    ("installed_action", .ofNumber? (installed.map (·.id))),
    ("config_data", .flag target.wantsAttributes), ("sleep", .number sleep.seconds)]

/-- The answer to a poll of a target with these actions. -/
def pollDocument (target : Target) (tenant controller : String)
    (current cancel installed : Option Action) (sleep : Span) : PollDocument :=
  let base := basePath tenant controller
  -- The links name the actions, and lead to the endpoints that tell of them.
  let link (name : String) (a : Option Action) : Option String :=
    a.map fun a => base ++ "/" ++ name ++ "/" ++ Text.decimal a.id
  { sleep := sleep.clock
    deploymentBase := link "deploymentBase" current
    cancelAction := link "cancelAction" cancel
    configData := if target.wantsAttributes then some (base ++ "/configData") else none
    installedBase := link "installedBase" installed }

/-- How long a device sleeps that works on an action, if on any. -/
def timeToSleep (settings : TenantSettings) (current : Option Action) (now : Instant) :
    Except Error Span := do
  -- Without a deployment no window is waited for.
  let policy ← inBits ((current.bind (·.deployment?)).elim (.ok .always) Deployment.policy)
  inCalendar (pollSleep settings policy now)

/-- Answers a poll of a target that has been noted. -/
def answerPoll (s : Store) (settings : TenantSettings) (target : Target)
    (tenant controller : String) (now : Instant) : Except Error (Tagged PollDocument) := do
  let actions := s.actionsOf tenant controller
  let current := current? settings.multiAssignments actions
  let cancel := pendingCancel? actions
  let installed := installed? actions
  -- The sleep depends on the window of the deployment at hand, and alone can fail.
  let sleep ← timeToSleep settings current now
  pure ⟨pollDocument target tenant controller current cancel installed sleep,
    Validator.tag "poll" (pollParts target current cancel installed sleep)⟩

/-- Notes a poll and answers it; the note stays even if no answer can be computed. -/
def poll (settings : TenantSettings) (tenant controller : String) (address : Option String)
    (now : Instant) (s : Store) : Except Error (Tagged PollDocument) × Store :=
  let ((target, _), s) := touch s tenant controller address now
  (answerPoll s settings target tenant controller now, s)

/-- An action of a registered target, of the given kind. -/
def actionOf (s : Store) (tenant controller : String) (id : Nat) (cancel : Bool) :
    Except Error Action := do
  if (s.target? tenant controller).isNone then throw (.targetNotFound controller)
  -- Actions of other targets cannot be told from unknown ones.
  let own (a : Action) : Bool := a.controller == controller && a.isCancel == cancel
  match (s.action? tenant id).filter own with
  | some a => pure a
  | none => throw (.actionNotFound id)

/-- How many log entries are asked for: all for minus one, and none for other negative numbers. -/
def historyLimit (requested : Option Int) (length : Nat) : Option Nat :=
  match requested with
  | none => none
  | some n => if n = -1 then some length else if 0 < n then some n.toNat else none

/-- A log entry as a device sees it. -/
def entryText (e : LogEntry) : String :=
  let head := Timestamp.writeSeconds e.occurredAt ++ " " ++ e.status.name
  if e.messages.isEmpty then head else head ++ ": " ++ Text.joinWith "; " e.messages

/-- The newest entries of the log of an action, as many as are asked for. -/
def history (s : Store) (a : Action) (requested : Option Int) : Option HistoryDocument :=
  -- The newest entries come first, and the oldest are left out.
  let entries := s.logOf a.id
  (historyLimit requested entries.length).map fun limit =>
    ⟨a.status, (entries.reverse.take limit).map entryText⟩

/-- What the instructions of a deployment depend on. -/
def deploymentParts (a : Action) (set : DistributionSet) (d : DeploymentDocument) :
    List (String × Validator.Value) :=
  let window : Validator.Value := match d.window with
    | some w => .present (.availability w)
    | none => .absent
  -- Of the history, only its length and its newest line are part of the tag.
  let head : Validator.Value := match d.history.bind (·.messages.head?) with
    | some m => .present (.text m)
    | none => .absent
  [("action", .withStatus a.id a.status),
    ("distribution_set", .tuple [.number set.id, .text set.version]),
    ("handling", .tuple [.directive d.download, .directive d.update, window]),
    ("history", .ofNumber? (d.history.map (·.messages.length))), ("history_head", head)]

/-- The instructions of an action that deploys software. -/
def deploymentDocument (s : Store) (a : Action) (requested : Option Int) (now : Instant) :
    Except Error (Tagged DeploymentDocument) := do
  match a.deployment? with
  | none => throw (.actionNotFound a.id)
  | some d =>
    match s.set? a.tenant d.distributionSet with
    | none => throw (.setNotFound d.distributionSet)
    | some set =>
      -- All three depend on the window, which is read from its texts again at every request.
      let policy ← inBits d.policy
      let update ← inCalendar (d.update policy now)
      let window ← inCalendar (policy.availability now)
      let body : DeploymentDocument :=
        ⟨a.id, d.download now, update, window, set.modules, history s a requested⟩
      pure ⟨body, Validator.tag "deployment" (deploymentParts a set body)⟩

/-- The instructions of a deployment of a target. -/
def deploymentBase (tenant controller : String) (id : Nat) (requested : Option Int) (now : Instant)
    (s : Store) : Except Error (Tagged DeploymentDocument) := do
  deploymentDocument s (← actionOf s tenant controller id false) requested now

/-- The instructions of a deployment that a target has installed. -/
def installedBase (tenant controller : String) (id : Nat) (requested : Option Int) (now : Instant)
    (s : Store) : Except Error (Tagged DeploymentDocument) := do
  let a ← actionOf s tenant controller id false
  -- What is still on its way is found under the deployments.
  if a.status != .finished then throw (.notInstalled id)
  deploymentDocument s a requested now

/-- The instruction to give up a deployment. -/
def cancelAction (tenant controller : String) (id : Nat) (s : Store) :
    Except Error (Tagged CancelDocument) := do
  let a ← actionOf s tenant controller id true
  match a.cancels? with
  | none => throw (.actionNotFound id)
  | some stop =>
    pure ⟨⟨a.id, stop⟩, Validator.tag "cancel"
      [("action", .withStatus a.id a.status), ("stop", .number stop)]⟩

/-- Takes a report of a registered target on one of its actions of the given kind. -/
def report (settings : TenantSettings) (tenant controller : String) (id : Nat) (f : Feedback)
    (cancel : Bool) (now : Instant) : Transaction Error Deployments.Reported := do
  if ← Transaction.read fun s => (s.target? tenant controller).isNone then
    throw (.targetNotFound controller)
  (Deployments.report settings tenant controller id f cancel now).mapError .deploy

/-- Takes the attributes that a target sends. -/
def configData (tenant controller : String) (r : Deployments.AttributeReport) (now : Instant) :
    Transaction Error Target :=
  (Deployments.updateAttributes tenant controller r now).mapError .deploy

end DeviceUpdate.Device
