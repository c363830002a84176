import DeviceUpdate.Proofs.Deployment.Range
import DeviceUpdate.Proofs.Http.Address
import DeviceUpdate.Proofs.Http.Refusal
import DeviceUpdate.Proofs.Service.Conformity
import DeviceUpdate.Proofs.Service.Installation

/-! The links in the answers to polls, and what becomes of the requests that follow them. -/

namespace DeviceUpdate.Http

open Deployments (Conforms Furnished Indexed)
open Device (PollDocument)

section Requests

variable {ε α : Type} {settings : Settings} {now : Instant} {r : Request} {s s' : Store}

namespace Handler

/-- The value in a body that can be read. -/
theorem run_body {decode : Json → Option α} {a : α} (json : r.hasJson = true)
    (read : (Json.read? r.body).bind decode = some a) (s : Store) :
    (body r decode).run s = (.ok a, s) := by
  simp only [body, json, read]
  rfl

/-- The number of which a name has the digits. -/
theorem run_number (kind : String) {n : Nat} (small : n < 2 ^ 64) (s : Store) :
    (number kind (Text.decimal n)).run s = (.ok n, s) := by
  have read : Text.unsigned? (Nat.pow 2 64) (Text.decimal n).toList = some n :=
    Text.unsigned?_decimal small
  simp only [number, read]
  rfl

theorem run_look_ok {halt : ε → Halt} {f : Store → Except ε α} {a : α} (found : f s = .ok a) :
    (look halt f).run s = (.ok a, s) := by
  simp only [run, look, ofStep, ExceptT.run, ExceptT.mk, StateT.run, found]

theorem run_transact_ok {halt : ε → Halt} {t : Transaction ε α} {a : α} (done : t s = .ok (a, s')) :
    (transact halt t).run s = (.ok a, s') := by
  simp only [run, transact, ofStep, Transaction.run, ExceptT.run, ExceptT.mk, StateT.run, done]

end Handler

namespace DeviceApi

/-- Without a query, no log entries are asked for. -/
theorem history_none (plain : r.query = "") : history r = pure none := by
  have none : Text.formValues "actionHistory" r.query.toList = [] := by
    rw [plain]
    decide +kernel
  rw [history, none]

/-- A document is sent in full to a client that names no validator. -/
theorem tagged_ok {encode : α → Json} {d : Device.Tagged α}
    (fresh : r.headers.all "if-none-match" = []) : (tagged r encode d).code = .ok := by
  simp [tagged, isKnown, fresh, Response.document]

section Documents

variable {tenant controller : String} {n : Nat} (small : n < 2 ^ 64)
  (fresh : r.headers.all "if-none-match" = [])
include small fresh

/-- Instructions that can be given are sent. -/
theorem deployment_ok (document : Nat → Option Int → Store → Except Device.Error
      (Device.Tagged Device.DeploymentDocument)) {d : Device.Tagged Device.DeploymentDocument}
    (plain : r.query = "") (given : document n none s = .ok d) :
    ∃ response, (deployment document (Text.decimal n) r).run s = (.ok response, s) ∧
      response.code = .ok := by
  refine ⟨tagged r (·.toJson) d, ?_, tagged_ok fresh⟩
  -- Every stage of the handler has a value, with which the next one goes on.
  rw [deployment, history_none plain, pure_bind, Handler.run_bind, Handler.run_number _ small]
  dsimp only
  rw [Handler.run_bind, Handler.run_look_ok given]
  rfl

/-- A cancellation that is found is sent. -/
theorem cancellation_ok {d : Device.Tagged Device.CancelDocument}
    (given : Device.cancelAction tenant controller n s = .ok d) :
    ∃ response, (cancellation tenant controller (Text.decimal n) r).run s = (.ok response, s) ∧
      response.code = .ok := by
  -- The number in the address is read, the document is looked up and the tag is new.
  refine ⟨tagged r (·.toJson) d, ?_, tagged_ok fresh⟩
  rw [cancellation, Handler.run_bind, Handler.run_number _ small]
  dsimp only
  rw [Handler.run_bind, Handler.run_look_ok given]
  rfl

end Documents

/-- Attributes that can be read are taken from a target that is known. -/
theorem attributes_ok {tenant controller : String} {report : Deployments.AttributeReport}
    (now : Instant) (json : r.hasJson = true)
    (read : (Json.read? r.body).bind Deployments.AttributeReport.ofJson? = some report)
    (known : (s.target? tenant controller).isSome = true) :
    ∃ s', (attributes tenant controller now r).run s = (.ok (.bare .ok), s') := by
  -- The target is known, so the report is taken over into its record.
  obtain ⟨t, found⟩ := Option.isSome_iff_exists.mp known
  have taken : Device.configData tenant controller report now s =
      .ok (t.described report now, s.putTarget (t.described report now)) := by
    rw [Device.configData, Transaction.mapError_eq_ok]
    simp only [Deployments.updateAttributes, Transaction.read_bind_apply, found]
    rfl
  refine ⟨s.putTarget (t.described report now), ?_⟩
  rw [attributes, Handler.run_bind, Handler.run_body json read]
  dsimp only
  rw [Handler.run_bind, Handler.run_transact_ok taken]
  rfl

end DeviceApi

end Requests

/-- A link that the answer to a poll may have. -/
inductive Link where
  | deployment
  | cancellation
  | installation
  | attributes
  deriving DecidableEq, Repr

namespace Link

/-- The action that a link is for, of those that are listed for a target. -/
def action? (multi : Bool) (actions : List Action) : Link → Option Action
  | deployment => Device.current? multi actions
  | cancellation => Device.pendingCancel? actions
  | installation => Device.installed? actions
  | attributes => none

/-- Whether a number is that of the action of a link; a link without an action admits any. -/
def Numbers (multi : Bool) (actions : List Action) (link : Link) (id : Nat) : Prop :=
  link = attributes ∨ ∃ a, link.action? multi actions = some a ∧ a.id = id

/-- The resource that a link is for. -/
def resource (tenant controller : String) (id : Nat) : Link → Route
  | deployment => .device tenant controller (Text.decimal id) .deployment
  | cancellation => .device tenant controller (Text.decimal id) .cancellation
  | installation => .device tenant controller (Text.decimal id) .installed
  | attributes => .attributes tenant controller

/-- The method of the requests that follow a link. -/
def method : Link → Method
  | attributes => .put
  | _ => .get

/-- A request that follows a link: its path is the text of the link, its sender reads JSON and has
no document yet, and attributes come in a body that can be read. -/
structure Asks (link : Link) (href : String) (r : Request) : Prop where
  address : Uri.read? href = some ⟨r.path, r.query⟩
  method : r.method = link.method
  accepts : r.acceptsJson = true
  fresh : r.headers.all "if-none-match" = []
  body : link = attributes → r.hasJson = true ∧ ∃ report,
    (Json.read? r.body).bind Deployments.AttributeReport.ofJson? = some report

variable {settings : Settings} {multi : Bool} {s : Store} {tenant controller href : String}
  {id : Nat} {now : Instant} {link : Link} {r : Request}

section Paths

end Paths

section Answers

/-- What has to hold for the links to a target to be answered at an instant. -/
structure Ready (s : Store) (tenant controller : String) (now : Instant) : Prop where
  known : (s.target? tenant controller).isSome = true
  indexed : Indexed s
  furnished : Furnished s
  brief : Conforms (fun _ => Deployment.IsBrief) s
  /-- No number has been drawn that is too long to be read in a path. -/
  small : s.nextNumber Deployments.sequence ≤ 2 ^ 64
  modern : now.IsModern

variable {a : Action}

/-- An action that is listed for a target whose names have no slashes is found for it. -/
theorem Ready.actionOf_listed (ready : Ready s tenant controller now)
    (slashless : Target.Slashless tenant)
    (slashlessToo : Target.Slashless controller) (listed : a ∈ s.actionsOf tenant controller) :
    s.actions.get? a.id = some a ∧
      Device.actionOf s tenant controller a.id a.isCancel = .ok a := by
  obtain ⟨stored, key⟩ := ready.indexed.mem_actionsOf.mp listed
  have known := ready.known
  -- With slashes, the actions of another target could be listed under the same key.
  obtain ⟨rfl, rfl⟩ := Target.keyOf_inj_of_slashless slashless slashlessToo key
  have own : s.action? a.tenant a.id = some a := by simp [Store.action?, stored]
  refine ⟨stored, ?_⟩
  simp only [Device.actionOf, own, Option.filter_some, beq_self_eq_true, Bool.and_self,
    Option.isNone_eq_false_iff.mpr known]
  rfl

/-- The instructions of a stored deployment can be given. -/
theorem Ready.instructions_given (ready : Ready s tenant controller now)
    (stored : s.actions.get? a.id = some a) (deploys : a.isCancel = false)
    (requested : Option Int) :
    ∃ answer, Device.deploymentDocument s a requested now = .ok answer := by
  cases order : a.order with
  | cancel subject => simp [Action.isCancel, Action.cancels?, order] at deploys
  -- The distribution set is on the shelf and the schedule is a brief one, so there are
  -- instructions.
  | deploy d =>
    obtain ⟨set, shelved⟩ := Option.isSome_iff_exists.mp (ready.furnished stored order)
    exact Device.deploymentDocument_succeeds order shelved (ready.brief stored order) ready.modern

/-- Where the names of a target have no slashes, the links to it are answered with success. -/
theorem Ready.handle_succeeds (ready : Ready s tenant controller now) (settings : Settings)
    (slashless : Target.Slashless tenant) (slashlessToo : Target.Slashless controller)
    (numbers : link.Numbers multi (s.actionsOf tenant controller) id)
    (query : r.query = "") (asks : link.Asks href r) :
    ∃ response s', (handle settings now r (link.resource tenant controller id)).run s =
      (.ok response, s') ∧ response.code = .ok := by
  -- Numbers that have been drawn can be read back.
  have found {a : Action} (listed : a ∈ s.actionsOf tenant controller) :
      a.id < 2 ^ 64 ∧ s.actions.get? a.id = some a ∧
        Device.actionOf s tenant controller a.id a.isCancel = .ok a := by
    obtain ⟨stored, own⟩ := ready.actionOf_listed slashless slashlessToo listed
    have drawn := ready.indexed.drawn stored
    have small := ready.small
    exact ⟨by omega, stored, own⟩
  cases link with
  -- The deployment that was linked is the current one, which is not an order to cancel.
  | deployment =>
    obtain ⟨a, chosen, rfl⟩ := numbers.resolve_left (by simp)
    obtain ⟨listed, -, deploys, -⟩ := Device.current?_eq_some chosen
    obtain ⟨little, stored, own⟩ := found listed
    obtain ⟨answer, given⟩ := ready.instructions_given stored deploys none
    have shown : Device.deploymentBase tenant controller a.id none now s = .ok answer := by
      rw [deploys] at own
      simp only [Device.deploymentBase, own]
      exact given
    obtain ⟨response, answered, code⟩ :=
      DeviceApi.deployment_ok little asks.fresh
        (fun n requested => Device.deploymentBase tenant controller n requested now) query shown
    exact ⟨response, s, answered, code⟩
  -- The order to cancel is linked only while it is pending.
  | cancellation =>
    obtain ⟨a, chosen, rfl⟩ := numbers.resolve_left (by simp)
    obtain ⟨listed, -, cancels⟩ := Device.pendingCancel?_eq_some chosen
    obtain ⟨little, stored, own⟩ := found listed
    obtain ⟨subject, names⟩ := Option.isSome_iff_exists.mp cancels
    have shown : ∃ answer, Device.cancelAction tenant controller a.id s = .ok answer := by
      rw [cancels] at own
      simp only [Device.cancelAction, own, names, bind, Except.bind]
      exact ⟨_, rfl⟩
    obtain ⟨answer, given⟩ := shown
    obtain ⟨response, answered, code⟩ := DeviceApi.cancellation_ok little asks.fresh given
    exact ⟨response, s, answered, code⟩
  -- The installation that was linked is the newest finished deployment.
  | installation =>
    obtain ⟨a, chosen, rfl⟩ := numbers.resolve_left (by simp)
    have newest := (Device.installed?_eq_some ready.indexed).mp chosen
    obtain ⟨stored, key, deploys, finished⟩ := newest.finished
    obtain ⟨little, -, own⟩ := found (ready.indexed.mem_actionsOf.mpr ⟨stored, key⟩)
    obtain ⟨answer, given⟩ := ready.instructions_given stored deploys none
    have shown : Device.installedBase tenant controller a.id none now s = .ok answer := by
      rw [deploys] at own
      simp only [Device.installedBase, own, finished, bind, Except.bind]
      exact given
    obtain ⟨response, answered, code⟩ :=
      DeviceApi.deployment_ok little asks.fresh
        (fun n requested => Device.installedBase tenant controller n requested now) query shown
    exact ⟨response, s, answered, code⟩
  | attributes =>
    obtain ⟨json, report, read⟩ := asks.body rfl
    obtain ⟨s', taken⟩ := DeviceApi.attributes_ok now json read ready.known
    exact ⟨_, s', taken, rfl⟩

end Answers

end Link

end DeviceUpdate.Http
