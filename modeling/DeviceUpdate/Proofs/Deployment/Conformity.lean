import DeviceUpdate.Proofs.Deployment.Administration
import DeviceUpdate.Proofs.Deployment.Feasibility
import DeviceUpdate.Proofs.Deployment.Reporting

/-! What holds of every deployment when it is assigned holds of it for good. -/

namespace DeviceUpdate.Deployments

/-- Every stored deployment fits its tenant. -/
def Conforms (fits : String → Deployment → Prop) (s : Store) : Prop :=
  ∀ ⦃id : Nat⦄ ⦃a : Action⦄ ⦃d : Deployment⦄, s.actions.get? id = some a → a.order = .deploy d →
    fits a.tenant d

/-- A deployment without a window fits every tenant. -/
def AdmitsFree (fits : String → Deployment → Prop) : Prop :=
  ∀ ⦃tenant : String⦄ ⦃d : Deployment⦄, d.maintenance = none → fits tenant d

variable {settings : Settings} {fits : String → Deployment → Prop} {s s' : Store}
  {a cancel subject : Action} {now : Instant}

theorem conforms_empty (fits : String → Deployment → Prop) : Conforms fits .empty := by
  intro id a d stored
  simp [Store.empty] at stored

/-- What leaves the actions alone leaves the deployments fitting. -/
theorem Conforms.of_eq (conforms : Conforms fits s) (same : s'.actions = s.actions) :
    Conforms fits s' := by
  intro id a d stored
  rw [same] at stored
  exact conforms stored

/-- Storing a target leaves the deployments fitting. -/
theorem Conforms.putTarget (conforms : Conforms fits s) (t : Target) :
    Conforms fits (s.putTarget t) :=
  conforms.of_eq rfl

/-- One more action may be recorded whose deployment fits, if it is one. -/
theorem Conforms.record (conforms : Conforms fits s) (e : LogEntry)
    (own : ∀ d, a.order = .deploy d → fits a.tenant d) : Conforms fits (s.record a e) := by
  intro id b d stored deploys
  rw [Store.get?_record] at stored
  split at stored
  · rw [← Option.some.inj stored] at deploys ⊢
    exact own d deploys
  · exact conforms stored deploys

/-- A stored action that moves is still of its tenant and orders what it did. -/
theorem Conforms.still (conforms : Conforms fits s) {id : Nat} (stored : s.actions.get? id = some a)
    {status : Status} {active : Bool} {now : Instant} (d : Deployment)
    (deploys : (a.moved status active now).order = .deploy d) :
    fits (a.moved status active now).tenant d :=
  @conforms id a d stored deploys

/-- A stored action moves without a change to what it orders. -/
theorem Conforms.moved (conforms : Conforms fits s) {id : Nat}
    (stored : s.actions.get? id = some a) (status : Status) (active : Bool) (now : Instant)
    (e : LogEntry) : Conforms fits (s.record (a.moved status active now) e) :=
  conforms.record e (conforms.still stored)

/-- A request for a cancellation leaves all deployments fitting. -/
theorem Conforms.requestCancel (conforms : Conforms fits s) {id : Nat}
    (stored : s.actions.get? id = some a) (now : Instant) :
    Conforms fits (s.requestCancel a now) := by
  have drawn : Conforms fits (s.advance sequence) := conforms.of_eq rfl
  refine (drawn.moved stored .canceling true now _).record _ fun d deploys => ?_
  -- What is new cancels.
  cases deploys

/-- A new deployment may be stored that fits. -/
theorem Conforms.deploy {d : Deployment} (conforms : Conforms fits s) (t : Target)
    {tenant : String} (controller : String) (rollout : Option Membership) (now : Instant)
    (own : fits tenant d) : Conforms fits (s.deploy t tenant controller d rollout now) := by
  intro id b e stored deploys
  -- One action is new, and it orders what is checked here.
  rw [Store.get?_deploy] at stored
  split at stored
  · rw [← Option.some.inj stored] at deploys ⊢
    rw [← Order.deploy.inj deploys]
    exact own
  · exact conforms stored deploys

/-- A report that goes on leaves all deployments fitting. -/
theorem Conforms.report {f : Feedback} {step : Transition} (conforms : Conforms fits s)
    (stored : s.actions.get? a.id = some a) (reported : a.report f now = .ok step) (e : LogEntry) :
    Conforms fits (s.record step.action e) := by
  refine conforms.record e fun d deploys => ?_
  -- A report may move the action, but not change its order.
  rcases Action.report_moved reported with stays | ⟨status, active, moved⟩
  · rw [stays] at deploys ⊢
    exact conforms stored deploys
  · rw [moved] at deploys ⊢
    exact conforms.still stored d deploys

/-- A closing report leaves all deployments fitting. -/
theorem Conforms.close (conforms : Conforms fits s) (stored : s.actions.get? a.id = some a)
    (set : Nat) (t : Target) (f : Feedback) (now : Instant) :
    Conforms fits (s.close a set t f now) :=
  (conforms.moved stored f.outcome.status false now _).putTarget _

/-- A deployment that ends before it is given up leaves all deployments fitting. -/
theorem Conforms.supersede (conforms : Conforms fits s) (pending : Pending s cancel a) (set : Nat)
    (t : Target) (f : Feedback) (now : Instant) :
    Conforms fits ((s.close a set t f now).supersede cancel a.id now) := by
  have closed := conforms.close pending.subjectStored set t f now
  exact closed.record _ (conforms.still pending.cancelStored)

/-- A deployment that is given up leaves all deployments fitting. -/
theorem Conforms.confirm (conforms : Conforms fits s) (pending : Pending s cancel subject)
    (t : Target) (f : Feedback) (now : Instant) :
    Conforms fits (s.confirm cancel subject t f now) := by
  have canceled := conforms.moved pending.cancelStored .canceled false now
    (f.entry cancel.id .canceled now)
  exact (canceled.record _ (conforms.still pending.subjectStored)).putTarget _

/-- The refusal of a cancellation leaves all deployments fitting. -/
theorem Resumption.conforms (resumption : Resumption cancel subject s s')
    (conforms : Conforms fits s) : Conforms fits s' := by
  cases resumption with | resumed now pending =>
  exact (conforms.moved pending.cancelStored .cancelRejected false now _).record _
    (conforms.still pending.subjectStored)

/-- A step leaves all deployments fitting, if all fit that can be read and whose set is known. -/
theorem Step.conforms (step : Step settings s s')
    (new : ∀ tenant d, d.Legible → (s.set? tenant d.distributionSet).isSome = true → fits tenant d)
    (conforms : Conforms fits s) : Conforms fits s' := by
  -- Apart from a new deployment the policies are those that were there.
  cases step with
  | published => exact conforms.of_eq rfl
  | registered => exact conforms.putTarget _
  | polled => exact conforms.putTarget _
  | described => exact conforms.putTarget _
  | requested subject now stored => exact conforms.requestCancel stored now
  -- What is new has been checked.
  | deployed tenant controller t d rollout now found known alone legible =>
    exact conforms.deploy t controller rollout now (new tenant d legible known)
  | progressed a f now step stored room going reported => exact conforms.report stored reported _
  | closed a d t f now stored => exact conforms.close stored d.distributionSet t f now
  | superseded cancel a d t f now pending =>
    exact conforms.supersede pending d.distributionSet t f now
  | confirmed cancel subject t f now pending => exact conforms.confirm pending t f now

/-- Requests for cancellations leave all deployments fitting. -/
theorem Requests.conforms {test : Action → Prop} (requests : Requests test now s s')
    (conforms : Conforms fits s) : Conforms fits s' := by
  induction requests with
  | refl => exact conforms
  | tail _ request ih =>
    obtain ⟨subject, stored, -, -, same⟩ := request
    rw [same]
    exact ih.requestCancel stored now

/-- A report leaves all deployments fitting. -/
theorem Reporting.conforms {f : Feedback} (reporting : Reporting a f now s s')
    (stored : s.actions.get? a.id = some a) (conforms : Conforms fits s) : Conforms fits s' := by
  cases reporting with
  | progressed step going reported => exact conforms.report stored reported _
  | closed d t => exact conforms.close stored d.distributionSet t f now
  | superseded cancel d t pending => exact conforms.supersede pending d.distributionSet t f now
  | confirmed subject t pending => exact conforms.confirm pending t f now

/-- An assignment leaves all deployments fitting, if the one that it asks for fits when the request
is accepted. -/
theorem Assigns.conforms {own : TenantSettings} {tenant controller : String}
    {q : AssignmentRequest} {rollout : Option Membership} {assigned : Assigned}
    (assigns : Assigns own tenant controller q rollout now s assigned s') (indexed : Indexed s)
    (new : ∀ weight, q.validate own now = .ok weight → fits tenant (q.deployment weight))
    (conforms : Conforms fits s) : Conforms fits s' := by
  cases assigns with
  | already a current => exact conforms
  | new t weight cancels between valid found known free replaces =>
    -- What is replaced is cancelled first, and only then is anything deployed.
    have requests : Conforms fits between := by
      rw [replaces]
      exact (indexed.replaced_requests own tenant controller now).conforms conforms
    exact requests.deploy t controller rollout now (new weight valid)

section Windows

/-- Every stored deployment has a window that can be read, if it has one. -/
def Legible (s : Store) : Prop :=
  ∀ ⦃id : Nat⦄ ⦃a : Action⦄ ⦃d : Deployment⦄, s.actions.get? id = some a → a.order = .deploy d →
    d.Legible

/-- To be legible is one way to fit. -/
theorem legible_iff : Legible s ↔ Conforms (fun _ => Deployment.Legible) s :=
  Iff.rfl

theorem legible_empty : Legible .empty :=
  conforms_empty fun _ => Deployment.Legible

/-- What leaves the actions alone leaves them legible. -/
theorem Legible.of_eq (legible : Legible s) (same : s'.actions = s.actions) : Legible s' :=
  (legible_iff.mp legible).of_eq same

/-- Every step leaves all deployments legible: what is new has been checked. -/
theorem Step.legible (step : Step settings s s') (legible : Legible s) : Legible s' :=
  step.conforms (fun _ _ checked _ => checked) (legible_iff.mp legible)

/-- The refusal of a cancellation leaves all deployments legible. -/
theorem Resumption.legible (resumption : Resumption cancel subject s s') (legible : Legible s) :
    Legible s' :=
  resumption.conforms (legible_iff.mp legible)

end Windows

section Sets

/-- The set of every stored deployment is known to its tenant. -/
def Furnished (s : Store) : Prop :=
  Conforms (fun tenant d => (s.set? tenant d.distributionSet).isSome = true) s

/-- Sets that were known and have not been lost are known. -/
theorem Conforms.furnished
    (conforms : Conforms (fun tenant d => (s.set? tenant d.distributionSet).isSome = true) s')
    (stocks : Stocks s s') : Furnished s' :=
  fun _ _ _ stored deploys => stocks.known (conforms stored deploys)

/-- A step leaves all sets known, and what is new is of a known set. -/
theorem Step.furnished (step : Step settings s s') (shelved : Shelved s) (furnished : Furnished s) :
    Furnished s' :=
  (step.conforms (fun _ _ _ known => known) furnished).furnished (step.stocks shelved)

/-- The refusal of a cancellation leaves all sets known. -/
theorem Resumption.furnished (resumption : Resumption cancel subject s s') (shelved : Shelved s)
    (furnished : Furnished s) : Furnished s' :=
  (resumption.conforms furnished).furnished (resumption.stocks shelved)

end Sets

end DeviceUpdate.Deployments
