import DeviceUpdate.Device.Gateway
import DeviceUpdate.Proofs.Deployment.Concern
import DeviceUpdate.Proofs.Device.Instruction
import DeviceUpdate.Proofs.Service.Ownership

/-! Requests of devices are local to the targets that send them, so they do not interfere in any run. -/

namespace DeviceUpdate.Device

open Deployments (Coincide Divided Fits Local)
open Transaction (Concerns)

/-- What a device may ask for. -/
inductive Ask where
  | poll (address : Option String)
  | deploymentBase (id : Nat) (requested : Option Int)
  | installedBase (id : Nat) (requested : Option Int)
  | cancelAction (id : Nat)
  | deploymentFeedback (id : Nat) (f : Feedback)
  | cancelFeedback (id : Nat) (f : Feedback)
  | configData (r : Deployments.AttributeReport)

namespace Ask

/-- What the answer to a request is. -/
def Answer : Ask → Type
  | poll _ => Except Error (Tagged PollDocument)
  | deploymentBase .. | installedBase .. => Except Error (Tagged DeploymentDocument)
  | cancelAction _ => Except Error (Tagged CancelDocument)
  | deploymentFeedback .. | cancelFeedback .. => Except Error Deployments.Reported
  | configData _ => Except Error Target

/-- The answer to what a target asks for, and the store that is left behind. -/
def serve (own : TenantSettings) (tenant controller : String) (now : Instant) (s : Store) :
    (ask : Ask) → ask.Answer × Store
  | poll address => Device.poll own tenant controller address now s
  | deploymentBase id requested => (Device.deploymentBase tenant controller id requested now s, s)
  | installedBase id requested => (Device.installedBase tenant controller id requested now s, s)
  | cancelAction id => (Device.cancelAction tenant controller id s, s)
  | deploymentFeedback id f => (Device.report own tenant controller id f false now).run s
  | cancelFeedback id f => (Device.report own tenant controller id f true now).run s
  | configData r => (Device.configData tenant controller r now).run s

end Ask

/-- A request that a device sends for a target at an instant. -/
structure Request where
  tenant : String
  controller : String
  now : Instant
  ask : Ask

namespace Request

/-- The key of the target for which a request is sent. -/
def key (r : Request) : String :=
  Target.keyOf r.tenant r.controller

/-- Serves a request. -/
def serve (settings : Settings) (r : Request) (s : Store) : r.ask.Answer × Store :=
  r.ask.serve (settings.tenant r.tenant) r.tenant r.controller r.now s

end Request

section Locality

variable {owner : Nat → Option String} {tenant controller : String} {s u : Store} {a : Action}

/-- An action that a device may see is found alike in all stores that agree on the target. -/
theorem actionOf_agree (agree : Coincide owner (· = some (Target.keyOf tenant controller)) s u)
    (id : Nat) (cancel : Bool) :
    actionOf s tenant controller id cancel = actionOf u tenant controller id cancel := by
  let test (a : Action) : Bool := a.controller == controller && a.isCancel == cancel
  -- Only actions of the own controller pass the test, and these are the same in both stores.
  have own (a : Action) (passes : test a = true) : a.controller = controller := by
    simp only [test, Bool.and_eq_true, beq_iff_eq] at passes
    exact passes.1
  have seen : (s.action? tenant id).filter test = (u.action? tenant id).filter test :=
    agree.seen rfl own id
  simp only [actionOf, agree.target? rfl, test] at seen ⊢
  rw [seen]

/-- The instructions for an action are found alike in all stores that agree on its target. -/
theorem deploymentDocument_agree {zone : Option String → Prop} (agree : Coincide owner zone s u)
    (within : zone (owner a.id)) (requested : Option Int) (now : Instant) :
    deploymentDocument s a requested now = deploymentDocument u a requested now := by
  simp only [deploymentDocument, history, agree.set?, agree.logOf within]

/-- What is told of an action that a device may see is told alike in all stores that agree on the
target. -/
theorem actionOf_bind_agree {β : Type} {id : Nat} {cancel : Bool}
    {f g : Action → Except Error β}
    (agree : Coincide owner (· = some (Target.keyOf tenant controller)) s u)
    (alike : ∀ a, owner a.id = some (Target.keyOf tenant controller) → f a = g a) :
    (actionOf s tenant controller id cancel >>= f) =
      (actionOf u tenant controller id cancel >>= g) := by
  -- Both find the same action or fail in the same way.
  rw [actionOf_agree agree]
  cases found : actionOf u tenant controller id cancel with
  | error e => rfl
  | ok a =>
    obtain ⟨known, own, -⟩ := actionOf_eq_ok found
    exact alike a (agree.right.fits_found known own).2.owned

/-- A poll is local to the target that polls. -/
theorem poll_local (own : TenantSettings) (address : Option String) (now : Instant) :
    Local owner (Target.keyOf tenant controller) (poll own tenant controller address now) where
  keeps s divided := by
    refine divided.agree_putTarget ?_
    -- A poll leaves a target under its key.
    cases known : s.target? tenant controller with
    | none => rfl
    | some t =>
      have key := divided.keyed known
      exact key
  same s u agree := by
    -- The note is the same in both stores, and so is all that is listed after it.
    simp only [poll, touch, agree.target? rfl]
    have noted := agree.putTarget (polled (u.target? tenant controller) tenant controller address now)
    refine ⟨?_, noted⟩
    simp only [answerPoll, noted.actionsOf rfl]

/-- A report is local to the target that sends it. -/
theorem report_concerns (own : TenantSettings) (id : Nat) (f : Feedback) (cancel : Bool)
    (now : Instant) :
    Concerns owner (Target.keyOf tenant controller) (fun _ => True)
      (report own tenant controller id f cancel now) := by
  -- Whether the target is known is asked in its own part of the store.
  refine .bind (p := fun _ => True)
    (.read (fun s u agree => by rw [agree.target? rfl]) fun _ _ => trivial) fun missing _ => ?_
  have reported : Concerns owner (Target.keyOf tenant controller) (fun _ => True)
      (Deployments.report own tenant controller id f cancel now) :=
    Deployments.report_concerns own id f cancel now
  exact Concerns.guard
    (f := fun _ => (Deployments.report own tenant controller id f cancel now).mapError Error.deploy)
    (reported.mapError Error.deploy)

/-- What a device asks for is local to its target. -/
theorem Ask.serve_local (ask : Ask) (own : TenantSettings) (now : Instant) :
    Local owner (Target.keyOf tenant controller)
      fun s => ask.serve own tenant controller now s := by
  cases ask with
  | poll address => exact poll_local own address now
  -- What is only asked for leaves the store as it is.
  | deploymentBase id requested =>
    refine .look fun s u agree => ?_
    unfold Device.deploymentBase
    exact actionOf_bind_agree agree fun a owned => deploymentDocument_agree agree owned requested now
  | installedBase id requested =>
    refine .look fun s u agree => ?_
    unfold Device.installedBase
    refine actionOf_bind_agree agree fun a owned => ?_
    simp only [deploymentDocument_agree agree owned requested now]
  | cancelAction id =>
    refine .look fun s u agree => ?_
    unfold Device.cancelAction
    exact actionOf_bind_agree agree fun a owned => rfl
  -- A transaction that fails leaves the store as it is, too.
  | deploymentFeedback id f => exact .run (report_concerns own id f false now)
  | cancelFeedback id f => exact .run (report_concerns own id f true now)
  | configData r => exact .run ((Deployments.updateAttributes_concerns r now).mapError _)

/-- A request is local to the target for which it is sent. -/
theorem Request.serve_local (settings : Settings) (r : Request) :
    Local owner r.key (r.serve settings) :=
  r.ask.serve_local (settings.tenant r.tenant) r.now

end Locality

end DeviceUpdate.Device

namespace DeviceUpdate.Service

open Deployments (Divided)

section Requests

variable (settings : Settings) (calls : List Call)

/-- In every state of every run, the records are divided among the targets of the actions. -/
theorem divided_history :
    Divided (fun id => ((history settings calls).present.actions.get? id).map Action.targetKey)
      (history settings calls).present :=
  have coherent := coherent_history settings calls
  Deployments.divided_of_paired coherent.indexed coherent.paired (keyed_history settings calls)

/-- In every reachable state, two requests for targets with different keys are answered in the same
way in either order, and leave the same store behind. -/
theorem requests_commute {p q : Device.Request} (apart : p.key ≠ q.key) :
    let s := (history settings calls).present
    (p.serve settings (q.serve settings s).2).1 = (p.serve settings s).1 ∧
      (q.serve settings (p.serve settings s).2).1 = (q.serve settings s).1 ∧
      (q.serve settings (p.serve settings s).2).2 = (p.serve settings (q.serve settings s).2).2 := by
  intro s
  -- Each request is local to its own target, and the division gives no action to both.
  exact (p.serve_local settings).commute (q.serve_local settings) apart
    (divided_history settings calls)

end Requests

/-- A run in which a set is assigned to two devices. -/
def twoDevices : List Call :=
  [⟨.epoch, .createSet "t" "a" "1" []⟩,
   ⟨.epoch, .createTarget "t" "d" .empty⟩,
   ⟨.epoch, .createTarget "t" "e" .empty⟩,
   ⟨.epoch, .assign "t" "d" ⟨1, .forced, none, none, none⟩⟩,
   ⟨.epoch, .assign "t" "e" ⟨1, .forced, none, none, none⟩⟩]

/-- Both devices may report that they have installed the set, in either order. -/
theorem requests_commute_twoDevices :
    let s := (history .standard twoDevices).present
    let p : Device.Request :=
      ⟨"t", "d", .epoch, .deploymentFeedback 1 ⟨.closed, .success, none, none, []⟩⟩
    let q : Device.Request :=
      ⟨"t", "e", .epoch, .deploymentFeedback 2 ⟨.closed, .success, none, none, []⟩⟩
    p.key ≠ q.key ∧
      (p.serve .standard (q.serve .standard s).2).1 = (p.serve .standard s).1 ∧
      (q.serve .standard (p.serve .standard s).2).1 = (q.serve .standard s).1 ∧
      (q.serve .standard (p.serve .standard s).2).2 =
        (p.serve .standard (q.serve .standard s).2).2 ∧
      ((q.serve .standard (p.serve .standard s).2).2.targets.values.map (·.installed)) =
        [some 1, some 1] := by
  intro s p q
  have apart : p.key ≠ q.key := by decide
  obtain ⟨answer, reply, store⟩ := requests_commute .standard twoDevices apart
  exact ⟨apart, answer, reply, store, by decide +kernel⟩

end DeviceUpdate.Service
