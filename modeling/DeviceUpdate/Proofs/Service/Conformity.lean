import DeviceUpdate.Proofs.Deployment.Conformity
import DeviceUpdate.Proofs.Service.Coherence
import DeviceUpdate.Proofs.Service.Conduct
import DeviceUpdate.Proofs.Service.Feasibility

/-! In every run, what holds of each deployment as it is accepted holds of all that are stored. -/

namespace DeviceUpdate

open Deployments (AdmitsFree Conforms Furnished Indexed Shelved)

namespace Rollouts

variable {settings : Settings} {started : Nat → Prop} {fits : String → Deployment → Prop}
  {s s' : Store} {r : Rollout} {id group : Nat} {now : Instant}

/-- What the start of a group does for a member leaves all deployments fitting. -/
theorem Enrols.conforms {own : TenantSettings} {controller : String}
    (enrols : Enrols own r group now controller s s') (indexed : Indexed s)
    (free : AdmitsFree fits) (conforms : Conforms fits s) : Conforms fits s' := by
  cases enrols with
  | gone absent => exact conforms
  | assigned result assigns =>
    -- Rollouts deploy without a window.
    exact assigns.conforms indexed (fun weight _ => free rfl) conforms

/-- A launch leaves all deployments fitting. -/
theorem Launch.conforms {members : List String}
    (launch : Launch (settings.tenant r.tenant) r group now members s s') (indexed : Indexed s)
    (free : AdmitsFree fits) (conforms : Conforms fits s) : Conforms fits s' := by
  induction launch with
  | nil s => exact conforms
  | cons first others ih =>
    have steps : Deployments.Steps settings _ _ := first.steps indexed
    exact ih (steps.indexed indexed) (first.conforms indexed free conforms)

/-- An evaluation leaves all deployments fitting. -/
theorem Evaluation.conforms (evaluation : Evaluation settings id s s')
    (coherent : Service.Coherent started s)
    (free : AdmitsFree fits) (conforms : Conforms fits s) : Conforms fits s' := by
  cases evaluation with | evaluated between round notes =>
  have noted : Rests between s' := notes.turns.rests
  cases round with
  -- The turns write no actions.
  | quiet turns => exact (conforms.of_eq turns.rests.actions).of_eq noted.actions
  | launching before turns launches =>
    -- Only the launch comes to the actions, in the state that the turns have left.
    cases launches with | launched r g now runs own waits turn launch =>
    have first : Service.Steps settings s before := turns.steps
    have indexed : Indexed before := (first.coherent coherent).indexed
    have start : Conforms fits before := conforms.of_eq turns.rests.actions
    have launched : Conforms fits between :=
      launch.conforms (indexed.putGroup _) free (start.of_eq rfl)
    exact launched.of_eq noted.actions

end Rollouts

namespace Service

variable {settings : Settings} {started : Nat → Prop} {fits : String → Deployment → Prop}
  {h : History} {c : Call} {s' : Store}

/-- A request that a call makes is for a deployment that fits, if it is accepted. -/
def Fitting (settings : Settings) (fits : String → Deployment → Prop) (c : Call) : Prop :=
  ∀ ⦃tenant controller : String⦄ ⦃q : AssignmentRequest⦄ ⦃weight : Option Nat⦄,
    c.operation = .assign tenant controller q →
    q.validate (settings.tenant tenant) c.now = .ok weight → fits tenant (q.deployment weight)

/-- A call leaves all deployments fitting, if its request does. -/
theorem Deed.conforms (deed : Deed settings h c s') (coherent : Coherent started h.present)
    (free : AdmitsFree fits) (fitting : Fitting settings fits c)
    (conforms : Conforms fits h.present) : Conforms fits s' := by
  cases deed with
  -- New deployments come from assignments and from launches alone.
  | acted steps inherits ends act =>
    cases act with
    | aside actions log => exact conforms.of_eq actions
    | assigned tenant controller q result assigns own =>
      exact assigns.conforms coherent.indexed (fun weight valid => fitting own valid) conforms
    | cancelled subject stored same =>
      -- A cancellation deploys nothing.
      rw [same]
      exact conforms.requestCancel stored c.now
    | reported controller a f cancel own stored room reporting =>
      exact reporting.conforms stored conforms
  | resumed cancel subject own resumption => exact resumption.conforms conforms
  | planned tenant q since members total own valid same =>
    rw [same]
    exact conforms.of_eq
      (Rollouts.Step.created h.present tenant q members total c.now).frame.actions
  | started id start => exact conforms.of_eq start.frame.actions
  | moved r status stored moves requests => exact requests.conforms (conforms.of_eq rfl)
  -- What an evaluation launches has no window.
  | evaluated r stored running evaluation => exact evaluation.conforms coherent free conforms
  | failed id since expression fault fails failure => exact conforms.of_eq failure.frame.actions
  | removed r stored deleting same =>
    rw [same]
    exact conforms.of_eq (Rollouts.Step.removed h.present r stored deleting).frame.actions

/-- In every state of every run, all deployments fit, if every request of the run does. -/
theorem conforms_history (settings : Settings) (calls : List Call)
    (free : AdmitsFree fits)
    (fitting : ∀ c ∈ calls, Fitting settings fits c) :
    Conforms fits (history settings calls).present := by
  -- The calls come one after another, so the last one meets what the others have left.
  induction calls using List.reverseRecOn with
  | nil => exact Deployments.conforms_empty fits
  | append_singleton calls c ih =>
    have coherent := coherent_history settings calls
    rw [history_concat]
    have deed : Deed settings (history settings calls) c
      ((history settings calls).next settings c).present := c.deed _ coherent
    exact deed.conforms coherent free (fitting c (by simp))
      (ih fun earlier member => fitting earlier (List.mem_append_left [c] member))

section Sets

variable {s : Store}

/-- What comes to the rollouts alone leaves all sets known. -/
theorem furnished_of_frame (frame : Rollouts.Frame s s') (shelved : Shelved s)
    (furnished : Furnished s) : Furnished s' :=
  (Deployments.Conforms.of_eq furnished frame.actions).furnished (stocks_of_frame frame shelved)

/-- Runs of steps leave all sets known. -/
theorem Steps.furnished (steps : Steps settings s s') (shelved : Shelved s)
    (furnished : Furnished s) : Furnished s' := by
  induction steps with
  | refl => exact furnished
  | tail before step ih =>
    -- A step needs the sets that were there before it.
    have between : Shelved _ := (Steps.stocks before shelved).shelved
    cases step with
    | deployment step => exact step.furnished between ih
    | rollout step => exact furnished_of_frame step.frame between ih

/-- What a call comes to leaves all sets known. -/
theorem Effect.furnished {operation : Operation} (effect : Effect settings operation s s')
    (shelved : Shelved s) (furnished : Furnished s) : Furnished s' := by
  cases effect with
  | steps steps => exact steps.furnished shelved furnished
  | resumed cancel subject own resumption => exact resumption.furnished shelved furnished
  | started id start => exact furnished_of_frame start.frame shelved furnished
  | failed id failure => exact furnished_of_frame failure.frame shelved furnished

end Sets

end Service

end DeviceUpdate
