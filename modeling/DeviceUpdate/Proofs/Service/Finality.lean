import DeviceUpdate.Proofs.Deployment.Closed
import DeviceUpdate.Proofs.Service.Coherence
import DeviceUpdate.Proofs.Service.Conduct

/-! Closed actions stay closed, with their records and logs, and which calls end actions. -/

namespace DeviceUpdate.Service

open Deployments (Untouched Refuses)

section Calls

variable {settings : Settings} {started : Nat → Prop} {s s' : Store} {a : Action}

/-- What leaves actions and logs as they are touches no action. -/
theorem untouched_of_frame (frame : Rollouts.Frame s s') (id : Nat) : Untouched id s s' := by
  constructor
  · rw [frame.actions]
  · simp only [Store.logOf, frame.log]

/-- No step of the service touches an action that is not active. -/
theorem Step.untouched (step : Step settings s s') (coherent : Coherent started s)
    (stored : s.actions.get? a.id = some a) (closed : a.active = false) : Untouched a.id s s' := by
  cases step with
  | deployment step => exact step.untouched coherent.indexed stored closed
  | rollout step => exact untouched_of_frame step.frame a.id

/-- No run of steps touches an action that is not active. -/
theorem Steps.untouched (steps : Steps settings s s') (coherent : Coherent started s)
    (stored : s.actions.get? a.id = some a) (closed : a.active = false) : Untouched a.id s s' := by
  -- The action is found unchanged after every step, so the next one leaves it alone as well.
  induction steps with
  | refl => exact .refl a.id s
  | tail before step ih =>
    exact ih.trans
      (step.untouched (Steps.coherent before coherent) (ih.action.trans stored) closed)

/-- No call touches an action that is not active. -/
theorem Effect.untouched {operation : Operation} (effect : Effect settings operation s s')
    (coherent : Coherent started s) (stored : s.actions.get? a.id = some a)
    (closed : a.active = false) : Untouched a.id s s' := by
  cases effect with
  | steps steps => exact steps.untouched coherent stored closed
  | resumed cancel subject own resumption => exact resumption.untouched stored closed
  | started id start => exact untouched_of_frame start.frame a.id
  | failed id failure => exact untouched_of_frame failure.frame a.id

end Calls

section Runs

variable (settings : Settings)

/-- No further calls touch an action that is not active. -/
theorem history_untouched (calls more : List Call) {a : Action}
    (stored : (history settings calls).present.actions.get? a.id = some a)
    (closed : a.active = false) :
    Untouched a.id (history settings calls).present (history settings (calls ++ more)).present := by
  induction more using List.reverseRecOn with
  | nil =>
    rw [List.append_nil]
    exact .refl a.id _
  | append_singleton more c ih =>
    -- The action stands in the later state as it did, so one more call leaves it alone.
    have coherent := coherent_history settings (calls ++ more)
    rw [← List.append_assoc, history_concat]
    exact ih.trans ((c.effect _ coherent).untouched coherent (ih.action.trans stored) closed)

/-- What is closed is for good: its record and its log never change, and it refuses everything. -/
theorem closed_for_good (calls more : List Call) {id : Nat} {a : Action}
    (found : (history settings calls).present.actions.get? id = some a)
    (closed : a.isClosed = true) :
    Untouched id (history settings calls).present (history settings (calls ++ more)).present ∧
      -- Closed and inactive mean the same of an action that is stored.
      Refuses (history settings (calls ++ more)).present id := by
  have coherent := coherent_history settings calls
  have own := coherent.indexed.own found
  subst own
  have inactive := (coherent.paired.isClosed_iff found).mp closed
  have untouched := history_untouched settings calls more found inactive
  exact ⟨untouched, Deployments.refuses_of_closed (untouched.action.trans found) inactive⟩

end Runs

/-- A run in which a device installs what is assigned to it. -/
def delivery : List Call :=
  [⟨.epoch, .createSet "t" "a" "1" []⟩,
   ⟨.epoch, .createTarget "t" "d" .empty⟩,
   ⟨.epoch, .assign "t" "d" ⟨1, .forced, none, none, none⟩⟩,
   ⟨.epoch, .report "t" "d" 1 ⟨.closed, .success, none, none, []⟩ false⟩]

/-- The delivered action stays as it is when the device reports a failure of it afterwards. -/
theorem closed_for_good_delivery :
    ∃ a, (history .standard delivery).present.actions.get? 1 = some a ∧ a.isClosed = true ∧
      Untouched 1 (history .standard delivery).present
        (history .standard (delivery ++
          [⟨.epoch, .report "t" "d" 1 ⟨.closed, .failure, none, none, []⟩ false⟩])).present ∧
      Refuses (history .standard (delivery ++
        [⟨.epoch, .report "t" "d" 1 ⟨.closed, .failure, none, none, []⟩ false⟩])).present 1 := by
  -- The delivery has been closed by its last call.
  have delivered :
      ((history .standard delivery).present.actions.get? 1).any Action.isClosed = true := by
    decide +kernel
  obtain ⟨a, found, closed⟩ := (Option.any_eq_true _ _).mp delivered
  exact ⟨a, found, closed, closed_for_good .standard delivery _ found closed⟩

end DeviceUpdate.Service

namespace DeviceUpdate

open Deployments (Spares)

namespace Rollouts

variable {settings : Settings} {started : Nat → Prop} {s s' : Store} {own : TenantSettings}
  {r : Rollout} {group id : Nat} {now : Instant} {controller : String} {members : List String}

/-- What a launch does for a member ends no action. -/
theorem Enrols.spares (enrols : Enrols own r group now controller s s')
    (indexed : Deployments.Indexed s) : Spares s s' := by
  cases enrols with
  | gone absent => exact .refl s
  | assigned result assigns => exact assigns.spares indexed

/-- A launch ends no action. -/
theorem Launch.spares (launch : Launch (settings.tenant r.tenant) r group now members s s')
    (indexed : Deployments.Indexed s) : Spares s s' := by
  induction launch with
  | nil s => exact .refl s
  | cons first others ih =>
    -- The others are served in the state that the first one leaves.
    have steps : Deployments.Steps settings _ _ := first.steps indexed
    exact (first.spares indexed).trans (ih (steps.indexed indexed))

/-- An evaluation ends no action. -/
theorem Evaluation.spares (evaluation : Evaluation settings id s s')
    (coherent : Service.Coherent started s) : Spares s s' := by
  cases evaluation with | evaluated between round notes =>
  refine Spares.trans ?_ (.of_eq notes.turns.rests.actions)
  cases round with
  | quiet turns => exact .of_eq turns.rests.actions
  | launching before turns launches =>
    cases launches with | launched r g now runs own waits turn launch =>
    have steps : Service.Steps settings s before := turns.steps
    have indexed := (steps.coherent coherent).indexed
    -- Only the launch at the end is about actions.
    have begins : Spares s (before.putGroup { g with status := .running }) :=
      .of_eq turns.rests.actions
    exact begins.trans (launch.spares (indexed.putGroup _))

end Rollouts

namespace Service

variable {settings : Settings} {started : Nat → Prop} {s s' : Store} {h : History} {c : Call}

/-- What has ended is found as it was after every run of steps. -/
theorem Steps.found {id : Nat} {a : Action} (steps : Steps settings s s')
    (coherent : Coherent started s) (stored : s.actions.get? id = some a)
    (closed : a.active = false) : s'.actions.get? id = some a := by
  have own := coherent.indexed.own stored
  subst own
  exact (steps.untouched coherent stored closed).action.trans stored

/-- A run of steps that ends no action consists of such steps. -/
theorem Steps.spares_parts {between : Store} (steps : Steps settings s between)
    (step : Step settings between s') (coherent : Coherent started s) (spares : Spares s s') :
    Spares s between ∧ Spares between s' := by
  have middle : Coherent started between := Steps.coherent steps coherent
  constructor
  -- What has ended in between is still found at the end.
  · intro id a found closed
    have rest : Steps settings between s' := Relation.ReflTransGen.single step
    exact spares (rest.found middle found closed) closed
  · intro id a found closed
    exact Steps.found steps coherent (spares found closed) closed

/-- A call ends actions in one step and by what it does to actions only, unless it refuses a
cancellation. -/
theorem Deed.ends_acted (deed : Deed settings h c s') (coherent : Coherent started h.present) :
    Spares h.present s' ∨
      Deployments.Step settings h.present s' ∧ Act settings c h.present s' ∨
      ∃ cancel subject : Action, c.operation = .rejectCancel cancel.tenant cancel.id ∧
        Deployments.Resumption cancel subject h.present s' := by
  cases deed with
  -- A deed on deployments alone is a step or spares what has ended.
  | acted steps inherits ends act => exact ends.imp_right fun step => Or.inl ⟨step, act⟩
  | resumed cancel subject own resumption =>
    exact Or.inr (Or.inr ⟨cancel, subject, own, resumption⟩)
  | planned tenant q since members total own valid same =>
    rw [same]
    exact Or.inl (.of_eq (Rollouts.Step.frame (.created h.present tenant q members total c.now)).actions)
  | started id start => exact Or.inl (.of_eq start.frame.actions)
  | moved r status stored moves requests =>
    have move : Spares h.present (h.present.putRollout { r with status := status }) := .of_eq rfl
    exact Or.inl (move.trans requests.spares)
  | evaluated r stored running evaluation => exact Or.inl (evaluation.spares coherent)
  | failed id since expression fault fails failure => exact Or.inl (.of_eq failure.frame.actions)
  | removed r stored deleting same =>
    rw [same]
    exact Or.inl (.of_eq (Rollouts.Step.frame (.removed h.present r stored deleting)).actions)

/-- A call ends actions in one step only, unless it refuses a cancellation. -/
theorem Deed.ends (deed : Deed settings h c s') (coherent : Coherent started h.present) :
    Spares h.present s' ∨ Deployments.Step settings h.present s' ∨
      ∃ cancel subject : Action, c.operation = .rejectCancel cancel.tenant cancel.id ∧
        Deployments.Resumption cancel subject h.present s' :=
  (deed.ends_acted coherent).imp_right (Or.imp_left And.left)

end Service

end DeviceUpdate
