import DeviceUpdate.Proofs.Deployment.Persistence
import DeviceUpdate.Proofs.Service.Coherence

/-! In every run, actions stay stored and logs only grow. -/

namespace DeviceUpdate.Service

open Deployments (Persists)

variable {settings : Settings} {started : Nat → Prop} {s s' : Store}

/-- What leaves actions and logs as they are leaves them stored. -/
theorem persists_of_frame (frame : Rollouts.Frame s s') : Persists s s' :=
  .of_eq frame.actions frame.log

/-- No run of steps removes an action or an entry of a log. -/
theorem Steps.persists (steps : Steps settings s s') (coherent : Coherent started s) :
    Persists s s' := by
  induction steps with
  | refl => exact .refl s
  | tail before step ih =>
    have between : Coherent started _ := Steps.coherent before coherent
    -- Steps of rollouts write no logs.
    cases step with
    | deployment step => exact ih.trans (step.persists between.indexed)
    | rollout step => exact ih.trans (persists_of_frame step.frame)

/-- No call removes an action or an entry of a log. -/
theorem Effect.persists {operation : Operation} (effect : Effect settings operation s s')
    (coherent : Coherent started s) : Persists s s' := by
  cases effect with
  | steps steps => exact steps.persists coherent
  | resumed cancel subject own resumption => exact resumption.persists
  | started id start => exact persists_of_frame start.frame
  | failed id failure => exact persists_of_frame failure.frame

section Runs

variable (settings : Settings)

/-- No further calls remove an action or an entry of a log. -/
theorem persists_history (calls more : List Call) :
    Persists (history settings calls).present (history settings (calls ++ more)).present := by
  induction more using List.reverseRecOn with
  -- A log is extended by every single call, and so by all of them.
  | nil =>
    rw [List.append_nil]
    exact .refl _
  | append_singleton more c ih =>
    have coherent := coherent_history settings (calls ++ more)
    rw [← List.append_assoc, history_concat]
    exact ih.trans ((c.effect _ coherent).persists coherent)

/-- The state after some calls is one that the history knows after further calls. -/
theorem mem_history (calls more : List Call) :
    (history settings calls).present ∈
      (history settings (calls ++ more)).present :: (history settings (calls ++ more)).past := by
  induction more using List.reverseRecOn with
  -- The present state of today is among the past ones of tomorrow.
  | nil =>
    rw [List.append_nil]
    exact List.mem_cons_self
  | append_singleton more c ih =>
    rw [← List.append_assoc, history_concat]
    exact List.mem_cons_of_mem _ ih

end Runs

end DeviceUpdate.Service
