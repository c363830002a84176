import DeviceUpdate.Device.Gateway
import DeviceUpdate.Rollout.Scheduler

/-! Runs of the service: all public operations, transaction by transaction, in any order. -/

namespace DeviceUpdate.Service

/-- One transaction of the service. -/
inductive Operation where
  | createSet (tenant name version : String) (modules : List SoftwareModule)
  | createTarget (tenant controller : String) (attributes : Table String String)
  | poll (tenant controller : String) (address : Option String)
  | describe (tenant controller : String) (r : Deployments.AttributeReport)
  | assign (tenant controller : String) (q : AssignmentRequest)
  | cancel (tenant : String) (id : Nat)
  | rejectCancel (tenant : String) (id : Nat)
  | report (tenant controller : String) (id : Nat) (f : Feedback) (cancel : Bool)
  /-- A rollout is stored that was planned in the state so many transactions ago. -/
  | createRollout (tenant : String) (q : Rollouts.Request) (since : Nat)
  | startRollout (tenant : String) (id : Nat)
  | pauseRollout (tenant : String) (id : Nat)
  | resumeRollout (tenant : String) (id : Nat)
  | stopRollout (tenant : String) (id : Nat)
  /-- A rollout is marked for deletion. -/
  | markRollout (tenant : String) (id : Nat)
  /-- A tick starts a rollout that it has found to be due. -/
  | startDue (id : Nat)
  | evaluate (id : Nat)
  /-- A tick marks a rollout whose evaluation failed in the state so many transactions ago. -/
  | markFailed (id since : Nat)
  /-- A rollout that is marked for deletion is removed. -/
  | purge (id : Nat)

/-- An operation at an instant. -/
structure Call where
  now : Instant
  operation : Operation

/-- The present state and those before it, latest first. -/
structure History where
  present : Store
  past : List Store

namespace History

/-- The state so many transactions ago. -/
def ago (h : History) (since : Nat) : Store :=
  -- Before the first state there is nothing to look at, and the present one stands in for it.
  (h.present :: h.past).getD since h.present

/-- Whether a rollout runs in the present state or has run in an earlier one. -/
def started (h : History) (id : Nat) : Prop :=
  ∃ s ∈ h.present :: h.past, ∃ r, s.rollouts.get? id = some r ∧ r.status = .running

end History

/-- The store that a call leaves behind, whether it succeeds or not. -/
def Call.apply (settings : Settings) (h : History) (c : Call) : Store :=
  let s := h.present
  -- A transaction that fails leaves the store as it was.
  match c.operation with
  | .createSet tenant name version modules =>
    ((Deployments.createSet tenant name version modules c.now : Transaction DeployError _).run s).2
  | .createTarget tenant controller attributes =>
    ((Deployments.createTarget tenant controller attributes c.now).run s).2
  | .poll tenant controller address => (Device.touch s tenant controller address c.now).2
  | .describe tenant controller r =>
    ((Deployments.updateAttributes tenant controller r c.now).run s).2
  | .assign tenant controller q =>
    ((Deployments.assign (settings.tenant tenant) tenant controller q c.now).run s).2
  | .cancel tenant id => ((Deployments.cancel tenant id c.now).run s).2
  | .rejectCancel tenant id => ((Deployments.rejectCancel tenant id c.now).run s).2
  | .report tenant controller id f cancel =>
    ((Deployments.report (settings.tenant tenant) tenant controller id f cancel c.now).run s).2
  | .createRollout tenant q since =>
    -- The plan is made in an earlier state, as requests may come between it and its storage.
    match Rollouts.planned (settings.tenant tenant) tenant q (h.ago since) with
    | .ok (members, total) => ((Rollouts.storePlanned tenant q members total c.now).run s).2
    | .error _ => s
  | .startRollout tenant id => ((Rollouts.start tenant id).run s).2
  | .pauseRollout tenant id => ((Rollouts.pause tenant id).run s).2
  | .resumeRollout tenant id => ((Rollouts.resume tenant id).run s).2
  | .stopRollout tenant id => ((Rollouts.stop tenant id c.now).run s).2
  | .markRollout tenant id => ((Rollouts.markDeleted tenant id).run s).2
  | .startDue id => ((Rollouts.startIn id : Transaction Rollouts.Error _).run s).2
  | .evaluate id => ((Rollouts.evaluate settings id c.now).run s).2
  | .markFailed id since =>
    -- The failure was met in an earlier state as well, and only its error counts now.
    match ((Rollouts.evaluate settings id c.now).run (h.ago since)).1 with
    | .ok _ => s
    | .error e => Rollouts.onFailure id e s
  | .purge id => ((Rollouts.purge id : Transaction Rollouts.Error _).run s).2

/-- The history after one more call. -/
def History.next (settings : Settings) (h : History) (c : Call) : History :=
  ⟨c.apply settings h, h.present :: h.past⟩

/-- The history of calls that start with nothing stored. -/
def history (settings : Settings) (calls : List Call) : History :=
  calls.foldl (History.next settings) ⟨.empty, []⟩

section History

variable (settings : Settings)

@[simp] theorem history_nil : history settings [] = ⟨.empty, []⟩ := rfl

theorem history_append (calls more : List Call) :
    history settings (calls ++ more) = more.foldl (History.next settings) (history settings calls) := by
  -- The calls come one after another, so the first ones have been made before the others.
  simp only [history, List.foldl_append]

@[simp] theorem history_concat (calls : List Call) (c : Call) :
    history settings (calls ++ [c]) = (history settings calls).next settings c := by
  rw [history_append]
  rfl

end History

end DeviceUpdate.Service
