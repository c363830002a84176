import DeviceUpdate.Proofs.Deployment.Audit
import DeviceUpdate.Proofs.Service.Conduct
import DeviceUpdate.Proofs.Service.Persistence

/-! In every run, each new status of an action has its own entry in a log without gaps. -/

namespace DeviceUpdate

namespace Rollouts

open Deployments (Delivers Indexed Recorded)

variable {settings : Settings} {started : Nat → Prop} {s s' s'' : Store} {r : Rollout} {id : Nat}
  {group : Nat} {now : Instant}

/-- Turns of a rollout write no logs. -/
theorem Turns.log (turns : Turns id s s') : s'.log = s.log := by
  induction turns with
  | refl => rfl
  | tail _ turn ih => exact turn.step.frame.log.trans ih

/-- What the start of a group does for a member is recorded. -/
theorem Enrols.recorded {own : TenantSettings} {controller : String}
    (enrols : Enrols own r group now controller s' s'')
    (recorded : Recorded (Delivers r.distributionSet) s s') (indexed : Indexed s') :
    Recorded (Delivers r.distributionSet) s s'' := by
  cases enrols with
  | gone absent => exact recorded
  | assigned result assigns => exact assigns.recorded recorded indexed

/-- What the start of a group does for its members is recorded, once for each action. -/
theorem Launch.recorded {members : List String}
    (launch : Launch (settings.tenant r.tenant) r group now members s' s'')
    (recorded : Recorded (Delivers r.distributionSet) s s') (indexed : Indexed s') :
    Recorded (Delivers r.distributionSet) s s'' := by
  induction launch with
  | nil _ => exact recorded
  | cons first others ih =>
    -- What is deployed for one member is not replaced for another one of the same set.
    have steps : Deployments.Steps settings _ _ := first.steps indexed
    exact ih (first.recorded recorded indexed) (steps.indexed indexed)

/-- What an evaluation of a rollout does is recorded. -/
theorem Evaluation.recorded (evaluation : Evaluation settings id s s')
    (coherent : Service.Coherent started s) : ∃ spared, Recorded spared s s' := by
  cases evaluation with | evaluated between round notes =>
  cases round with
  | quiet turns =>
    -- Turns and notes write no actions.
    have all : Turns id s s' := turns.trans notes.turns
    exact ⟨fun _ => True, (Recorded.refl _ s).aside all.rests.actions all.log⟩
  | launching before turns launches =>
    -- The launch serves one member after the other, and spares the deployments of its set.
    cases launches with | launched r g now runs own waits turn launch =>
    have first : Service.Steps settings s before := turns.steps
    have indexed : Indexed before := (first.coherent coherent).indexed
    have start : Recorded (Delivers r.distributionSet) s before :=
      (Recorded.refl _ s).aside turns.rests.actions turns.log
    have launched := launch.recorded (start.aside rfl rfl)
      (indexed.putGroup _)
    exact ⟨_, launched.aside notes.turns.rests.actions notes.turns.log⟩

end Rollouts

namespace Service

open Deployments (Noted Numbered Recorded Writes)

variable {settings : Settings} {started : Nat → Prop} {s s' : Store}

/-- What leaves actions and logs as they are adds nothing to the record. -/
theorem recorded_of_frame (frame : Rollouts.Frame s s') : Recorded (fun _ => True) s s' :=
  (Recorded.refl _ s).aside frame.actions frame.log

/-- Whatever a call does, each action is recorded once at most. -/
theorem Deed.recorded {h : History} {c : Call} (deed : Deed settings h c s')
    (coherent : Coherent started h.present) : ∃ spared, Recorded spared h.present s' := by
  cases deed with
  -- What is acted is one of four things, by the kind of the call.
  | acted steps inherits ends act =>
    cases act with
    | aside actions log => exact ⟨fun _ => True, (Recorded.refl _ _).aside actions log⟩
    | assigned tenant controller q result assigns =>
      exact ⟨_, assigns.recorded (.refl _ _) coherent.indexed⟩
    | cancelled subject stored same =>
      rw [same]
      exact ⟨fun _ => True,
        (Recorded.refl _ _).requestCancel coherent.indexed stored (.refl _ _)⟩
    | reported controller a f cancel own stored room reporting =>
      exact ⟨_, (reporting.step stored room).recorded coherent.indexed⟩
  | resumed cancel subject own resumption => exact ⟨_, resumption.recorded⟩
  -- The steps of a rollout write neither actions nor logs.
  | planned tenant q since members total own valid same =>
    rw [same]
    exact ⟨_, recorded_of_frame
      (Rollouts.Step.created h.present tenant q members total c.now).frame⟩
  | started id start => exact ⟨_, recorded_of_frame start.frame⟩
  | moved r status stored moves requests =>
    -- After its first request no deployment is in flight any more.
    have start : Recorded (fun _ => False) h.present
        (h.present.putRollout { r with status := status }) := (Recorded.refl _ _).aside rfl rfl
    exact ⟨_, start.requests
      (coherent.indexed.putRollout _)
      (requests.mono fun _ _ _ => not_false)⟩
  | evaluated r stored running evaluation => exact evaluation.recorded coherent
  | failed id since expression fault fails failure => exact ⟨_, recorded_of_frame failure.frame⟩
  | removed r stored deleting same =>
    rw [same]
    exact ⟨_, recorded_of_frame (Rollouts.Step.removed h.present r stored deleting).frame⟩

/-- Every run of steps writes actions with entries of their logs only. -/
theorem Steps.numbered (steps : Steps settings s s') (numbered : Numbered s) : Numbered s' := by
  induction steps with
  | refl => exact numbered
  | tail _ step ih =>
    cases step with
    | deployment step => exact ih.writes step.writes
    | rollout step => exact ih.writes (.aside .refl step.frame.actions step.frame.log)

/-- Every call leaves all logs numbered. -/
theorem Effect.numbered {operation : Operation} (effect : Effect settings operation s s')
    (numbered : Numbered s) : Numbered s' := by
  cases effect with
  | steps steps => exact steps.numbered numbered
  | resumed cancel subject own resumption => exact numbered.writes resumption.writes
  | started id start => exact numbered.writes (.aside .refl start.frame.actions start.frame.log)
  | failed id failure =>
    exact numbered.writes (.aside .refl failure.frame.actions failure.frame.log)

section Runs

variable (settings : Settings)

/-- The logs are numbered in every state of every run. -/
theorem numbered_history (calls : List Call) : Numbered (history settings calls).present :=
  history_holds Deployments.numbered_empty
    (fun calls _ deed =>
      (deed.effect (coherent_history settings calls)).numbered) calls

/-- A transaction tells every new status in the log of its action, and logs are only extended. -/
structure Audited (s s' : Store) : Prop where
  /-- What is new, or has another status than before, has one new entry with its status. -/
  entry : ∀ {id : Nat} {a : Action}, s'.actions.get? id = some a →
    (s.actions.get? id).map (·.status) ≠ some a.status →
    ∃ e, s'.logOf id = s.logOf id ++ [e] ∧ e.status = a.status
  /-- No entry is changed or removed. -/
  kept : ∀ id, s.logOf id <+: s'.logOf id
  own : ∀ {id : Nat} {e : LogEntry}, e ∈ s'.logOf id → e.action = id
  /-- The entries of every action are numbered from zero, oldest first. -/
  positions : ∀ id, (s'.logOf id).map (·.position) = List.range (s'.logOf id).length

/-- The trail is complete: every transaction in every run tells all that it does to actions. -/
theorem audited_history (calls : List Call) (c : Call) :
    Audited (history settings calls).present (history settings (calls ++ [c])).present := by
  have numbered := numbered_history settings (calls ++ [c])
  constructor
  case entry =>
    intro id a stored changed
    have coherent := coherent_history settings calls
    rw [history_concat] at stored ⊢
    have deed : Deed settings (history settings calls) c
        ((history settings calls).next settings c).present := c.deed _ coherent
    obtain ⟨spared, recorded⟩ := deed.recorded coherent
    -- What has changed is not untouched, so it is noted.
    rcases recorded id with untouched | ⟨⟨b, e, found, logged, tells⟩, -⟩
    · exact absurd (by rw [← untouched.action, stored, Option.map_some]) changed
    · have same : b = a := Option.some.inj (found.symm.trans stored)
      subst same
      exact ⟨e, logged, tells.resolve_left changed⟩
  case kept => exact (persists_history settings calls [c]).log
  case own => exact fun member => (numbered.found member).1
  case positions => exact numbered.positions

end Runs

end Service

end DeviceUpdate
