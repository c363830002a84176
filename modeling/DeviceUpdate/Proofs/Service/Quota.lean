import DeviceUpdate.Proofs.Deployment.Quota
import DeviceUpdate.Proofs.Service.Audit

/-! The quota of log entries in every run: devices are held to it, and the server is not. -/

namespace DeviceUpdate

namespace Rollouts

open Deployments (Indexed Unreported)

variable {settings : Settings} {started : Nat → Prop} {s s' : Store} {r : Rollout} {id : Nat}
  {group : Nat} {now : Instant}

/-- What the start of a group does for its members does not count against any quota. -/
theorem Launch.unreported {members : List String}
    (launch : Launch (settings.tenant r.tenant) r group now members s s') (indexed : Indexed s) :
    Unreported s s' := by
  -- By induction on the members: one that is served gets a new action, whose entry is no report.
  induction launch with
  | nil s => exact .refl s
  | cons first others ih =>
    have steps : Deployments.Steps settings _ _ := first.steps indexed
    have rest := ih (steps.indexed indexed)
    cases first with
    | gone absent => exact rest
    | assigned result assigns => exact (assigns.unreported indexed).trans rest

/-- What an evaluation of a rollout does does not count against any quota. -/
theorem Evaluation.unreported (evaluation : Evaluation settings id s s')
    (coherent : Service.Coherent started s) : Unreported s s' := by
  -- Before and after the round only groups and rollouts are written.
  cases evaluation with | evaluated between round notes =>
  have noted : Unreported between s' := .of_eq notes.turns.log
  cases round with
  | quiet turns => exact (Unreported.of_eq turns.log).trans noted
  | launching before turns launches =>
    cases launches with | launched r g now runs own waits turn launch =>
    have first : Service.Steps settings s before := turns.steps
    have indexed := (first.coherent coherent).indexed
    -- The group runs before its members are served.
    have begins : Unreported s (before.putGroup { g with status := .running }) :=
      .of_eq turns.log
    exact (begins.trans (launch.unreported
      (indexed.putGroup _))).trans noted

end Rollouts

namespace Service

open Deployments (Arrives Capped Counted Housed Numbered Persists Unreported)

variable {settings : Settings} {started : Nat → Prop} {s s' : Store}

/-- What a call adds to the entries of devices: one at most, for the action it reports on. -/
inductive Tally (settings : Settings) (c : Call) (s s' : Store) : Prop
  | unreported (unreported : Unreported s s')
  | counted (controller : String) (a : Action) (f : Feedback) (cancel : Bool)
      (own : c.operation = .report a.tenant controller a.id f cancel)
      (stored : s.actions.get? a.id = some a)
      (room : s.countEntries a.id (some .device) < (settings.tenant a.tenant).maxEntries)
      (counted : Counted a.id s s')

/-- Only a report adds an entry of a device. -/
theorem Deed.tally {h : History} {c : Call} (deed : Deed settings h c s')
    (coherent : Coherent started h.present) : Tally settings c h.present s' := by
  -- Only an accepted report counts; each of the other calls writes no entry of a device.
  cases deed with
  | acted steps inherits ends act =>
    cases act with
    | aside actions log => exact .unreported (.of_eq log)
    | assigned tenant controller q result assigns =>
      exact .unreported (assigns.unreported coherent.indexed)
    | cancelled subject stored same =>
      rw [same]
      exact .unreported (.requestCancel _ subject c.now)
    | reported controller a f cancel own stored room reporting =>
      exact .counted controller a f cancel own stored room reporting.counted
  | resumed cancel subject own resumption => exact .unreported resumption.unreported
  | planned tenant q since members total own valid same =>
    rw [same]
    exact .unreported (.of_eq
      (Rollouts.Step.created h.present tenant q members total c.now).frame.log)
  | started id start => exact .unreported (.of_eq start.frame.log)
  | moved r status stored moves requests =>
    have move : Unreported h.present (h.present.putRollout { r with status := status }) :=
      .of_eq rfl
    exact .unreported (move.trans requests.unreported)
  | evaluated r stored running evaluation => exact .unreported (evaluation.unreported coherent)
  | failed id since expression fault fails failure => exact .unreported (.of_eq failure.frame.log)
  | removed r stored deleting same =>
    rw [same]
    exact .unreported (.of_eq (Rollouts.Step.removed h.present r stored deleting).frame.log)

/-- Every run of steps leaves the targets of all actions known. -/
theorem Steps.housed (steps : Steps settings s s') (coherent : Coherent started s)
    (housed : Housed s) : Housed s' := by
  -- A deployment step keeps the targets of all actions, a rollout step touches neither of the two.
  induction steps with
  | refl => exact housed
  | tail before step ih =>
    have between : Coherent started _ := Steps.coherent before coherent
    cases step with
    | deployment step => exact step.housed between.indexed ih
    | rollout step => exact ih.of_eq step.frame.targets step.frame.targetActions

/-- Every call leaves the targets of all actions known. -/
theorem Effect.housed {operation : Operation} (effect : Effect settings operation s s')
    (coherent : Coherent started s) (housed : Housed s) : Housed s' := by
  cases effect with
  | steps steps => exact steps.housed coherent housed
  | resumed cancel subject own resumption => exact resumption.housed coherent.indexed housed
  | started id start => exact housed.of_eq start.frame.targets start.frame.targetActions
  | failed id failure => exact housed.of_eq failure.frame.targets failure.frame.targetActions

section Runs

variable (settings : Settings)

/-- The targets of all actions are known in every state of every run. -/
theorem housed_history (calls : List Call) : Housed (history settings calls).present :=
  history_holds Deployments.housed_empty
    (fun calls _ deed =>
      have coherent := coherent_history settings calls
      (deed.effect coherent).housed coherent) calls

/-- No action exceeds its quota in any state of any run. -/
theorem capped_history (calls : List Call) : Capped settings (history settings calls).present := by
  refine history_holds Deployments.capped_empty ?_ calls
  -- A call adds nothing to what counts, or one entry for which there was room.
  intro calls c deed capped
  have numbered := numbered_history settings calls
  have persists := persists_history settings calls [c]
  cases deed.tally (coherent_history settings calls) with
  | unreported unreported => exact capped.unreported numbered persists unreported
  | counted controller a f cancel own stored room counted =>
    exact capped.counted numbered persists counted stored room

/-- The quota of log entries after a run: what it holds devices to, and what counts against it. -/
structure Metered (settings : Settings) (h : History) : Prop where
  /-- No action has more entries of its device than its tenant allows. -/
  capped : Capped settings h.present
  /-- Where there is room, a report on an open action is taken and counts once. -/
  accepts : ∀ {tenant controller : String} {a : Action} {f : Feedback} {cancel : Bool},
    Arrives (settings.tenant tenant) h.present tenant controller f cancel a →
    h.present.countEntries a.id (some .device) < (settings.tenant tenant).maxEntries →
    ∀ now, ∃ r s',
      (Deployments.report (settings.tenant tenant) tenant controller a.id f cancel now).run
        h.present = (.ok r, s') ∧
      (Device.report (settings.tenant tenant) tenant controller a.id f cancel now).run
        h.present = (.ok r, s') ∧ Counted a.id h.present s'
  /-- Where the quota is used up, the report is refused and nothing is written. -/
  refuses : ∀ {tenant controller : String} {a : Action} {f : Feedback} {cancel : Bool},
    Arrives (settings.tenant tenant) h.present tenant controller f cancel a →
    h.present.countEntries a.id (some .device) = (settings.tenant tenant).maxEntries →
    ∀ now, ∃ e : DeployError,
      e = .tooManyEntries a.id (settings.tenant tenant).maxEntries ∧
      e.failure = .quotaExceeded ∧
      (Deployments.report (settings.tenant tenant) tenant controller a.id f cancel now).run
        h.present = (.error e, h.present) ∧
      (Device.report (settings.tenant tenant) tenant controller a.id f cancel now).run
        h.present = (.error (.deploy e), h.present)
  /-- Nothing but a report that is taken counts against a quota. -/
  counts : ∀ c, Unreported h.present (h.next settings c).present ∨
    ∃ tenant controller id f cancel r, c.operation = .report tenant controller id f cancel ∧
      ((Deployments.report (settings.tenant tenant) tenant controller id f cancel c.now).run
        h.present).1 = .ok r ∧ Counted id h.present (h.next settings c).present

/-- In every run, devices write as many entries as they may, and the server as many as it wants. -/
theorem metered_history (calls : List Call) : Metered settings (history settings calls) := by
  have coherent := coherent_history settings calls
  -- The target of a stored action is known, so the check for it passes.
  have known {tenant controller : String} {a : Action} {f : Feedback} {cancel : Bool}
      (arrives : Arrives (settings.tenant tenant) (history settings calls).present tenant
        controller f cancel a) :
      ((history settings calls).present.target? tenant controller).isSome = true := by
    have here := (housed_history settings calls).known coherent.indexed arrives.stored
    rwa [Action.targetKey, arrives.owner, arrives.device] at here
  constructor
  case capped => exact capped_history settings calls
  case accepts =>
    intro tenant controller a f cancel arrives room now
    obtain ⟨r, s', done⟩ := arrives.report_succeeds (known arrives) room now
    refine ⟨r, s', Transaction.run_of_ok done, Transaction.run_of_ok ?_, ?_⟩
    · rw [Device.report_of_known (known arrives)]
      exact Transaction.mapError_eq_ok.mpr done
    · -- The report comes to the action itself, and counts for it.
      obtain ⟨b, found, -, -, -, reporting⟩ :=
        Deployments.report_reporting coherent.indexed coherent.paired done
      have same := Deployments.action?_unique arrives.stored found
      subst same
      exact reporting.counted
  case refuses =>
    -- At the cap the manager refuses with its own error, and the gateway passes it on.
    intro tenant controller a f cancel arrives full now
    have fails := arrives.report_full full now
    refine ⟨_, rfl, rfl, Transaction.run_of_error fails, Transaction.run_of_error ?_⟩
    rw [Device.report_of_known (known arrives)]
    exact Transaction.mapError_of_error fails
  case counts =>
    intro c
    have deed : Deed settings (history settings calls) c
      ((history settings calls).next settings c).present := c.deed _ coherent
    cases deed.tally coherent with
    | unreported unreported => exact Or.inl unreported
    | counted controller a f cancel own stored room counted =>
      -- A report that is refused leaves the state as it is.
      cases outcome : Deployments.report (settings.tenant a.tenant) a.tenant controller a.id f
          cancel c.now (history settings calls).present with
      | error e =>
        refine Or.inl ?_
        simp only [History.next, Call.apply, own, Transaction.run_of_error outcome]
        exact .refl _
      | ok done =>
        exact Or.inr ⟨a.tenant, controller, a.id, f, cancel, done.1, own,
          by rw [Transaction.run_of_ok outcome], counted⟩

end Runs

end Service

end DeviceUpdate
