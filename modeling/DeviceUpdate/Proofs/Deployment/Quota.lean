import DeviceUpdate.Proofs.Deployment.Audit
import DeviceUpdate.Proofs.Deployment.Persistence
import DeviceUpdate.Proofs.Deployment.Reporting

/-! The quota of log entries: what counts against it, and which reports find room. -/

namespace DeviceUpdate

namespace Store

/-- A new entry counts for its own action and its own source. -/
theorem countEntries_record (s : Store) (a : Action) (e : LogEntry) (id : Nat)
    (source : Option Source) :
    (s.record a e).countEntries id source =
      s.countEntries id source +
        if id = e.action ∧ source.all (· == e.source) = true then 1 else 0 := by
  -- Only the log of its action has the entry, at its end.
  by_cases own : id = e.action
  · simp only [countEntries, own, logOf_record_own, List.countP_append, List.countP_singleton,
      true_and]
  · simp only [countEntries, logOf_record s a e own, own, false_and, ↓reduceIte, Nat.add_zero]

/-- The entries are counted in the logs alone. -/
theorem countEntries_congr {s t : Store} (same : s.log = t.log) (id : Nat)
    (source : Option Source) : s.countEntries id source = t.countEntries id source := by
  simp only [countEntries, logOf, same]

end Store

namespace Deployments

/-- No log has a new entry of a device. -/
def Unreported (s s' : Store) : Prop :=
  ∀ id, s'.countEntries id (some .device) = s.countEntries id (some .device)

/-- The log of one action has one new entry of a device, and no other log has any. -/
def Counted (action : Nat) (s s' : Store) : Prop :=
  ∀ id, s'.countEntries id (some .device) =
    s.countEntries id (some .device) + if id = action then 1 else 0

section Counting

variable {settings : Settings} {s s' s'' : Store} {a cancel subject : Action} {e : LogEntry}
  {now : Instant} {id : Nat}

/-- What leaves the logs alone reports nothing. -/
theorem Unreported.of_eq (log : s'.log = s.log) : Unreported s s' :=
  fun id => Store.countEntries_congr log id _

theorem Unreported.refl (s : Store) : Unreported s s :=
  .of_eq rfl

theorem Unreported.trans (first : Unreported s s') (second : Unreported s' s'') :
    Unreported s s'' :=
  fun id => (second id).trans (first id)

/-- What comes before and after the entry of a device does not count. -/
theorem Counted.between {t t' : Store} (before : Unreported s t) (counted : Counted id t t')
    (after : Unreported t' s') : Counted id s s' :=
  fun other => by rw [after, counted, before]

/-- An entry of the server does not count. -/
theorem Unreported.remark (unreported : Unreported s s') (a : Action)
    (system : e.source = .system) : Unreported s (s'.record a e) := by
  refine unreported.trans fun id => ?_
  rw [Store.countEntries_record, system]
  simp

/-- An entry of the device counts once, for its own action. -/
theorem counted_record (s : Store) (a : Action) (device : e.source = .device) :
    Counted e.action s (s.record a e) := by
  intro id
  rw [Store.countEntries_record, device]
  simp

/-- The entries of a request for a cancellation do not count. -/
theorem Unreported.requestCancel (s : Store) (subject : Action) (now : Instant) :
    Unreported s (s.requestCancel subject now) := by
  have drawn : Unreported s (s.advance sequence) := .of_eq rfl
  exact (drawn.remark _ rfl).remark _ rfl

/-- The entry of a new deployment does not count. -/
theorem Unreported.deploy (s : Store) (t : Target) (tenant controller : String) (d : Deployment)
    (rollout : Option Membership) (now : Instant) :
    Unreported s (s.deploy t tenant controller d rollout now) := by
  have drawn : Unreported s (s.advance sequence) := .of_eq rfl
  exact (drawn.remark _ rfl).trans (.of_eq rfl)

/-- The entries of requests for cancellations do not count. -/
theorem Requests.unreported {test : Action → Prop} (requests : Requests test now s s') :
    Unreported s s' := by
  induction requests with
  | refl => exact .refl s
  | tail _ request ih =>
    obtain ⟨subject, -, -, -, same⟩ := request
    rw [same]
    exact ih.trans (.requestCancel _ subject now)

/-- The entries of an assignment do not count. -/
theorem Assigns.unreported {own : TenantSettings} {tenant controller : String}
    {q : AssignmentRequest} {rollout : Option Membership} {assigned : Assigned}
    (assigns : Assigns own tenant controller q rollout now s assigned s') (indexed : Indexed s) :
    Unreported s s' := by
  -- Neither the requests nor the new action bring in entries of devices.
  cases assigns with
  | already a current => exact .refl s
  | new t weight cancels between valid found known free replaces =>
    have requests : Unreported s between := by
      rw [replaces]
      exact (indexed.replaced_requests own tenant controller now).unreported
    exact requests.trans (.deploy between t tenant controller _ rollout now)

/-- The entries of a refusal do not count. -/
theorem Resumption.unreported (resumption : Resumption cancel subject s s') :
    Unreported s s' := by
  cases resumption with | resumed now pending =>
  exact ((Unreported.refl s).remark _ rfl).remark _ rfl

/-- A report counts once, for its own action, whatever follows from it. -/
theorem Reporting.counted {f : Feedback} (reporting : Reporting a f now s s') :
    Counted a.id s s' := by
  -- The entry of the report comes first, and all entries after it are of the server.
  have close (set : Nat) (t : Target) : Counted a.id s (s.close a set t f now) :=
    .between (.refl s) (counted_record s (a.moved f.outcome.status false now) rfl) (.of_eq rfl)
  cases reporting with
  | progressed step going reported => exact counted_record s step.action rfl
  | closed d t => exact close d.distributionSet t
  | superseded cancel d t =>
    exact .between (.refl s) (close d.distributionSet t) ((Unreported.refl _).remark _ rfl)
  | confirmed subject t =>
    exact .between (.refl s) (counted_record s (a.moved .canceled false now) rfl)
      (((Unreported.refl _).remark _ rfl).trans (.of_eq rfl))

/-- No action has more entries of its device than its tenant allows. -/
def Capped (settings : Settings) (s : Store) : Prop :=
  ∀ ⦃id : Nat⦄ ⦃a : Action⦄, s.actions.get? id = some a →
    s.countEntries id (some .device) ≤ (settings.tenant a.tenant).maxEntries

theorem capped_empty : Capped settings .empty := by
  intro id a stored
  cases stored

/-- What is not stored has no entries, and what is stored stays with its tenant. -/
theorem Capped.origin (capped : Capped settings s) (numbered : Numbered s)
    (persists : Persists s s') (stored : s'.actions.get? id = some a) :
    s.countEntries id (some .device) ≤ (settings.tenant a.tenant).maxEntries := by
  -- An action that is new to the step has no entries before it.
  cases before : s.actions.get? id with
  | none => simp [Store.countEntries, numbered.absent before]
  | some b =>
    obtain ⟨status, active, time, found⟩ := persists.action before
    rw [Option.some.inj (stored.symm.trans found), Action.moved_tenant]
    exact capped before

/-- Without entries of devices, no action exceeds its quota. -/
theorem Capped.unreported (capped : Capped settings s) (numbered : Numbered s)
    (persists : Persists s s') (unreported : Unreported s s') : Capped settings s' := by
  intro id a stored
  rw [unreported]
  exact capped.origin numbered persists stored

/-- Where there was room for one entry, no action exceeds its quota after it. -/
theorem Capped.counted (capped : Capped settings s) (numbered : Numbered s)
    (persists : Persists s s') (counted : Counted a.id s s')
    (stored : s.actions.get? a.id = some a)
    (room : s.countEntries a.id (some .device) < (settings.tenant a.tenant).maxEntries) :
    Capped settings s' := by
  intro id b later
  rw [counted]
  -- Only the log of the reported action has grown, and there was room in it.
  split
  · rename_i here
    subst here
    obtain ⟨status, active, time, found⟩ := persists.action stored
    rw [Option.some.inj (later.symm.trans found), Action.moved_tenant]
    omega
  · exact capped.origin numbered persists later

end Counting

/-- The targets of all actions are known. -/
def Housed (s : Store) : Prop :=
  ∀ ⦃key : String⦄ ⦃id : Nat⦄, s.targetActions.contains (key, id) = true →
    s.targets.contains key = true

section Housing

variable {settings : Settings} {s s' : Store} {a cancel subject : Action} {e : LogEntry}

theorem housed_empty : Housed .empty := by
  intro key id listed
  cases listed

/-- The target of a stored action is known. -/
theorem Housed.known (housed : Housed s) (indexed : Indexed s)
    (stored : s.actions.get? a.id = some a) : s.targets.contains a.targetKey = true :=
  housed (indexed.listed.mpr ⟨a, stored, rfl⟩)

/-- What leaves targets and lists alone houses all actions as before. -/
theorem Housed.of_eq (housed : Housed s) (targets : s'.targets = s.targets)
    (listed : s'.targetActions = s.targetActions) : Housed s' := by
  intro key id here
  rw [targets]
  exact housed (listed ▸ here)

/-- An action of a known target may be recorded. -/
theorem Housed.record (housed : Housed s) (known : s.targets.contains a.targetKey = true) :
    Housed (s.record a e) := by
  intro key id listed
  rcases (s.listed_record a e key id).mp listed with here | before
  · rw [(Prod.mk.inj here).1]
    exact known
  · exact housed before

/-- Storing a target leaves all others known. -/
theorem Housed.putTarget (housed : Housed s) (t : Target) : Housed (s.putTarget t) :=
  fun _ _ listed => (Table.contains_insert _ _ _ _).mpr (Or.inr (housed listed))

/-- The end of a deployment leaves the targets of all actions known. -/
theorem Housed.close (housed : Housed s) (known : s.targets.contains a.targetKey = true)
    (set : Nat) (t : Target) (f : Feedback) (now : Instant) : Housed (s.close a set t f now) :=
  Housed.putTarget (housed.record (a := a.moved f.outcome.status false now) known) _

/-- Both sides of a pair may be recorded, one after the other. -/
theorem Housed.pair (housed : Housed s) (indexed : Indexed s) (pending : Pending s cancel subject)
    {status other : Status} {active running : Bool} {now : Instant} {first second : LogEntry} :
    Housed ((s.record (cancel.moved status active now) first).record
      (subject.moved other running now) second) := by
  have known := housed.known indexed pending.cancelStored
  have knownSubject := housed.known indexed pending.subjectStored
  have ended : Housed (s.record (cancel.moved status active now) first) := housed.record known
  exact ended.record knownSubject

/-- Every step leaves the targets of all actions known. -/
theorem Step.housed (step : Step settings s s') (indexed : Indexed s) (housed : Housed s) :
    Housed s' := by
  cases step with
  | published => exact housed.of_eq rfl rfl
  | registered => exact housed.putTarget _
  | polled => exact housed.putTarget _
  | described => exact housed.putTarget _
  -- A request writes the subject and a cancellation, both for a target that is known.
  | requested subject now stored =>
    have drawn : Housed (s.advance sequence) := housed.of_eq rfl rfl
    have known := housed.known indexed stored
    exact Housed.record (drawn.record known) known
  -- The target of the new deployment was looked up.
  | deployed tenant controller t d rollout now found =>
    have drawn : Housed (s.advance sequence) := housed.of_eq rfl rfl
    have known : s.targets.contains (Target.keyOf tenant controller) = true :=
      Table.contains_iff.mpr ⟨t, found⟩
    exact Housed.putTarget (drawn.record
      (a := newAction (s.nextNumber sequence) tenant controller d rollout now) known) _
  | progressed a f now step stored room going reported =>
    refine housed.record ?_
    -- The action keeps its target.
    rcases Action.report_moved reported with stays | ⟨status, active, moved⟩
    · rw [stays]
      exact housed.known indexed stored
    · rw [moved, Action.moved_targetKey]
      exact housed.known indexed stored
  | closed a d t f now stored => exact housed.close (housed.known indexed stored) _ t f now
  | superseded cancel a d t f now pending =>
    have closed : Housed (s.close a d.distributionSet t f now) :=
      housed.close (housed.known indexed pending.subjectStored) _ t f now
    refine closed.record ?_
    have known := housed.known indexed pending.cancelStored
    exact (Table.contains_insert _ _ _ _).mpr (Or.inr known)
  | confirmed cancel subject t f now pending =>
    exact Housed.putTarget (housed.pair indexed pending) _

/-- The refusal of a cancellation leaves the targets of all actions known. -/
theorem Resumption.housed (resumption : Resumption cancel subject s s') (indexed : Indexed s)
    (housed : Housed s) : Housed s' := by
  cases resumption with | resumed now pending =>
  exact housed.pair indexed pending

end Housing

section Acceptance

variable {s : Store} {a : Action} {now : Instant}

/-- The target of an action is found where it is known. -/
theorem targetOf_bind_apply {β : Type} {t : Target}
    (found : s.target? a.tenant a.controller = some t) (rest : Target → Transaction DeployError β) :
    (targetOf a >>= rest) s = rest t s := by
  simp only [targetOf, bind_assoc, Transaction.read_bind_apply, found, Transaction.orElse,
    Transaction.pure_bind_apply]

/-- Ending pending cancellations does not fail, and leaves the targets as they are. -/
theorem mapM_supersede_succeeds (s : Store) (id : Nat) (now : Instant) (pending : List Action) :
    ∃ events s', (pending.mapM (supersede id now)) s = .ok (events, s') ∧
      s'.targets = s.targets := by
  induction pending generalizing s with
  | nil => exact ⟨[], s, rfl, rfl⟩
  | cons cancel rest ih =>
    -- The others end in the state in which the first one has ended.
    obtain ⟨events, s', done, targets⟩ := ih (s.supersede cancel id now)
    refine ⟨(cancel.supersedeCancel now).events :: events, s', ?_, targets⟩
    rw [List.mapM_cons]
    refine Transaction.bind_eq_ok.mpr ⟨_, s.supersede cancel id now, rfl, ?_⟩
    exact Transaction.bind_eq_ok.mpr ⟨events, s', done, rfl⟩

/-- Ending the cancellations of a deployment does not fail, and leaves the targets as they are. -/
theorem onSuperseded_succeeds (s : Store) (a : Action) (id : Nat) (now : Instant) :
    ∃ events s', onSuperseded a id now s = .ok (events, s') ∧ s'.targets = s.targets := by
  obtain ⟨events, s', done, targets⟩ := mapM_supersede_succeeds s id now
    ((s.actionsOf a.tenant a.controller).filter fun o => o.active && o.cancels? == some id)
  refine ⟨events.flatten, s', ?_, targets⟩
  simp only [onSuperseded, Transaction.read_bind_apply, map_eq_pure_bind]
  exact Transaction.bind_eq_ok.mpr ⟨events, s', done, rfl⟩

/-- Storing a target leaves those known that were known before. -/
theorem known_putTarget {s' : Store} {tenant controller : String}
    (known : (s.target? tenant controller).isSome = true) (targets : s'.targets = s.targets)
    (t : Target) : ((s'.putTarget t).target? tenant controller).isSome = true := by
  have before : s'.targets.contains (Target.keyOf tenant controller) = true := by
    rw [targets]
    exact known
  exact (Table.contains_insert _ _ _ _).mpr (Or.inr before)

/-- Closing a deployment that is given up does not fail where the target is known. -/
theorem onConfirmed_succeeds (known : (s.target? a.tenant a.controller).isSome = true)
    (id cancel : Nat) (now : Instant) :
    ∃ events s', onConfirmed a id cancel now s = .ok (events, s') ∧
      (s'.target? a.tenant a.controller).isSome = true := by
  obtain ⟨t, found⟩ := Option.isSome_iff_exists.mp known
  simp only [onConfirmed, Transaction.read_bind_apply]
  cases s.action? a.tenant id with
  | none => exact ⟨_, s, rfl, known⟩
  | some subject =>
    by_cases closed : subject.isClosed = true
    -- What has ended on its own is left as it is.
    · simp only [if_pos closed]
      exact ⟨_, s, rfl, known⟩
    · -- The records of actions are written before the target, which is found as it was.
      simp only [if_neg closed, Transaction.change_bind_apply, Transaction.note_bind_apply]
      rw [targetOf_bind_apply (by exact found)]
      exact ⟨_, _, rfl, known_putTarget known rfl _⟩

/-- What follows from an event does not fail where the target is known, which stays so. -/
theorem handle_succeeds (known : (s.target? a.tenant a.controller).isSome = true) (now : Instant)
    (e : Event) :
    ∃ events s', handle a now e s = .ok (events, s') ∧
      (s'.target? a.tenant a.controller).isSome = true := by
  obtain ⟨t, found⟩ := Option.isSome_iff_exists.mp known
  cases e with
  -- The outcome of a deployment is noted on the target, which has to be known for it.
  | deploymentFinished id set =>
    have done : handle a now (.deploymentFinished id set) s =
        .ok ([], s.putTarget (t.withInstalled set (othersInFlight s a id) now)) := by
      simp only [handle, onFinished, bind_assoc, targetOf_bind_apply found,
        Transaction.read_bind_apply, Transaction.change_bind_apply, Transaction.pure_apply]
      rfl
    exact ⟨_, _, done, known_putTarget known rfl _⟩
  | deploymentFailed id set =>
    have done : handle a now (.deploymentFailed id set) s = .ok ([], s.putTarget (t.failed now)) := by
      simp only [handle, onFailed, bind_assoc, targetOf_bind_apply found,
        Transaction.change_bind_apply, Transaction.pure_apply]
      rfl
    exact ⟨_, _, done, known_putTarget known rfl _⟩
  | cancelSuperseded id =>
    obtain ⟨events, s', done, targets⟩ := onSuperseded_succeeds s a id now
    exact ⟨events, s', done, by rw [Store.target?, targets]; exact known⟩
  | cancelConfirmed id cancel => exact onConfirmed_succeeds known id cancel now
  -- Nothing follows from the other events.
  | statusChanged => exact ⟨[], s, rfl, known⟩
  | cancelRequested => exact ⟨[], s, rfl, known⟩
  | cancelRejected => exact ⟨[], s, rfl, known⟩

/-- What follows from several events does not fail where the target is known. -/
theorem mapM_handle_succeeds (known : (s.target? a.tenant a.controller).isSome = true)
    (now : Instant) (events : List Event) :
    ∃ further s', (events.mapM (handle a now)) s = .ok (further, s') := by
  -- The target stays known from one event to the next, which is what the induction carries.
  induction events generalizing s with
  | nil => exact ⟨[], s, rfl⟩
  | cons e rest ih =>
    obtain ⟨first, s₁, done, still⟩ := handle_succeeds known now e
    obtain ⟨more, s₂, others⟩ := ih still
    refine ⟨first :: more, s₂, ?_⟩
    rw [List.mapM_cons]
    refine Transaction.bind_eq_ok.mpr ⟨first, s₁, done, ?_⟩
    exact Transaction.bind_eq_ok.mpr ⟨more, s₂, others, rfl⟩

/-- A report that comes to an open action of its target and its kind, with not too many messages. -/
structure Arrives (own : TenantSettings) (s : Store) (tenant controller : String) (f : Feedback)
    (cancel : Bool) (a : Action) : Prop where
  stored : s.actions.get? a.id = some a
  owner : a.tenant = tenant
  device : a.controller = controller
  kind : a.isCancel = cancel
  isOpen : a.isClosed = false
  brief : f.messages.length ≤ own.maxMessages

variable {own : TenantSettings} {tenant controller : String} {f : Feedback} {cancel : Bool}

/-- The action that a report comes to is the one that is looked up for it. -/
theorem Arrives.found (arrives : Arrives own s tenant controller f cancel a) :
    (s.action? tenant a.id).filter (fun b => b.controller == controller && b.isCancel == cancel) =
      some a := by
  rw [← arrives.owner, action?_of_stored arrives.stored]
  simp [arrives.device, arrives.kind]

/-- Where there is room, a report is taken. -/
theorem Arrives.report_succeeds (arrives : Arrives own s tenant controller f cancel a)
    (known : (s.target? tenant controller).isSome = true)
    (room : s.countEntries a.id (some .device) < own.maxEntries) (now : Instant) :
    ∃ r s', report own tenant controller a.id f cancel now s = .ok (r, s') := by
  -- The open action takes the report, and it keeps its target.
  obtain ⟨step, reported⟩ : ∃ step, a.report f now = .ok step :=
    ⟨_, Action.report_open arrives.isOpen f⟩
  have home : step.action.tenant = tenant ∧ step.action.controller = controller := by
    rcases Action.report_moved reported with stays | ⟨status, active, moved⟩
    · rw [stays]
      exact ⟨arrives.owner, arrives.device⟩
    · rw [moved]
      exact ⟨arrives.owner, arrives.device⟩
  have still : ((s.record step.action (f.entry a.id step.logged now)).target? step.action.tenant
      step.action.controller).isSome = true := by
    rw [home.1, home.2]
    exact known
  obtain ⟨further, s', handled⟩ := mapM_handle_succeeds still now step.events
  -- None of the checks fails, so the report goes through to what follows from it.
  simp only [report, if_neg (Nat.not_lt.mpr arrives.brief), reportIn, Transaction.read_bind_apply,
    arrives.found, Transaction.orElse, Transaction.pure_bind_apply]
  let entry := { f.entry a.id step.logged now with position := s.nextPosition a.id }
  refine ⟨⟨step.action, entry, step.events ++ further.flatten⟩, s',
    Transaction.lift_bind_eq_ok.mpr ⟨(), Action.ensureOpen_eq_ok.mpr arrives.isOpen, ?_⟩⟩
  simp only [Transaction.read_bind_apply, if_neg (Nat.not_le.mpr room)]
  refine Transaction.lift_bind_eq_ok.mpr ⟨step, reported, ?_⟩
  simp only [Transaction.change_bind_apply, Transaction.append_bind_apply]
  exact Transaction.bind_eq_ok.mpr ⟨further, s', handled, rfl⟩

/-- Where the log is full, a report is refused. -/
theorem Arrives.report_full (arrives : Arrives own s tenant controller f cancel a)
    (full : s.countEntries a.id (some .device) = own.maxEntries) (now : Instant) :
    report own tenant controller a.id f cancel now s =
      .error (.tooManyEntries a.id own.maxEntries) := by
  -- The checks of the messages and of the action pass, and that of the log does not.
  simp only [report, if_neg (Nat.not_lt.mpr arrives.brief), reportIn, Transaction.read_bind_apply,
    arrives.found, Transaction.orElse, Transaction.pure_bind_apply]
  refine Transaction.lift_bind_eq_error.mpr
    (Or.inr ⟨(), Action.ensureOpen_eq_ok.mpr arrives.isOpen, ?_⟩)
  simp only [Transaction.read_bind_apply, full, Nat.le_refl, ↓reduceIte,
    Transaction.throw_bind_apply]

end Acceptance

end Deployments

namespace Device

variable {own : TenantSettings} {s : Store} {tenant controller : String} {id : Nat} {f : Feedback}
  {cancel : Bool} {now : Instant}

/-- The report of a registered target is handed on. -/
theorem report_of_known (known : (s.target? tenant controller).isSome = true) :
    report own tenant controller id f cancel now s =
      ((Deployments.report own tenant controller id f cancel now).mapError .deploy) s := by
  have here : (s.target? tenant controller).isNone = false := by simpa using known
  simp only [report, Transaction.read_bind_apply, here, Bool.false_eq_true, ↓reduceIte]

end Device

end DeviceUpdate
