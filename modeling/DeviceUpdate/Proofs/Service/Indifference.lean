import DeviceUpdate.Proofs.Deployment.Reporting
import DeviceUpdate.Proofs.Service.Audit
import DeviceUpdate.Proofs.Service.Reflection

/-! Reports on the way to the end of a deployment: they leave nothing behind but log entries. -/

namespace DeviceUpdate

namespace Store

/-- All that is stored but the logs. -/
def records (s : Store) : Store :=
  { s with log := .empty }

/-- Of two versions of an action that are stored, the second stands. -/
theorem putAction_putAction (s : Store) {a b : Action} (id : a.id = b.id)
    (key : a.targetKey = b.targetKey) (rollout : a.rollout = b.rollout) :
    (s.putAction a).putAction b = s.putAction b := by
  simp only [putAction, id, key, rollout, Table.insert_insert]
  cases b.rollout with
  | none => rfl
  | some m => simp only [Table.insert_insert]

end Store

namespace Deployments

/-- Two stores differ in nothing but the log of one action. -/
structure AlikeBut (id : Nat) (s t : Store) : Prop where
  records : s.records = t.records
  log : ∀ {other : Nat} (i : Nat), other ≠ id → s.log.get? (other, i) = t.log.get? (other, i)

namespace AlikeBut

variable {id : Nat} {s t u : Store}

theorem refl (id : Nat) (s : Store) : AlikeBut id s s :=
  ⟨rfl, fun _ _ => rfl⟩

theorem symm (alike : AlikeBut id s t) : AlikeBut id t s :=
  ⟨alike.records.symm, fun i other => (alike.log i other).symm⟩

theorem trans (first : AlikeBut id s t) (second : AlikeBut id t u) : AlikeBut id s u :=
  ⟨first.records.trans second.records, fun i other => (first.log i other).trans (second.log i other)⟩

theorem keysUnder (alike : AlikeBut id s t) {other : Nat} (apart : other ≠ id) :
    Store.keysUnder s.log other = Store.keysUnder t.log other :=
  Store.keysUnder_congr fun i => by
    rw [Table.contains_iff, Table.contains_iff, alike.log i apart]

theorem targets (alike : AlikeBut id s t) : s.targets = t.targets := by
  have same := congrArg Store.targets alike.records
  exact same

theorem actions (alike : AlikeBut id s t) : s.actions = t.actions := by
  have same := congrArg Store.actions alike.records
  exact same

/-- The same deployments are in flight. -/
theorem othersInFlight (alike : AlikeBut id s t) (a : Action) (except : Nat) :
    othersInFlight s a except = othersInFlight t a except := by
  have same := congrArg (fun s => Deployments.othersInFlight s a except) alike.records
  exact same

theorem putTarget (alike : AlikeBut id s t) (target : Target) :
    AlikeBut id (s.putTarget target) (t.putTarget target) :=
  ⟨congrArg (·.putTarget target) alike.records, alike.log⟩

theorem putAction (alike : AlikeBut id s t) (a : Action) :
    AlikeBut id (s.putAction a) (t.putAction a) :=
  ⟨congrArg (·.putAction a) alike.records, alike.log⟩

/-- An entry of the log of the action itself makes no difference. -/
theorem append_own (alike : AlikeBut id s t) {e : LogEntry} (own : e.action = id) :
    AlikeBut id (s.append e) t := by
  refine ⟨alike.records, fun i other => ?_⟩
  rw [s.get?_log_append e (own ▸ other), alike.log i other]

/-- The same entry comes under the same position in the log of another action. -/
theorem append (alike : AlikeBut id s t) (e : LogEntry) (apart : e.action ≠ id) :
    AlikeBut id (s.append e) (t.append e) := by
  have next : s.nextPosition e.action = t.nextPosition e.action := by
    rw [Store.nextPosition, alike.keysUnder apart, ← Store.nextPosition]
  refine ⟨alike.records, fun {other} i away => ?_⟩
  simp only [Store.append, Table.get?_insert, next, alike.log i away]

/-- A deployment that ends in both ends alike. -/
theorem close {a : Action} {f : Feedback} {now : Instant}
    (alike : AlikeBut a.id (s.putAction (a.moved f.outcome.status false now))
      (t.putAction (a.moved f.outcome.status false now))) (set : Nat) (target : Target) :
    AlikeBut a.id (s.close a set target f now) (t.close a set target f now) := by
  -- The entry stands in the own log, which is left out of the comparison.
  have closed : AlikeBut a.id
      (s.record (a.moved f.outcome.status false now) (f.entry a.id f.outcome.status now))
      (t.record (a.moved f.outcome.status false now) (f.entry a.id f.outcome.status now)) :=
    ((alike.append_own rfl).symm.append_own rfl).symm
  unfold Store.close
  simp only [closed.othersInFlight]
  exact closed.putTarget _

/-- The cancellation of a deployment that has ended ends alike. -/
theorem supersede (alike : AlikeBut id s t) {cancel : Action} (apart : cancel.id ≠ id)
    (subject : Nat) (now : Instant) :
    AlikeBut id (s.supersede cancel subject now) (t.supersede cancel subject now) :=
  (alike.putAction _).append _ apart

end AlikeBut

section Closing

variable {s s' s'' : Store} {a b : Action} {f : Feedback} {now : Instant}

/-- A closing report on a deployment ends it, and its cancellation with it where one is pending. -/
theorem Reporting.ends (reporting : Reporting a f now s s') (closing : f.execution = .closed)
    (deploys : a.isCancel = false) : ∃ d t, a.order = .deploy d ∧
      s.target? a.tenant a.controller = some t ∧
      (a.isInFlight = true ∧ s' = s.close a d.distributionSet t f now ∨
        ∃ cancel, Pending s cancel a ∧
          s' = (s.close a d.distributionSet t f now).supersede cancel a.id now) := by
  -- Only one kind of report closes a deployment.
  cases reporting with
  | progressed step going => exact absurd closing going
  | closed d t order _ inFlight found => exact ⟨d, t, order, found, .inl ⟨inFlight, rfl⟩⟩
  | superseded cancel d t pending order _ found =>
    exact ⟨d, t, order, found, .inr ⟨cancel, pending, rfl⟩⟩
  | confirmed subject t pending =>
    rw [Action.isCancel_of_names pending.names] at deploys
    cases deploys

/-- What a closing report on a deployment comes to is determined. -/
theorem Reporting.unique (paired : Paired s) (closing : f.execution = .closed)
    (deploys : a.isCancel = false) (one : Reporting a f now s s') (two : Reporting a f now s s'') :
    s' = s'' := by
  -- Both name the same record and the same target, so only the cancellation could differ.
  obtain ⟨d, t, order, found, first⟩ := one.ends closing deploys
  obtain ⟨d', t', order', found', second⟩ := two.ends closing deploys
  rw [order] at order'
  rw [found] at found'
  cases order'
  cases found'
  obtain ⟨inFlight, same⟩ | ⟨cancel, pending, same⟩ := first
  · obtain ⟨-, same'⟩ | ⟨cancel, pending, -⟩ := second
    · rw [same, same']
    · exact absurd pending.canceling (Action.isInFlight_iff.mp inFlight).2.2
  · obtain ⟨inFlight, -⟩ | ⟨other, pending', same'⟩ := second
    · exact absurd pending.canceling (Action.isInFlight_iff.mp inFlight).2.2
    · -- A deployment waits for one cancellation.
      have one := stored_unique pending.cancelStored pending'.cancelStored
        (paired.unique pending.cancels pending'.cancels)
      rw [same, same', one]

/-- What reports on the way to its end make of a deployment: they move it while it is in flight. -/
inductive Underway (a : Action) : Action → Prop
  | same : Underway a a
  | moved (status : Status) (at' : Instant) (before : a.isInFlight = true)
      (inFlight : (a.moved status true at').isInFlight = true) :
      Underway a (a.moved status true at')

/-- On its way, a deployment changes its state alone. -/
theorem Underway.eq_moved (underway : Underway a b) :
    ∃ status active at', b = a.moved status active at' := by
  cases underway with
  | same => exact ⟨a.status, a.active, a.modifiedAt, rfl⟩
  | moved status at' => exact ⟨status, true, at', rfl⟩

theorem Underway.inFlight (underway : Underway a b) (inFlight : b.isInFlight = true) :
    a.isInFlight = true := by
  cases underway with
  | same => exact inFlight
  | moved _ _ before => exact before

/-- A deployment that waits for its cancellation has not been moved. -/
theorem Underway.eq_of_canceling (underway : Underway a b) (canceling : b.status = .canceling) :
    b = a := by
  cases underway with
  | same => rfl
  | moved _ _ _ inFlight => exact absurd canceling (Action.isInFlight_iff.mp inFlight).2.2

/-- One more report leaves a deployment on its way, unless it closes. -/
theorem Underway.report (underway : Underway a b) {step : Transition}
    (going : f.execution ≠ .closed) (reported : b.report f now = .ok step) :
    Underway a step.action := by
  -- The report moves the action to a status on the way, or leaves it as it is.
  rcases Action.report_going going reported with stays | ⟨inFlight, status, stands, moves⟩
  · rw [stays]
    exact underway
  · have before := underway.inFlight inFlight
    obtain ⟨_, _, _, rfl⟩ := underway.eq_moved
    -- No report says that a cancellation is pending.
    have other : status ≠ .canceling := by
      rintro rfl
      cases execution : f.execution <;> simp [execution, Action.reported?] at stands
    rw [moves]
    exact .moved status now before
      (Action.isInFlight_iff.mpr ⟨rfl, (Action.isInFlight_iff.mp before).2.1, other⟩)

/-- A deployment on the way to its end: since the state before, reports have changed nothing that
its end does not replace, except for its log. -/
structure Interim (a : Action) (s s' : Store) (b : Action) : Prop where
  stored : s'.actions.get? a.id = some b
  underway : Underway a b
  alike : ∀ status active at', AlikeBut a.id (s'.putAction (a.moved status active at'))
    (s.putAction (a.moved status active at'))

/-- Before the first report, a deployment is on its way. -/
theorem interim_self (stored : s.actions.get? a.id = some a) : Interim a s s a :=
  ⟨stored, .same, fun _ _ _ => .refl a.id _⟩

/-- A report that does not close leaves a deployment on its way, with one entry more in its log. -/
theorem Interim.step (interim : Interim a s s' b) (going : f.execution ≠ .closed)
    (reporting : Reporting b f now s' s'') : (∃ c, Interim a s s'' c) ∧
      ∃ logged, s''.logOf a.id = s'.logOf a.id ++
        [{ f.entry a.id logged now with position := s'.nextPosition a.id }] := by
  -- A report that does not close is a record of its own and nothing besides.
  cases reporting with
  | closed d t order closing => exact absurd closing going
  | superseded cancel d t pending order closing => exact absurd closing going
  | confirmed subject t pending closing => exact absurd closing going
  | progressed step _ reported =>
    have underway := interim.underway.report going reported
    obtain ⟨_, _, _, rfl⟩ := interim.underway.eq_moved
    obtain ⟨_, _, _, same⟩ := underway.eq_moved
    refine ⟨⟨step.action, ?_, underway, fun status active at' => ?_⟩, step.logged, ?_⟩
    · rw [Store.get?_record, same, Action.moved_id, if_pos rfl]
    · -- The end of the deployment replaces what the report has stored.
      have noted := ((AlikeBut.refl a.id (s'.putAction step.action)).append_own
        (e := f.entry a.id step.logged now) rfl).putAction (a.moved status active at')
      rw [Store.putAction_putAction s' (a := step.action) (by rw [same]; rfl) (by rw [same]; rfl)
        (by rw [same]; rfl)] at noted
      exact noted.trans (interim.alike status active at')
    · exact s'.logOf_record_own step.action (f.entry a.id step.logged now)

/-- A deployment ends as if it had ended at once. -/
theorem Interim.closing (interim : Interim a s s' b) (stored : s.actions.get? a.id = some a)
    (closing : f.execution = .closed) (deploys : a.isCancel = false)
    (reporting : Reporting b f now s' s'') :
    (∃ s₀, Reporting a f now s s₀ ∧ AlikeBut a.id s'' s₀) ∧
      s''.logOf a.id = s'.logOf a.id ++
        [{ f.entry a.id f.outcome.status now with position := s'.nextPosition a.id }] := by
  have underway := interim.underway
  -- The action may have moved, and its closing record does not depend on how.
  obtain ⟨status, active, at', rfl⟩ := underway.eq_moved
  obtain ⟨d, t, order, found, ending⟩ := reporting.ends closing deploys
  have alike := interim.alike f.outcome.status false now
  have ends := alike.close d.distributionSet t
  have target : s.target? a.tenant a.controller = some t := by
    have targets : s'.targets = s.targets := alike.targets
    rw [Store.target?, ← targets]
    exact found
  -- The entry of the end stands behind those of the progress.
  have noted : (s'.close a d.distributionSet t f now).logOf a.id = s'.logOf a.id ++
      [{ f.entry a.id f.outcome.status now with position := s'.nextPosition a.id }] :=
    s'.logOf_record_own (a.moved f.outcome.status false now)
      (f.entry a.id f.outcome.status now)
  obtain ⟨inFlight, rfl⟩ | ⟨cancel, pending, rfl⟩ := ending
  · exact ⟨⟨_, .closed d t order closing (underway.inFlight inFlight) target, ends⟩, noted⟩
  · rw [underway.eq_of_canceling pending.canceling] at pending
    have apart := pending.id_ne
    have cancelStored : s.actions.get? cancel.id = some cancel := by
      have actions := congrArg (·.get? cancel.id) alike.actions
      simp only [Store.get?_putAction, Action.moved_id, apart, ↓reduceIte] at actions
      rw [← actions]
      exact pending.cancelStored
    have pendingBefore : Pending s cancel a :=
      { pending with cancelStored := cancelStored, subjectStored := stored }
    refine ⟨⟨_, .superseded cancel d t pendingBefore order closing target,
      ends.supersede apart a.id now⟩, ?_⟩
    -- The cancellation has a log of its own.
    exact (Store.logOf_record _ _ _ (Ne.symm apart)).trans noted

end Closing

section Reports

/-- A report that a device sends at an instant. -/
structure Sent where
  feedback : Feedback
  now : Instant

/-- A device reports on a deployment, one transaction after the other. -/
def deliver (own : TenantSettings) (a : Action) (reports : List Sent) :
    Transaction DeployError (List Reported) :=
  reports.mapM fun r => report own a.tenant a.controller a.id r.feedback false r.now

/-- An entry of the log stands for a report. -/
def Notes (a : Action) (r : Sent) (e : LogEntry) : Prop :=
  ∃ logged position, e = { r.feedback.entry a.id logged r.now with position := position }

/-- What reports and then a closing one leave in the log of a deployment: an entry for each. -/
def Logged (a : Action) (reports : List Sent) (last : Sent) (s s' : Store) : Prop :=
  ∃ notes, List.Forall₂ (Notes a) reports notes ∧
    s'.logOf a.id = s.logOf a.id ++ notes ++
      [{ last.feedback.entry a.id last.feedback.outcome.status last.now with
        position := (s.logOf a.id).length + reports.length }]

variable {settings : Settings} {s s' s'' : Store} {a b : Action} {reports : List Sent}
  {last : Sent} {results : List Reported}

/-- A report that is taken is one on the deployment as it stands. -/
theorem Interim.reporting (interim : Interim a s s' b) (indexed : Indexed s') (paired : Paired s')
    {own : TenantSettings} {r : Sent} {reported : Reported}
    (done : report own a.tenant a.controller a.id r.feedback false r.now s' =
      .ok (reported, s'')) : Reporting b r.feedback r.now s' s'' := by
  -- The action that reports is the one that is stored under the number.
  obtain ⟨c, found, -, -, -, reporting⟩ := report_reporting indexed paired done
  have stored := (Option.filter_eq_some_iff.mp found).1
  rw [interim.stored] at stored
  cases stored
  exact reporting

/-- Reports on the way to the end of a deployment leave only entries of its log behind, so that it
ends as if it had ended at once. -/
theorem Interim.deliver (interim : Interim a s s' b) (indexed : Indexed s') (paired : Paired s')
    (numbered : Numbered s') (stored : s.actions.get? a.id = some a)
    (deploys : a.isCancel = false) (going : ∀ r ∈ reports, r.feedback.execution ≠ .closed)
    (closing : last.feedback.execution = .closed)
    (done : deliver (settings.tenant a.tenant) a (reports ++ [last]) s' = .ok (results, s'')) :
    (∃ s₀, Reporting a last.feedback last.now s s₀ ∧ AlikeBut a.id s'' s₀) ∧
      Logged a reports last s' s'' := by
  -- The induction follows the reports, each of which is taken in the state that those before leave.
  induction reports generalizing s' b results with
  -- Without further reports the next one is the last.
  | nil =>
    simp only [Deployments.deliver, List.nil_append, List.mapM_cons, List.mapM_nil] at done
    obtain ⟨reported, s₁, taken, rest⟩ := Transaction.bind_eq_ok.mp done
    rw [← Transaction.state_eq rest]
    obtain ⟨ends, logged⟩ := interim.closing stored closing deploys
      (interim.reporting indexed paired taken)
    refine ⟨ends, [], .nil, ?_⟩
    rw [logged, numbered.nextPosition_eq, List.append_nil]
    rfl
  -- The first report is taken, and the others follow in the state that it leaves.
  | cons r reports ih =>
    simp only [Deployments.deliver, List.cons_append, List.mapM_cons] at done
    obtain ⟨reported, s₁, taken, rest⟩ := Transaction.bind_eq_ok.mp done
    obtain ⟨others, s₂, later, last'⟩ := Transaction.bind_eq_ok.mp rest
    rw [Transaction.state_eq last'] at later
    have step : Step settings s' s₁ := report_step indexed paired taken
    obtain ⟨⟨c, next⟩, logged, noted⟩ := interim.step (going r List.mem_cons_self)
      (interim.reporting indexed paired taken)
    obtain ⟨ends, notes, each, log⟩ := ih next (step.indexed indexed) (step.paired indexed paired)
      (numbered.writes step.writes) (fun r member => going r (List.mem_cons_of_mem _ member)) later
    refine ⟨ends, _ :: notes, .cons ⟨logged, s'.nextPosition a.id, rfl⟩ each, ?_⟩
    rw [log, noted, List.length_append, List.length_singleton, List.length_cons,
      List.append_assoc (s'.logOf a.id), List.singleton_append, Nat.add_assoc,
      Nat.add_comm 1]

end Reports

end Deployments

namespace Service

open Deployments (AlikeBut Logged Reported Sent deliver)

/-- However a device has reported on a deployment before it reports the end, what is stored is the
same, but for the entries in the log of the deployment. -/
theorem progress_indifferent (settings : Settings) (calls : List Call) {a : Action}
    {first second : List Sent} {last : Sent} {one two : List Reported} {s₁ s₂ : Store}
    (stored : (history settings calls).present.actions.get? a.id = some a)
    (deploys : a.isCancel = false)
    (goingFirst : ∀ r ∈ first, r.feedback.execution ≠ .closed)
    (goingSecond : ∀ r ∈ second, r.feedback.execution ≠ .closed)
    (closing : last.feedback.execution = .closed)
    (doneFirst : deliver (settings.tenant a.tenant) a (first ++ [last])
      (history settings calls).present = .ok (one, s₁))
    (doneSecond : deliver (settings.tenant a.tenant) a (second ++ [last])
      (history settings calls).present = .ok (two, s₂)) :
    AlikeBut a.id s₁ s₂ ∧ Logged a first last (history settings calls).present s₁ ∧
      Logged a second last (history settings calls).present s₂ := by
  have coherent := coherent_history settings calls
  have numbered := numbered_history settings calls
  -- Both runs start in the same state, with the deployment as it is stored there.
  have start := Deployments.interim_self stored
  obtain ⟨⟨end₁, ends₁, alike₁⟩, logged₁⟩ := start.deliver coherent.indexed coherent.paired numbered
    stored deploys goingFirst closing doneFirst
  obtain ⟨⟨end₂, ends₂, alike₂⟩, logged₂⟩ := start.deliver coherent.indexed coherent.paired numbered
    stored deploys goingSecond closing doneSecond
  -- Both runs end as if the deployment had ended at once.
  have same := ends₁.unique coherent.paired closing deploys ends₂
  rw [← same] at alike₂
  exact ⟨alike₁.trans alike₂.symm, logged₁, logged₂⟩

/-- A report of a device without messages. -/
def sent (execution : Execution) (outcome : Outcome) : Sent :=
  ⟨⟨execution, outcome, none, none, []⟩, .epoch⟩

/-- A device that has been on the way for long. -/
def detailed : List Sent :=
  [sent .proceeding .none, sent .download .none, sent .download .none, sent .downloaded .none,
    sent .rejected .failure]

/-- A device that reports once before the end. -/
def brief : List Sent :=
  [sent .canceled .none]

/-- The deployment that has been replaced ends in the same way, and its cancellation with it. -/
theorem progress_indifferent_replaced :
    ∃ a one two s₁ s₂, (history .standard replacement).present.actions.get? 1 = some a ∧
      a.status = .canceling ∧
      deliver (Settings.standard.tenant a.tenant) a (detailed ++ [sent .closed .success])
        (history .standard replacement).present = .ok (one, s₁) ∧
      deliver (Settings.standard.tenant a.tenant) a (brief ++ [sent .closed .success])
        (history .standard replacement).present = .ok (two, s₂) ∧
      AlikeBut a.id s₁ s₂ ∧
      Logged a detailed (sent .closed .success) (history .standard replacement).present s₁ ∧
      Logged a brief (sent .closed .success) (history .standard replacement).present s₂ := by
  have delivered : ((history .standard replacement).present.actions.get? 1).any fun a =>
      a.id == 1 && !a.isCancel && a.status == .canceling &&
        [detailed, brief].all fun reports =>
          (deliver (Settings.standard.tenant a.tenant) a (reports ++ [sent .closed .success])
            (history .standard replacement).present).toOption.isSome := by
    decide +kernel
  -- Both sequences are accepted while the deployment is being cancelled.
  obtain ⟨a, found, takes⟩ := (Option.any_eq_true _ _).mp delivered
  simp only [Bool.and_eq_true, beq_iff_eq, Bool.not_eq_true', List.all_cons, List.all_nil,
    Bool.and_true] at takes
  obtain ⟨⟨⟨id, deploys⟩, canceling⟩, long, short⟩ := takes
  obtain ⟨⟨one, s₁⟩, first⟩ := Option.isSome_iff_exists.mp long
  obtain ⟨⟨two, s₂⟩, second⟩ := Option.isSome_iff_exists.mp short
  replace first := Result.eq_ok_of_toOption first
  replace second := Result.eq_ok_of_toOption second
  -- The action is stored under its own number.
  have stored := found
  rw [← id] at stored
  exact ⟨a, one, two, s₁, s₂, found, canceling, first, second,
    progress_indifferent .standard replacement stored deploys (by decide) (by decide) rfl first
      second⟩

end Service

end DeviceUpdate
