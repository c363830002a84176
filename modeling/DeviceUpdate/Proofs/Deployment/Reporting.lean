import DeviceUpdate.Proofs.Deployment.Cancellation

/-! Reports of devices as steps: one report is one step, with all that follows from it. -/

namespace DeviceUpdate.Deployments

/-- What a report on a stored action comes to, with all that follows from it. -/
inductive Reporting (a : Action) (f : Feedback) (now : Instant) (s : Store) : Store → Prop
  /-- The action goes on, and nothing follows. -/
  | progressed (step : Transition) (going : f.execution ≠ .closed)
      (reported : a.report f now = .ok step) :
    Reporting a f now s (s.record step.action (f.entry a.id step.logged now))
  /-- A deployment ends that was not being cancelled. -/
  | closed (d : Deployment) (t : Target) (deploys : a.order = .deploy d)
      (closing : f.execution = .closed) (inFlight : a.isInFlight = true)
      (found : s.target? a.tenant a.controller = some t) :
    Reporting a f now s (s.close a d.distributionSet t f now)
  /-- A deployment ends before it is given up, and its cancellation with it. -/
  | superseded (cancel : Action) (d : Deployment) (t : Target) (pending : Pending s cancel a)
      (deploys : a.order = .deploy d) (closing : f.execution = .closed)
      (found : s.target? a.tenant a.controller = some t) :
    Reporting a f now s ((s.close a d.distributionSet t f now).supersede cancel a.id now)
  /-- A deployment is given up. -/
  | confirmed (subject : Action) (t : Target) (pending : Pending s a subject)
      (closing : f.execution = .closed) (found : s.target? a.tenant a.controller = some t) :
    Reporting a f now s (s.confirm a subject t f now)

variable {settings : Settings} {s s' : Store} {a cancel : Action} {now : Instant}

/-- A report on an action whose log has room for it is a step. -/
theorem Reporting.step {f : Feedback} (reporting : Reporting a f now s s')
    (stored : s.actions.get? a.id = some a)
    (room : s.countEntries a.id (some .device) < (settings.tenant a.tenant).maxEntries) :
    Step settings s s' := by
  -- Each way in which a report takes effect is a step of its own.
  cases reporting with
  | progressed step going reported => exact .progressed s a f now step stored room going reported
  | closed d t deploys closing inFlight found =>
    exact .closed s a d t f now stored deploys room closing inFlight found
  | superseded cancel d t pending deploys closing found =>
    exact .superseded s cancel a d t f now pending deploys room closing found
  | confirmed subject t pending closing found =>
    exact .confirmed s a subject t f now pending room closing found

/-- Where one listed action of a target alone passes a test, it is all that the test leaves. -/
theorem Indexed.filter_actionsOf (indexed : Indexed s) {tenant controller : String}
    {test : Action → Bool} (member : a ∈ s.actionsOf tenant controller) (passes : test a = true)
    (alone : ∀ b ∈ s.actionsOf tenant controller, test b = true → b.id = a.id) :
    (s.actionsOf tenant controller).filter test = [a] := by
  -- No action is listed twice, so two lists with the same members are the same here.
  have ascending := indexed.actionsOf_pairwise tenant controller
  have distinct : (s.actionsOf tenant controller).Nodup :=
    ascending.imp fun before same => by simp [same] at before
  rw [← List.perm_singleton, List.perm_ext_iff_of_nodup (distinct.filter _) (List.nodup_singleton a)]
  intro b
  rw [List.mem_filter, List.mem_singleton]
  constructor
  · rintro ⟨listed, here⟩
    exact stored_unique (indexed.mem_actionsOf.mp listed).1 (indexed.mem_actionsOf.mp member).1
      (alone b listed here)
  · rintro rfl
    exact ⟨member, passes⟩

/-- A change of the status of an action has no further consequences. -/
@[simp] theorem handle_statusChanged_bind {β : Type} (a : Action) (now : Instant) (id : Nat)
    (before after : Status) (rest : List Event → Transaction DeployError β) (s : Store) :
    (handle a now (.statusChanged id before after) >>= rest) s = rest [] s := rfl

/-- The end of a deployment shows on its target. -/
theorem handle_outcome_eq_ok {outcome : Outcome} {id set : Nat} {events : List Event}
    (done : handle a now (outcome.event id set) s = .ok (events, s')) :
    ∃ t, s.target? a.tenant a.controller = some t ∧
      s' = s.putTarget (t.closed outcome set (othersInFlight s a id) now) := by
  -- Only a failure keeps what is installed; the other outcomes install the set.
  cases outcome with
  -- Both kinds of ends write the target and do nothing else.
  | failure =>
    simp only [Outcome.event, handle, onFailed, targetOf, bind_assoc,
      Transaction.read_bind_apply, Transaction.orElse_bind_eq_ok, Transaction.change_bind_apply,
      Transaction.pure_apply] at done
    obtain ⟨t, found, rest⟩ := done
    exact ⟨t, found, (Transaction.state_eq rest).symm⟩
  | success | none =>
    simp only [Outcome.event, handle, onFinished, targetOf, bind_assoc,
      Transaction.read_bind_apply, Transaction.orElse_bind_eq_ok, Transaction.change_bind_apply,
      Transaction.pure_apply] at done
    obtain ⟨t, found, rest⟩ := done
    exact ⟨t, found, (Transaction.state_eq rest).symm⟩

/-- Where one cancellation of a closed deployment is pending, it alone is ended. -/
theorem onSuperseded_eq_ok {id : Nat} {events : List Event}
    (pending : ((s.actionsOf a.tenant a.controller).filter fun o =>
      o.active && o.cancels? == some id) = [cancel])
    (done : onSuperseded a id now s = .ok (events, s')) : s' = s.supersede cancel id now := by
  -- The loop over the pending cancellations has one round.
  simp only [onSuperseded, supersede, Transaction.read_bind_apply, pending, map_eq_pure_bind,
    List.mapM_cons, List.mapM_nil, bind_assoc, pure_bind, Transaction.change_bind_apply,
    Transaction.note_bind_apply, Transaction.pure_apply] at done
  exact (Transaction.state_eq done).symm

/-- A confirmed cancellation closes its open subject and shows on the target. -/
theorem onConfirmed_eq_ok {subject : Action} {id : Nat} {events : List Event}
    (found : s.action? a.tenant subject.id = some subject) (isOpen : subject.isClosed = false)
    (done : onConfirmed a subject.id id now s = .ok (events, s')) :
    ∃ t, s.target? a.tenant a.controller = some t ∧
      let canceled := subject.moved .canceled false now
      let closed := s.record canceled
        (canceled.remark now ("canceled by action " ++ Text.decimal id))
      s' = closed.putTarget (targetAfterCancel t (subject.deployment?.map (·.distributionSet))
        (othersInFlight closed subject subject.id) now) := by
  -- The subject is found and is still open, so it is closed along with its target.
  simp only [onConfirmed, Transaction.read_bind_apply, found, isOpen, Bool.false_eq_true,
    ↓reduceIte, targetOf, bind_assoc, Transaction.change_bind_apply, Transaction.note_bind_apply,
    Transaction.orElse_bind_eq_ok, Transaction.pure_apply] at done
  obtain ⟨t, foundTarget, rest⟩ := done
  exact ⟨t, foundTarget, (Transaction.state_eq rest).symm⟩

/-- Changes of statuses have no further consequences. -/
theorem mapM_handle_statusChanged {events : List Event} {further : List (List Event)}
    (only : ∀ e ∈ events, ∃ id before after, e = .statusChanged id before after)
    (done : (events.mapM (handle a now)) s = .ok (further, s')) : s' = s := by
  -- Every event is a change of a status, and its handler does nothing.
  induction events generalizing further with
  | nil =>
    simp only [List.mapM_nil, Transaction.pure_apply] at done
    exact (Transaction.state_eq done).symm
  | cons e rest ih =>
    obtain ⟨id, before, after, same⟩ := only e List.mem_cons_self
    subst same
    simp only [List.mapM_cons, handle_statusChanged_bind] at done
    obtain ⟨more, s₁, others, last⟩ := Transaction.bind_eq_ok.mp done
    have result := Transaction.state_eq last
    rw [← result]
    rw [← result] at ih
    exact ih (fun e member => only e (List.mem_cons_of_mem _ member)) others

/-- A report that is taken is one on an open action whose log has room for it. -/
theorem reportIn_eq_ok {own : TenantSettings} {tenant controller : String} {id : Nat}
    {f : Feedback} {kind : Bool} {reported : Reported}
    (done : reportIn own tenant controller id f kind now s = .ok (reported, s')) :
    ∃ (a : Action) (step : Transition) (further : List (List Event)),
      s.action? tenant id = some a ∧ a.controller = controller ∧ a.isCancel = kind ∧
      a.isClosed = false ∧ s.countEntries id (some .device) < own.maxEntries ∧
      a.report f now = .ok step ∧ reported.action = step.action ∧
      (step.events.mapM (handle step.action now))
        (s.record step.action (f.entry id step.logged now)) = .ok (further, s') := by
  -- The checks come in the order in which they are made.
  simp only [reportIn, Transaction.read_bind_apply, Transaction.orElse_bind_eq_ok,
    Transaction.lift_bind_eq_ok] at done
  obtain ⟨a, found, ⟨⟩, isOpen, rest⟩ := done
  -- A full log refuses the report before anything is written.
  by_cases full : own.maxEntries ≤ s.countEntries id (some .device)
  · rw [if_pos full] at rest
    cases rest
  · rw [if_neg full] at rest
    simp only [Transaction.lift_bind_eq_ok, Transaction.change_bind_apply,
      Transaction.append_bind_apply] at rest
    obtain ⟨step, moved, rest⟩ := rest
    obtain ⟨further, s₁, handled, last⟩ := Transaction.bind_eq_ok.mp rest
    obtain ⟨given, result⟩ := Prod.mk.inj (Except.ok.inj last)
    subst given result
    obtain ⟨here, own⟩ := Option.filter_eq_some_iff.mp found
    simp only [Bool.and_eq_true, beq_iff_eq] at own
    exact ⟨a, step, further, here, own.1, own.2, Action.ensureOpen_eq_ok.mp isOpen, by omega,
      moved, rfl, handled⟩

/-- A closing report on a deployment that is being cancelled ends its one cancellation. -/
theorem pending_of_closed (indexed : Indexed s) (paired : Paired s)
    (pending : Pending s cancel a) (owner : a.tenant = cancel.tenant ∧
      a.controller = cancel.controller) (set : Nat) (t : Target) (f : Feedback) :
    (((s.close a set t f now).actionsOf a.tenant a.controller).filter fun o =>
      o.active && o.cancels? == some a.id) = [cancel] := by
  have closed : Indexed (s.close a set t f now) := indexed.close pending.subjectStored set t f now
  have key : cancel.targetKey = Target.keyOf a.tenant a.controller := by
    rw [owner.1, owner.2, Action.targetKey]
  -- The closing of the deployment leaves its cancellation where it was.
  have stored : (s.close a set t f now).actions.get? cancel.id = some cancel := by
    rw [Store.get?_close, if_neg pending.id_ne]
    exact pending.cancelStored
  refine closed.filter_actionsOf (closed.mem_actionsOf.mpr ⟨stored, key⟩) ?_ ?_
  · simp [pending.cancelActive, Action.cancels?, pending.names]
  · intro b listed passes
    simp only [Bool.and_eq_true, beq_iff_eq] at passes
    -- Another cancellation of the deployment was there before, and it was the same.
    obtain ⟨found, -⟩ := closed.mem_actionsOf.mp listed
    have names : b.order = .cancel a.id := by
      cases order : b.order with
      | deploy d => simp [Action.cancels?, order] at passes
      | cancel id => simpa [Action.cancels?, order] using passes.2
    rw [Store.get?_close] at found
    -- The closed deployment itself cancels nothing.
    split at found
    · have kind := pending.deploys
      rw [← Action.moved_isCancel a f.outcome.status false now, Option.some.inj found,
        Action.isCancel_of_names names] at kind
      cases kind
    · exact paired.unique ⟨found, passes.1, names⟩ pending.cancels

/-- A closing report on an open deployment ends it, and the cancellation that it waits for. -/
theorem closing_reporting (indexed : Indexed s) (paired : Paired s) {f : Feedback}
    {d : Deployment} {further : List (List Event)} (stored : s.actions.get? a.id = some a)
    (isOpen : a.isClosed = false) (closing : f.execution = .closed) (deploys : a.order = .deploy d)
    (done : ((.statusChanged a.id a.status f.outcome.status ::
        f.outcome.event a.id d.distributionSet ::
          if a.status = .canceling then [.cancelSuperseded a.id] else []).mapM
        (handle (a.moved f.outcome.status false now) now))
      (s.record (a.moved f.outcome.status false now) (f.entry a.id f.outcome.status now)) =
        .ok (further, s')) : Reporting a f now s s' := by
  simp only [List.mapM_cons, bind_assoc, handle_statusChanged_bind] at done
  obtain ⟨events, s₁, outcome, rest⟩ := Transaction.bind_eq_ok.mp done
  -- First the outcome shows on the target, which completes the closing.
  obtain ⟨t, found, same⟩ := handle_outcome_eq_ok outcome
  have same : s₁ = s.close a d.distributionSet t f now := same
  subst same
  by_cases canceling : a.status = .canceling
  · -- The deployment was being cancelled, and its cancellation ends with it.
    have deployment : a.isCancel = false := Action.isCancel_of_order deploys
    obtain ⟨cancel, cancels⟩ := paired.cancel stored deployment canceling
    obtain ⟨b, sameId, pending, owner⟩ := paired.subject cancels
    have equal := stored_unique pending.subjectStored stored sameId
    subst equal
    simp only [if_pos canceling, List.mapM_cons, List.mapM_nil, bind_assoc, handle,
      pure_bind] at rest
    obtain ⟨more, s₂, superseded, last⟩ := Transaction.bind_eq_ok.mp rest
    have same := onSuperseded_eq_ok
      (pending_of_closed indexed paired pending owner d.distributionSet t f) superseded
    have result := Transaction.state_eq last
    rw [← result, same]
    exact .superseded cancel d t pending deploys closing found
  -- Otherwise it was in flight, and nothing else follows.
  · simp only [if_neg canceling, List.mapM_nil, pure_bind, Transaction.pure_apply] at rest
    have result := Transaction.state_eq rest
    rw [← result]
    have inFlight := Action.isInFlight_iff.mpr
      ⟨Action.active_of_open isOpen, Action.isCancel_of_order deploys, canceling⟩
    exact .closed d t deploys closing inFlight found

/-- A closing report on an open cancellation ends its subject as well. -/
theorem confirming_reporting (paired : Paired s) {f : Feedback} {id : Nat}
    {further : List (List Event)} (cancels : Cancels s cancel id)
    (closing : f.execution = .closed)
    (done : ([Event.statusChanged cancel.id cancel.status .canceled,
        .cancelConfirmed id cancel.id].mapM (handle (cancel.moved .canceled false now) now))
      (s.record (cancel.moved .canceled false now) (f.entry cancel.id .canceled now)) =
        .ok (further, s')) : Reporting cancel f now s s' := by
  obtain ⟨subject, same, pending, owner⟩ := paired.subject cancels
  subst same
  simp only [List.mapM_cons, List.mapM_nil, bind_assoc, handle_statusChanged_bind] at done
  obtain ⟨events, s₁, confirmed, rest⟩ := Transaction.bind_eq_ok.mp done
  simp only [handle] at confirmed
  -- The subject waits for the cancellation, so it is found and open.
  have stored : (s.record (cancel.moved .canceled false now)
      (f.entry cancel.id .canceled now)).actions.get? subject.id = some subject := by
    rw [Store.get?_record, Action.moved_id, if_neg (Ne.symm pending.id_ne)]
    exact pending.subjectStored
  have found := action?_of_stored stored
  rw [owner.1] at found
  have isOpen : subject.isClosed = false := by
    simp [Action.isClosed, pending.canceling, pending.subjectActive, Status.isTerminal]
  -- Its record and the target are written after those of the cancellation.
  obtain ⟨t, foundTarget, same⟩ := onConfirmed_eq_ok found isOpen confirmed
  simp only [pure_bind, Transaction.pure_apply] at rest
  have result := Transaction.state_eq rest
  rw [← result, same]
  exact .confirmed subject t pending closing foundTarget

/-- A report that is taken is one on an action of the very target, whose log has room for it. -/
theorem reportIn_reporting (indexed : Indexed s) (paired : Paired s) {own : TenantSettings}
    {tenant controller : String} {id : Nat} {f : Feedback} {kind : Bool} {reported : Reported}
    (done : reportIn own tenant controller id f kind now s = .ok (reported, s')) :
    ∃ a, s.action? tenant id = some a ∧ a.controller = controller ∧
      s.countEntries a.id (some .device) < own.maxEntries ∧ reported.action.tenant = tenant ∧
      Reporting a f now s s' := by
  obtain ⟨a, step, further, found, target, -, isOpen, room, moved, given, handled⟩ :=
    reportIn_eq_ok done
  obtain ⟨stored, same, owner⟩ := indexed.action?_eq_some found
  subst same owner
  refine ⟨a, found, target, room, ?_, ?_⟩
  · rw [given]
    rcases Action.report_moved moved with stays | ⟨status, active, changes⟩
    · rw [stays]
    · rw [changes, Action.moved_tenant]
  -- A closing report means one thing for a deployment and another for a cancellation.
  · by_cases closing : f.execution = .closed
    · cases order : a.order with
      | deploy d =>
        rw [Action.report_closing isOpen closing order] at moved
        have same := Except.ok.inj moved
        subst same
        exact closing_reporting indexed paired stored isOpen closing order handled
      | cancel id =>
        rw [Action.report_confirming isOpen closing order] at moved
        have same := Except.ok.inj moved
        subst same
        have cancels : Cancels s a id := ⟨stored, Action.active_of_open isOpen, order⟩
        exact confirming_reporting paired cancels closing handled
    · -- Nothing follows from a report that does not close.
      have same := mapM_handle_statusChanged (Action.report_going_events closing moved) handled
      rw [same]
      exact .progressed step closing moved

/-- The same holds of a report that must not carry too many messages. -/
theorem report_reporting (indexed : Indexed s) (paired : Paired s) {own : TenantSettings}
    {tenant controller : String} {id : Nat} {f : Feedback} {kind : Bool} {reported : Reported}
    (done : report own tenant controller id f kind now s = .ok (reported, s')) :
    ∃ a, s.action? tenant id = some a ∧ a.controller = controller ∧
      s.countEntries a.id (some .device) < own.maxEntries ∧ reported.action.tenant = tenant ∧
      Reporting a f now s s' := by
  -- Too many messages refuse the whole report.
  unfold report at done
  split at done
  · cases done
  · exact reportIn_reporting indexed paired done

/-- A report that is taken is a step. -/
theorem report_step (indexed : Indexed s) (paired : Paired s) {tenant controller : String}
    {id : Nat} {f : Feedback} {kind : Bool} {reported : Reported}
    (done : report (settings.tenant tenant) tenant controller id f kind now s =
      .ok (reported, s')) : Step settings s s' := by
  obtain ⟨a, found, -, room, -, reporting⟩ := report_reporting indexed paired done
  obtain ⟨stored, -, owner⟩ := indexed.action?_eq_some found
  rw [← owner] at room
  exact reporting.step stored room

end DeviceUpdate.Deployments
