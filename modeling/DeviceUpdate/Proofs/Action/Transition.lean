import DeviceUpdate.Action.Transition

/-! What the steps of actions come to when they succeed. -/

namespace DeviceUpdate

/-- The status in which a closing report leaves a deployment. -/
def Outcome.status : Outcome → Status
  | failure => .error
  | success | none => .finished

/-- What a closing report on a deployment of a set means for its target. -/
def Outcome.event (id set : Nat) : Outcome → Event
  | failure => .deploymentFailed id set
  | success | none => .deploymentFinished id set

namespace Action

variable {a cancel subject : Action} {now : Instant}

/-- The same action in another state. -/
def moved (a : Action) (status : Status) (active : Bool) (now : Instant) : Action :=
  { a with status := status, active := active, modifiedAt := now }

section Moved

variable (a : Action) (status : Status) (active : Bool) (now : Instant)

@[simp] theorem moved_id : (a.moved status active now).id = a.id := rfl

@[simp] theorem moved_tenant : (a.moved status active now).tenant = a.tenant := rfl

@[simp] theorem moved_controller : (a.moved status active now).controller = a.controller := rfl

@[simp] theorem moved_order : (a.moved status active now).order = a.order := rfl

@[simp] theorem moved_status : (a.moved status active now).status = status := rfl

@[simp] theorem moved_active : (a.moved status active now).active = active := rfl

@[simp] theorem moved_isCancel : (a.moved status active now).isCancel = a.isCancel := rfl

@[simp] theorem moved_targetKey : (a.moved status active now).targetKey = a.targetKey := rfl

@[simp] theorem move_action : (Transition.move a status active now).action =
    a.moved status active now := rfl

@[simp] theorem move_logged : (Transition.move a status active now).logged = status := rfl

end Moved

@[simp] theorem also_action (t : Transition) (events : List Event) :
    (t.also events).action = t.action := rfl

@[simp] theorem also_logged (t : Transition) (events : List Event) :
    (t.also events).logged = t.logged := rfl

/-- A move to another status tells that the status has changed. -/
theorem move_of_ne {status : Status} {active : Bool} (other : a.status ≠ status) :
    Transition.move a status active now =
      ⟨a.moved status active now, status, [.statusChanged a.id a.status status]⟩ := by
  simp [Transition.move, moved, other]

theorem isInFlight_iff :
    a.isInFlight = true ↔ a.active = true ∧ a.isCancel = false ∧ a.status ≠ .canceling := by
  simp [isInFlight, and_assoc]

theorem isCancel_of_order {d : Deployment} (deploys : a.order = .deploy d) :
    a.isCancel = false := by
  simp [isCancel, cancels?, deploys]

theorem isCancel_of_names {id : Nat} (names : a.order = .cancel id) : a.isCancel = true := by
  simp [isCancel, cancels?, names]

theorem ensureOpen_eq_ok {u : Unit} : a.ensureOpen = .ok u ↔ a.isClosed = false := by
  -- The check looks at this flag only.
  cases closed : a.isClosed <;> simp [ensureOpen, closed]

/-- What is not closed is active. -/
theorem active_of_open (isOpen : a.isClosed = false) : a.active = true := by
  simp only [isClosed, Bool.or_eq_false_iff, Bool.not_eq_false'] at isOpen
  exact isOpen.2

/-- A closed action takes no report. -/
theorem report_closed (closed : a.isClosed = true) (f : Feedback) :
    a.report f now = .error (.actionClosed a.id a.status) := by
  simp [report, ensureOpen, closed, bind, Except.bind]

/-- An open action takes every report in the way of its kind. -/
theorem report_open (isOpen : a.isClosed = false) (f : Feedback) :
    a.report f now = .ok (match a.order with
      | .deploy d => a.reportDeployment d.distributionSet f now
      | .cancel subject => a.reportCancel subject f now) := by
  simp only [report, ensureOpen, isOpen, bind, Except.bind]
  cases a.order <;> rfl

/-- A report that is taken is one on an open action. -/
theorem open_of_reported {f : Feedback} {step : Transition} (reported : a.report f now = .ok step) :
    a.isClosed = false := by
  cases closed : a.isClosed with
  | false => rfl
  | true =>
    rw [report_closed closed] at reported
    cases reported

/-- A report other than the closing one leaves an action as it is or moves a running deployment. -/
theorem report_going {f : Feedback} {step : Transition} (going : f.execution ≠ .closed)
    (reported : a.report f now = .ok step) :
    step.action = a ∨ a.isInFlight = true ∧
      ∃ status, reported? f.execution = some status ∧ step.action = a.moved status true now := by
  have isOpen := open_of_reported reported
  rw [report_open isOpen] at reported
  -- Its kind decides what the report may do to an open action.
  have same := Except.ok.inj reported
  subst same
  cases order : a.order with
  -- A cancellation is only moved by the closing report.
  | cancel id => exact Or.inl (by simp [reportCancel, going, Transition.stay])
  | deploy d =>
    simp only [reportDeployment, if_neg going]
    cases stands : reported? f.execution with
    | none => exact Or.inl rfl
    | some status =>
      -- A deployment that is being cancelled waits for its cancellation.
      by_cases pending : a.status = .canceling
      · exact Or.inl (by simp [pending, Transition.stay])
      -- Open, a deployment and not being cancelled is what being in flight means.
      · refine Or.inr ⟨?_, status, rfl, by simp [pending]⟩
        exact isInFlight_iff.mpr ⟨active_of_open isOpen, isCancel_of_order order, pending⟩

/-- A report other than the closing one means nothing for other records. -/
theorem report_going_events {f : Feedback} {step : Transition} (going : f.execution ≠ .closed)
    (reported : a.report f now = .ok step) :
    ∀ e ∈ step.events, ∃ id before after, e = .statusChanged id before after := by
  have isOpen := open_of_reported reported
  rw [report_open isOpen] at reported
  have same := Except.ok.inj reported
  subst same
  -- A cancellation tells nothing before it closes.
  cases a.order with
  | cancel id => simp [reportCancel, going, Transition.stay]
  | deploy d =>
    simp only [reportDeployment, if_neg going]
    cases reported? f.execution with
    | none => simp [Transition.stay]
    | some status =>
      by_cases pending : a.status = .canceling
      · simp [pending, Transition.stay]
      · simp only [if_neg pending]
        -- A move to the status that it has already tells nothing.
        by_cases same : a.status = status
        · simp [Transition.move, same]
        · simp [Transition.move, same]

/-- An open action has none of the statuses that end it. -/
theorem status_ne_of_open (isOpen : a.isClosed = false) {status : Status}
    (terminal : status.isTerminal = true) : a.status ≠ status := by
  intro same
  simp [isClosed, same, terminal] at isOpen

/-- A closing report on an open deployment ends it. -/
theorem report_closing {f : Feedback} {d : Deployment} (isOpen : a.isClosed = false)
    (closing : f.execution = .closed) (deploys : a.order = .deploy d) :
    a.report f now = .ok ⟨a.moved f.outcome.status false now, f.outcome.status,
      .statusChanged a.id a.status f.outcome.status ::
        f.outcome.event a.id d.distributionSet ::
          if a.status = .canceling then [.cancelSuperseded a.id] else []⟩ := by
  rw [report_open isOpen, deploys]
  simp only [reportDeployment, if_pos closing, closeDeployment]
  -- An open action moves to the status of the outcome, so the change is told.
  have finished : a.status ≠ .finished := status_ne_of_open isOpen rfl
  have error : a.status ≠ .error := status_ne_of_open isOpen rfl
  -- Each outcome has its own event, and none of the outcomes is a status of open actions.
  cases f.outcome with
  | failure =>
    simp only [move_of_ne error]
    rfl
  | success =>
    simp only [move_of_ne finished]
    rfl
  | none =>
    simp only [move_of_ne finished]
    rfl

/-- A closing report on an open action that cancels confirms the cancellation. -/
theorem report_confirming {f : Feedback} {id : Nat} (isOpen : a.isClosed = false)
    (closing : f.execution = .closed) (names : a.order = .cancel id) :
    a.report f now = .ok ⟨a.moved .canceled false now, .canceled,
      [.statusChanged a.id a.status .canceled, .cancelConfirmed id a.id]⟩ := by
  -- An open action has not been cancelled, so the change is told.
  have other : a.status ≠ .canceled := status_ne_of_open isOpen rfl
  rw [report_open isOpen, names]
  simp only [reportCancel, if_pos closing, move_of_ne other]
  rfl

/-- A report leaves an action as it is, or moves it to another state. -/
theorem report_moved {f : Feedback} {step : Transition} (reported : a.report f now = .ok step) :
    step.action = a ∨ ∃ status active, step.action = a.moved status active now := by
  have isOpen := open_of_reported reported
  by_cases closing : f.execution = .closed
  -- A closing report moves both kinds of actions.
  · cases order : a.order with
    | deploy d =>
      rw [report_closing isOpen closing order] at reported
      have same := Except.ok.inj reported
      subst same
      exact Or.inr ⟨_, false, rfl⟩
    | cancel id =>
      rw [report_confirming isOpen closing order] at reported
      have same := Except.ok.inj reported
      subst same
      exact Or.inr ⟨.canceled, false, rfl⟩
  -- Any other report leaves the action, or sets it to the status that was reported.
  · rcases report_going closing reported with stays | ⟨-, status, -, moved⟩
    · exact Or.inl stays
    · exact Or.inr ⟨status, true, moved⟩

/-- An action that takes a report keeps its number. -/
theorem report_id {f : Feedback} {step : Transition} (reported : a.report f now = .ok step) :
    step.action.id = a.id := by
  rcases report_moved reported with stays | ⟨status, active, moved⟩
  · rw [stays]
  · rw [moved, moved_id]

/-- Only what an action is to cancel is told to be cancelled. -/
theorem report_confirms {f : Feedback} {step : Transition} {id other : Nat}
    (reported : a.report f now = .ok step) (told : .cancelConfirmed id other ∈ step.events) :
    a.order = .cancel id := by
  have isOpen := open_of_reported reported
  -- A confirmation is told when an action closes, and only of a cancellation.
  by_cases closing : f.execution = .closed
  · cases order : a.order with
    | deploy d =>
      rw [report_closing isOpen closing order] at reported
      have same := Except.ok.inj reported
      subst same
      cases outcome : f.outcome <;> simp [outcome, Outcome.event] at told
    | cancel subject =>
      rw [report_confirming isOpen closing order] at reported
      have same := Except.ok.inj reported
      subst same
      simp only [List.mem_cons, reduceCtorEq, Event.cancelConfirmed.injEq, List.not_mem_nil,
        false_or, or_false] at told
      rw [told.1]
  · -- Before it closes, an action tells of changes of its status alone.
    obtain ⟨_, _, _, same⟩ := report_going_events closing reported _ told
    cases same

/-- What is logged for a report is the status that it gives to the action, if it moves it. -/
theorem report_tells {f : Feedback} {step : Transition} (reported : a.report f now = .ok step) :
    step.action = a ∨ step.logged = step.action.status := by
  rw [report_open (open_of_reported reported)] at reported
  have same := Except.ok.inj reported
  subst same
  -- Every report leaves the action as it is, or moves it to the status that it logs.
  cases a.order with
  | cancel id =>
    simp only [reportCancel]
    split
    · exact Or.inr rfl
    · exact Or.inl rfl
  | deploy d =>
    simp only [reportDeployment]
    split
    · exact Or.inr rfl
    · split
      · exact Or.inl rfl
      · split
        · exact Or.inl rfl
        · exact Or.inr rfl

/-- Only a deployment in flight can be cancelled. -/
theorem requestCancel_eq_ok {id : Nat} {done : Transition × Action}
    (requested : subject.requestCancel id now = .ok done) :
    subject.isInFlight = true ∧ done.1.action = subject.moved .canceling true now ∧
      done.2 = subject.cancelling id now := by
  -- What is closed cannot be cancelled.
  cases closed : subject.isClosed with
  | true => simp [requestCancel, ensureOpen, closed, bind, Except.bind] at requested
  | false =>
    simp only [requestCancel, ensureOpen, closed, bind, Except.bind] at requested
    -- A request is refused for what cancels and for what is being cancelled.
    by_cases refused : (subject.isCancel || subject.status == .canceling) = true
    · rw [if_pos refused] at requested
      cases requested
    · rw [if_neg refused] at requested
      have done := Except.ok.inj requested
      subst done
      simp only [Bool.or_eq_true, not_or, Bool.not_eq_true, beq_iff_eq] at refused
      exact ⟨isInFlight_iff.mpr ⟨active_of_open closed, refused.1, refused.2⟩, rfl, rfl⟩

/-- Only an open cancellation can be refused. -/
theorem rejectCancel_eq_ok {done : Transition × Transition}
    (rejected : cancel.rejectCancel subject now = .ok done) :
    cancel.isClosed = false ∧ done.1.action = cancel.moved .cancelRejected false now ∧
      done.2.action = if subject.active && subject.status == .canceling then
        subject.moved .running true now else subject := by
  -- A closed cancellation cannot be refused any more.
  cases closed : cancel.isClosed with
  | true => simp [rejectCancel, ensureOpen, closed, bind, Except.bind] at rejected
  | false =>
    simp only [rejectCancel, ensureOpen, closed, bind, Except.bind] at rejected
    have done := Except.ok.inj rejected
    subst done
    -- Whether the deployment runs on is decided by its own status.
    refine ⟨rfl, rfl, ?_⟩
    dsimp only
    split <;> rfl

end Action

end DeviceUpdate
