import DeviceUpdate.Proofs.Service.Gating
import DeviceUpdate.Proofs.Service.Matching

/-! What a poll tells a device: all the work that there is for it, and nothing else. -/

namespace DeviceUpdate

namespace Device

/-- The answer to a poll offers exactly what the target lists as open. -/
structure Offers (s : Store) (tenant controller : String) (d : PollDocument) : Prop where
  /-- A deployment is offered exactly if one is active and not being cancelled. -/
  deployment : d.deploymentBase.isSome = true ↔ ∃ a ∈ s.actionsOf tenant controller,
    a.active = true ∧ a.isCancel = false ∧ a.status ≠ .canceling
  /-- A cancellation is offered exactly if one is active. -/
  cancel : d.cancelAction.isSome = true ↔ ∃ a ∈ s.actionsOf tenant controller,
    a.active = true ∧ a.isCancel = true
  /-- A cancellation is active exactly if a deployment is being cancelled. -/
  canceling : (∃ a ∈ s.actionsOf tenant controller, a.active = true ∧ a.isCancel = true) ↔
    ∃ a ∈ s.actionsOf tenant controller, a.isCancel = false ∧ a.status = .canceling
  /-- The deployment that is offered is itself active and not being cancelled. -/
  linked : ∀ {path : String}, d.deploymentBase = some path →
    ∃ a ∈ s.actionsOf tenant controller, a.active = true ∧ a.isCancel = false ∧
      a.status ≠ .canceling ∧
      path = basePath tenant controller ++ "/deploymentBase/" ++ Text.decimal a.id
  /-- The cancellation that is offered is itself active. -/
  stopped : ∀ {path : String}, d.cancelAction = some path →
    ∃ a ∈ s.actionsOf tenant controller, a.active = true ∧ a.isCancel = true ∧
      path = basePath tenant controller ++ "/cancelAction/" ++ Text.decimal a.id
  /-- Something is offered whenever an action is active. -/
  busy : ∀ a ∈ s.actionsOf tenant controller, a.active = true →
    d.deploymentBase.isSome = true ∨ d.cancelAction.isSome = true

section Choice

variable {multi : Bool} {actions : List Action} {a : Action}

/-- The first of some actions is one of them. -/
theorem first?_mem (found : first? multi actions = some a) : a ∈ actions := by
  induction actions generalizing a with
  | nil => cases found
  | cons head rest ih =>
    -- The first action is chosen behind the choice from the rest.
    cases next : first? multi rest with
    | none =>
      simp only [first?, next, Option.some.injEq] at found
      exact found ▸ List.mem_cons_self
    | some b =>
      -- The choice is between the head and the first of the rest.
      have member : b ∈ rest := ih next
      simp only [first?, next] at found
      split at found
      · exact List.mem_cons_of_mem head (Option.some.inj found ▸ member)
      · exact Option.some.inj found ▸ List.mem_cons_self

/-- Where there is an action, there is a first one. -/
theorem first?_isSome (member : a ∈ actions) : (first? multi actions).isSome = true := by
  cases actions with
  | nil => cases member
  | cons head rest =>
    simp only [first?]
    cases first? multi rest with
    | none => rfl
    | some b => by_cases before : precedes multi b head = true <;> simp [before]

/-- The deployment that a device is to work on is one in flight. -/
theorem current?_eq_some (found : current? multi actions = some a) :
    a ∈ actions ∧ a.active = true ∧ a.isCancel = false ∧ a.status ≠ .canceling := by
  obtain ⟨member, inFlight⟩ := List.mem_filter.mp (first?_mem found)
  exact ⟨member, Action.isInFlight_iff.mp inFlight⟩

/-- A device has a deployment to work on exactly if one is in flight. -/
theorem current?_isSome : (current? multi actions).isSome = true ↔
    ∃ a ∈ actions, a.active = true ∧ a.isCancel = false ∧ a.status ≠ .canceling := by
  constructor
  · intro some
    obtain ⟨a, found⟩ := Option.isSome_iff_exists.mp some
    exact ⟨a, current?_eq_some found⟩
  · rintro ⟨a, member, inFlight⟩
    exact first?_isSome (List.mem_filter.mpr ⟨member, Action.isInFlight_iff.mpr inFlight⟩)

/-- The cancellation that a device is told of is an active one. -/
theorem pendingCancel?_eq_some (found : pendingCancel? actions = some a) :
    a ∈ actions ∧ a.active = true ∧ a.isCancel = true := by
  have passes := List.find?_some found
  exact ⟨List.mem_of_find?_eq_some found, by simpa using passes⟩

/-- A device is told of a cancellation exactly if one is active. -/
theorem pendingCancel?_isSome : (pendingCancel? actions).isSome = true ↔
    ∃ a ∈ actions, a.active = true ∧ a.isCancel = true := by
  simp [pendingCancel?, List.find?_isSome]

end Choice

section Answers

variable {s : Store} {tenant controller : String} {now : Instant}

open Deployments (Indexed Paired)

/-- A cancellation is active for a target exactly if one of its deployments is being cancelled. -/
theorem cancel_iff_canceling (indexed : Indexed s) (paired : Paired s) :
    (∃ a ∈ s.actionsOf tenant controller, a.active = true ∧ a.isCancel = true) ↔
      ∃ a ∈ s.actionsOf tenant controller, a.isCancel = false ∧ a.status = .canceling := by
  simp only [indexed.mem_actionsOf]
  -- The two sides of a pair are of one target, so both are listed or none is.
  constructor
  · rintro ⟨cancel, ⟨stored, key⟩, active, kind⟩
    obtain ⟨subject, names⟩ := Option.isSome_iff_exists.mp kind
    obtain ⟨a, -, pending, -⟩ :=
      paired.subject ⟨stored, active, Deployments.cancels?_eq_some.mp names⟩
    have same := pending.targetKey paired
    exact ⟨a, ⟨pending.subjectStored, same.symm.trans key⟩, pending.deploys, pending.canceling⟩
  · rintro ⟨a, ⟨stored, key⟩, deploys, canceling⟩
    obtain ⟨cancel, cancels⟩ := paired.cancel stored deploys canceling
    obtain ⟨b, number, pending, -⟩ := paired.subject cancels
    have equal := Deployments.stored_unique pending.subjectStored stored number
    subst equal
    have same := pending.targetKey paired
    exact ⟨cancel, ⟨cancels.stored, same.trans key⟩, cancels.active,
      Action.isCancel_of_names cancels.names⟩

/-- The links of a poll are those of what the target lists as open. -/
theorem pollDocument_offers (indexed : Indexed s) (paired : Paired s) (target : Target)
    (tenant controller : String) (multi : Bool) (installed : Option Action) (sleep : Span) :
    Offers s tenant controller (pollDocument target tenant controller
      (current? multi (s.actionsOf tenant controller))
      (pendingCancel? (s.actionsOf tenant controller)) installed sleep) where
  deployment := by
    -- The document offers what the two searches have found.
    simp only [pollDocument, Option.isSome_map]
    exact current?_isSome
  cancel := by
    simp only [pollDocument, Option.isSome_map]
    exact pendingCancel?_isSome
  canceling := cancel_iff_canceling indexed paired
  linked := by
    intro path here
    -- The link is for the current deployment, which is listed and in flight.
    obtain ⟨a, found, rfl⟩ := Option.map_eq_some_iff.mp here
    obtain ⟨member, active, deploys, free⟩ := current?_eq_some found
    refine ⟨a, member, active, deploys, free, ?_⟩
    rw [show "/deploymentBase/" = "/" ++ "deploymentBase" ++ "/" from rfl]
    simp only [String.append_assoc]
  stopped := by
    intro path here
    -- The link is for the pending cancellation, which is listed and active.
    obtain ⟨a, found, rfl⟩ := Option.map_eq_some_iff.mp here
    obtain ⟨member, active, kind⟩ := pendingCancel?_eq_some found
    refine ⟨a, member, active, kind, ?_⟩
    rw [show "/cancelAction/" = "/" ++ "cancelAction" ++ "/" from rfl]
    simp only [String.append_assoc]
  busy := by
    intro a member active
    simp only [pollDocument, Option.isSome_map, current?_isSome, pendingCancel?_isSome,
      cancel_iff_canceling indexed paired]
    -- A deployment that is being cancelled is told of through its cancellation.
    cases kind : a.isCancel with
    | true =>
      right
      exact (cancel_iff_canceling indexed paired).mp ⟨a, member, active, kind⟩
    | false =>
      by_cases canceling : a.status = .canceling
      · exact Or.inr ⟨a, member, kind, canceling⟩
      · exact Or.inl ⟨a, member, active, kind, canceling⟩

/-- The time until the next window can be computed where the start of the window can. -/
theorem untilStart_of_start {w : Maintenance.Window} {next : Option Instant}
    (start : w.start now = .ok next) : ∃ left, w.untilStart now = .ok left := by
  cases next <;> simp [Maintenance.Window.untilStart, start, bind, Except.bind, pure, Except.pure]

/-- How long to sleep can be computed, unless a window reaches beyond the calendar. -/
theorem pollSleep_cases (settings : TenantSettings) (p : Maintenance.Policy) (now : Instant) :
    (∃ sleep, pollSleep settings p now = .ok sleep) ∨
      pollSleep settings p now = .error .outOfCalendar ∧
        ∃ w, p = .within w ∧ w.start now = .error .outOfCalendar := by
  cases p with
  | always => exact Or.inl ⟨settings.effectivePolling, rfl⟩
  | within w =>
    -- All that can fail is the search for the next window.
    cases start : w.start now with
    | error e =>
      refine Or.inr ⟨?_, w, rfl, start⟩
      simp [pollSleep, Maintenance.Policy.untilStart, Maintenance.Window.untilStart, start, bind,
        Except.bind]
    | ok next =>
      obtain ⟨left, computed⟩ := untilStart_of_start start
      left
      simp only [pollSleep, Maintenance.Policy.untilStart, computed, bind, Except.bind, pure,
        Except.pure]
      cases left with
      -- The delay is in the past or ahead, and is answered by a sleep in both cases.
      | none => exact ⟨_, rfl⟩
      | some left => by_cases past : left < 0 <;> simp [past]

/-- How long to sleep can be computed, unless the window of the deployment at hand reaches beyond the
calendar or has a number in its texts that outgrows its bits. -/
theorem timeToSleep_cases (settings : TenantSettings) (current : Option Action) (now : Instant) :
    (∃ sleep, timeToSleep settings current now = .ok sleep) ∨
    (timeToSleep settings current now = .error (.deploy .outOfCalendar) ∧
      ∃ a d w, current = some a ∧ a.deployment? = some d ∧ d.policy = .ok (.within w) ∧
        w.start now = .error .outOfCalendar) ∨
    timeToSleep settings current now = .error (.deploy .overrun) ∧
      ∃ a d, current = some a ∧ a.deployment? = some d ∧ d.policy = .error .overrun := by
  unfold timeToSleep
  -- A window is waited for only by a deployment.
  cases found : current.bind (·.deployment?) with
  | none => exact .inl ⟨settings.effectivePolling, rfl⟩
  | some d =>
    obtain ⟨a, chosen, deploys⟩ := Option.bind_eq_some_iff.mp found
    rw [Option.elim_some]
    -- The texts of the window cannot be read, or the window is asked for its start.
    rcases policy : d.policy with ⟨⟩ | p
    · exact .inr (.inr ⟨rfl, a, d, chosen, deploys, policy⟩)
    · rcases pollSleep_cases settings p now with ⟨sleep, computed⟩ | ⟨fails, w, rfl, start⟩
      · refine .inl ⟨sleep, ?_⟩
        simp only [inBits, computed, inCalendar, bind, Except.bind]
      · refine .inr (.inl ⟨?_, a, d, w, chosen, deploys, policy, start⟩)
        simp only [inBits, fails, inCalendar, bind, Except.bind]

/-- A poll is answered with what the target lists, unless the window of a deployment in flight cannot
be looked for. -/
theorem answerPoll_cases (s : Store) (settings : TenantSettings) (target : Target)
    (tenant controller : String) (now : Instant) :
    (∃ answer sleep, answerPoll s settings target tenant controller now = .ok answer ∧
      answer.body = pollDocument target tenant controller
        (current? settings.multiAssignments (s.actionsOf tenant controller))
        (pendingCancel? (s.actionsOf tenant controller))
        (installed? (s.actionsOf tenant controller)) sleep) ∨
    (answerPoll s settings target tenant controller now = .error (.deploy .outOfCalendar) ∧
      ∃ a ∈ s.actionsOf tenant controller, a.isInFlight = true ∧ ∃ d w,
        a.deployment? = some d ∧ d.policy = .ok (.within w) ∧
          w.start now = .error .outOfCalendar) ∨
    answerPoll s settings target tenant controller now = .error (.deploy .overrun) ∧
      ∃ a ∈ s.actionsOf tenant controller, a.isInFlight = true ∧ ∃ d,
        a.deployment? = some d ∧ d.policy = .error .overrun := by
  let current := current? settings.multiAssignments (s.actionsOf tenant controller)
  -- The current deployment is one of the actions of the device that are in flight.
  have listed {a : Action} (chosen : current = some a) :
      a ∈ s.actionsOf tenant controller ∧ a.isInFlight = true := by
    obtain ⟨member, inFlight⟩ := current?_eq_some chosen
    exact ⟨member, Action.isInFlight_iff.mpr inFlight⟩
  -- The answer is written once the sleep has been computed.
  rcases timeToSleep_cases settings current now with ⟨sleep, computed⟩ |
      ⟨fails, a, d, w, chosen, deploys, limited, start⟩ | ⟨fails, a, d, chosen, deploys, overruns⟩
  · left
    simp only [answerPoll, current] at computed ⊢
    simp only [computed, bind, Except.bind, pure, Except.pure, Except.ok.injEq]
    exact ⟨_, sleep, rfl, rfl⟩
  -- The sleep failed, for one of two reasons, and the answer fails alike.
  · refine .inr (.inl ⟨?_, a, (listed chosen).1, (listed chosen).2, d, w, deploys, limited, start⟩)
    simp only [answerPoll, current] at fails ⊢
    simp only [fails, bind, Except.bind]
  · refine .inr (.inr ⟨?_, a, (listed chosen).1, (listed chosen).2, d, deploys, overruns⟩)
    simp only [answerPoll, current] at fails ⊢
    simp only [fails, bind, Except.bind]

/-- Where all deployments are legible, only the calendar can keep a poll from being answered. -/
theorem answerPoll_legible (indexed : Indexed s) (legible : Deployments.Legible s)
    (settings : TenantSettings) (target : Target) (tenant controller : String) (now : Instant) :
    (∃ answer sleep, answerPoll s settings target tenant controller now = .ok answer ∧
      answer.body = pollDocument target tenant controller
        (current? settings.multiAssignments (s.actionsOf tenant controller))
        (pendingCancel? (s.actionsOf tenant controller))
        (installed? (s.actionsOf tenant controller)) sleep) ∨
    answerPoll s settings target tenant controller now = .error (.deploy .outOfCalendar) ∧
      ∃ a ∈ s.actionsOf tenant controller, a.isInFlight = true ∧ ∃ d w,
        a.deployment? = some d ∧ d.policy = .ok (.within w) ∧
          w.start now = .error .outOfCalendar := by
  refine (answerPoll_cases s settings target tenant controller now).imp_right (Or.elim · id ?_)
  -- The texts of a stored window have been read before, and lead to no number that is too large.
  rintro ⟨-, a, member, -, d, deploys, overruns⟩
  have stored := (indexed.mem_actionsOf.mp member).1
  obtain ⟨p, read⟩ := (legible stored (Action.order_of_deployment deploys)).policy
  rw [read] at overruns
  cases overruns

/-- A poll is answered with what is open, unless a window reaches beyond the calendar. -/
theorem answerPoll_offers (indexed : Indexed s) (paired : Paired s)
    (legible : Deployments.Legible s) (settings : TenantSettings)
    (target : Target) (tenant controller : String) (now : Instant) :
    (∃ answer, answerPoll s settings target tenant controller now = .ok answer ∧
      Offers s tenant controller answer.body) ∨
    answerPoll s settings target tenant controller now = .error (.deploy .outOfCalendar) ∧
      ∃ a ∈ s.actionsOf tenant controller, a.isInFlight = true ∧ ∃ d w,
        a.deployment? = some d ∧ d.policy = .ok (.within w) ∧
          w.start now = .error .outOfCalendar := by
  -- An answer is the document for the listed actions.
  refine (answerPoll_legible indexed legible settings target tenant controller now).imp_left ?_
  rintro ⟨answer, sleep, answered, body⟩
  refine ⟨answer, answered, ?_⟩
  rw [body]
  exact pollDocument_offers indexed paired target tenant controller settings.multiAssignments
    (installed? (s.actionsOf tenant controller)) sleep

end Answers

end Device

namespace Service

/-- A poll tells a device of all the work that there is for it, in every reachable state. -/
theorem polls_offer (settings : Settings) (calls : List Call) (tenant controller : String)
    (address : Option String) (now : Instant) :
    let s := (history settings calls).present
    let polled := Device.poll (settings.tenant tenant) tenant controller address now s
    (∃ answer, polled.1 = .ok answer ∧ Device.Offers polled.2 tenant controller answer.body) ∨
      polled.1 = .error (.deploy .outOfCalendar) ∧
        ∃ a ∈ s.actionsOf tenant controller, a.isInFlight = true ∧ ∃ d w,
          a.deployment? = some d ∧ d.policy = .ok (.within w) ∧
            w.start now = .error .outOfCalendar := by
  intro s polled
  -- The note of the poll is one more call, after which it is answered.
  let noted := calls ++ [⟨now, .poll tenant controller address⟩]
  have coherent := coherent_history settings noted
  have legible := legible_history settings noted
  rw [history_concat] at coherent legible
  exact Device.answerPoll_offers coherent.indexed coherent.paired legible (settings.tenant tenant)
    (Device.touch s tenant controller address now).1.1 tenant controller now

end Service

end DeviceUpdate
