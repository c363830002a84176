import DeviceUpdate.Proofs.Deployment.Range
import DeviceUpdate.Proofs.Service.Conformity
import DeviceUpdate.Proofs.Service.Gating
import DeviceUpdate.Proofs.Service.Polling

/-! Which requests leave the calendar, and that no device ever does with what has been accepted. -/

namespace DeviceUpdate.Service

open Instant (IsModern)
open Maintenance (Window)

/-- At an instant, only requests that overreach or overrun stop the program, and devices never do. -/
structure WithinCalendar (settings : Settings) (s : Store) (now : Instant) : Prop where
  assigns : ∀ tenant controller q,
    Deployments.assign (settings.tenant tenant) tenant controller q now s =
      .error .outOfCalendar ↔ q.Overreaches now
  counts : ∀ tenant controller q,
    Deployments.assign (settings.tenant tenant) tenant controller q now s = .error .overrun ↔
      q.Overruns
  /-- Every poll is answered. -/
  polls : ∀ tenant controller address, ∃ answer,
    (Device.poll (settings.tenant tenant) tenant controller address now s).1 = .ok answer
  deployments : ∀ tenant controller id requested e,
    Device.deploymentBase tenant controller id requested now s = .error e → ¬ e.IsStop
  installations : ∀ tenant controller id requested e,
    Device.installedBase tenant controller id requested now s = .error e → ¬ e.IsStop

/-- A call that assigns something does so in the years from 1970 to 2100. -/
def AssignsModern (c : Call) : Prop :=
  ∀ ⦃tenant controller : String⦄ ⦃q : AssignmentRequest⦄,
    c.operation = .assign tenant controller q → c.now.IsModern

variable {now : Instant}

/-- In every run, all deployments are brief, if they are assigned in the years from 1970 to
2100. -/
theorem brief_history (settings : Settings) (calls : List Call)
    (modern : ∀ c ∈ calls, AssignsModern c) :
    Deployments.Conforms (fun _ => Deployment.IsBrief) (history settings calls).present :=
  conforms_history settings calls (fun _ _ => Deployment.isBrief_of_free)
    fun c member _ _ _ _ own => AssignmentRequest.brief (modern c member own)

/-- A call that assigns something does so no later than at an instant. -/
def AssignsBy (later : Instant) (c : Call) : Prop :=
  ∀ ⦃tenant controller : String⦄ ⦃q : AssignmentRequest⦄,
    c.operation = .assign tenant controller q → c.now.notAfter later = true

/-- Once all assignments are made, no window of a stored deployment reaches beyond the calendar. -/
theorem reaching_history (settings : Settings) (calls : List Call)
    (order : ∀ c ∈ calls, AssignsBy now c) (known : now.base ≤ lastSecond) :
    Deployments.Conforms
      (fun _ d => ∀ ⦃w : Window⦄, d.policy = .ok (.within w) → ¬ w.Overreaches now)
      (history settings calls).present := by
  refine conforms_history settings calls (fun _ d free w limited => ?_)
    fun c member tenant controller q weight own valid w limited => ?_
  -- A deployment of a rollout has no window, one of an assignment has a window that was accepted
  -- then.
  · rw [Deployment.policy, free] at limited
    cases limited
  · obtain ⟨m, accepted⟩ := AssignmentRequest.readNew_of_policy valid limited
    exact Window.not_overreaches_of_readNew accepted (order c member own) known

/-- A poll is answered with what the target lists, if all assignments are made from 1970 to 2100 and
the poll is. -/
theorem poll_answered (settings : Settings) (calls : List Call)
    (modern : ∀ c ∈ calls, AssignsModern c) (present : now.IsModern) (tenant controller : String)
    (address : Option String) :
    let own := settings.tenant tenant
    let polled := Device.poll own tenant controller address now (history settings calls).present
    let actions := polled.2.actionsOf tenant controller
    ∃ answer sleep, polled.1 = .ok answer ∧ answer.body = Device.pollDocument
      (Device.touch (history settings calls).present tenant controller address now).1.1 tenant
      controller (Device.current? own.multiAssignments actions) (Device.pendingCancel? actions)
      (Device.installed? actions) sleep := by
  intro own polled actions
  have brief := brief_history settings calls modern
  -- The note of the poll leaves the actions alone, and only their windows could be the matter.
  have touched := coherent_history settings (calls ++ [⟨now, .poll tenant controller address⟩])
  rw [history_concat] at touched
  set s := (history settings calls).present
  rcases Device.answerPoll_cases (Device.touch s tenant controller address now).2 own
      (Device.touch s tenant controller address now).1.1 tenant controller now with
    ⟨answer, sleep, answered, body⟩ | ⟨-, a, listed, -, d, w, deploys, limited, fails⟩ |
      ⟨-, a, listed, -, d, deploys, overruns⟩
  -- A window that leads out of the calendar, or one that cannot be read, contradicts what is
  -- stored.
  · exact ⟨answer, sleep, answered, body⟩
  · have stored := (touched.indexed.mem_actionsOf.mp listed).1
    obtain ⟨p, read, brief⟩ := brief stored (Action.order_of_deployment deploys)
    rw [read] at limited
    cases limited
    obtain ⟨next, found⟩ := (brief rfl).start_succeeds present
    rw [found] at fails
    cases fails
  · have stored := (touched.indexed.mem_actionsOf.mp listed).1
    obtain ⟨p, read, -⟩ := brief stored (Action.order_of_deployment deploys)
    rw [read] at overruns
    cases overruns

/-- What is assigned in the years from 1970 to 2100 never stops the program in these years. -/
theorem within_calendar (settings : Settings) (calls : List Call)
    (modern : ∀ c ∈ calls, AssignsModern c) (present : now.IsModern) :
    WithinCalendar settings (history settings calls).present now := by
  have coherent := coherent_history settings calls
  have brief := brief_history settings calls modern
  set s := (history settings calls).present
  -- Whatever is found for a device is stored, so it is brief.
  have documented {tenant controller : String} {id : Nat} {a : Action} {requested : Option Int}
      {e : Device.Error} (found : Device.actionOf s tenant controller id false = .ok a)
      (fails : Device.deploymentDocument s a requested now = .error e) : ¬ e.IsStop := by
    obtain ⟨known, -⟩ := Device.actionOf_eq_ok found
    obtain ⟨stored, -⟩ := coherent.indexed.action?_eq_some known
    exact Device.deploymentDocument_within (fun d deploys => brief stored deploys) present fails
  -- A request is judged as it comes; for devices it counts that all deployments are brief.
  constructor
  case assigns =>
    intro tenant controller q
    exact Deployments.assign_overreaches coherent.indexed coherent.paired present
  case counts =>
    intro tenant controller q
    exact Deployments.assign_overruns coherent.indexed coherent.paired
  case polls =>
    intro tenant controller address
    obtain ⟨answer, sleep, answered, -⟩ :=
      poll_answered settings calls modern present tenant controller address
    exact ⟨answer, answered⟩
  case deployments =>
    intro tenant controller id requested e fails
    rcases Result.bind_eq_error.mp fails with absent | ⟨a, found, fails⟩
    · exact Device.actionOf_not_stop absent
    · exact documented found fails
  case installations =>
    intro tenant controller id requested e fails
    -- The action may be none for installations, which is an answer of its own.
    rcases Result.bind_eq_error.mp fails with absent | ⟨a, found, fails⟩
    · exact Device.actionOf_not_stop absent
    · split at fails
      · cases fails
        simp [Device.Error.IsStop]
      · exact documented found fails

/-- What is called at the start of 1970 assigns nothing outside of the years from 1970 to 2100. -/
theorem assignsModern_of_epoch {calls : List Call} (start : ∀ c ∈ calls, c.now = .epoch) :
    ∀ c ∈ calls, AssignsModern c := by
  intro c member tenant controller q own
  rw [start c member]
  exact ⟨by decide, by decide⟩

/-- The device that waits for its afternoon is answered when it polls. -/
theorem within_calendar_afternoon : halfPastNoon.IsModern ∧ ∃ answer,
    (Device.poll (Settings.standard.tenant "t") "t" "d" none halfPastNoon
      (history .standard scheduled).present).1 = .ok answer := by
  have modern : halfPastNoon.IsModern := ⟨by decide, by decide⟩
  have calls : ∀ c ∈ scheduled, AssignsModern c := assignsModern_of_epoch (by decide)
  exact ⟨modern, (within_calendar .standard scheduled calls modern).polls "t" "d" none⟩

/-- A request for a window that opens at noon and stays open for longer than the calendar lasts. -/
def endless : AssignmentRequest :=
  ⟨1, .forced, none, none, some ⟨"0 0 12 * * *", "PT9223372036854775S", "+00:00"⟩⟩

/-- Its assignment has neither a result nor an error: the start of the window is out of range. -/
theorem endless_out_of_calendar : Instant.epoch.IsModern ∧
    Deployments.assign (Settings.standard.tenant "t") "t" "d" endless .epoch
      (history .standard stocked).present = .error .outOfCalendar := by
  have checked : endless.validate (Settings.standard.tenant "t") .epoch =
      .error .outOfCalendar := by decide +kernel
  refine ⟨⟨by decide, by decide⟩, ?_⟩
  simp only [Deployments.assign, Deployments.assignIn, Transaction.lift_bind_eq_error]
  exact Or.inl checked

end DeviceUpdate.Service
