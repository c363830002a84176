import DeviceUpdate.Proofs.Deployment.Feasibility
import DeviceUpdate.Proofs.Device.Instruction
import DeviceUpdate.Proofs.Maintenance.Offset
import DeviceUpdate.Proofs.Maintenance.Range

/-! Requests whose windows reach beyond the calendar or have numbers that outgrow their bits, and
deployments whose windows never do. -/

namespace DeviceUpdate

open Maintenance (NewWindowError Window)
open Instant (IsModern)

/-- A deployment that may be installed at any time, or in a window that is brief. -/
def Deployment.IsBrief (d : Deployment) : Prop :=
  ∃ p, d.policy = .ok p ∧ ∀ ⦃w : Window⦄, p = .within w → w.IsBrief

/-- A request that gets as far as its window, which reaches beyond the calendar. -/
def AssignmentRequest.Overreaches (q : AssignmentRequest) (now : Instant) : Prop :=
  ¬ (q.urgency = .timeForced ∧ q.forcedTime = none) ∧ ∃ m w, q.maintenance = some m ∧
    Window.read m.schedule m.duration m.timeZone = .ok w ∧ w.Overreaches now

/-- A request that gets as far as its window, whose texts lead to a number that its bits cannot
hold. -/
def AssignmentRequest.Overruns (q : AssignmentRequest) : Prop :=
  ¬ (q.urgency = .timeForced ∧ q.forcedTime = none) ∧ ∃ m, q.maintenance = some m ∧
    Window.Overruns m.schedule m.duration m.timeZone

section Requests

variable {q : AssignmentRequest} {own : TenantSettings} {now : Instant} {weight : Option Nat}
  {d : Deployment}

/-- Without a window nothing has to be brief. -/
theorem Deployment.isBrief_of_free (free : d.maintenance = none) : d.IsBrief := by
  refine ⟨.always, ?_, fun w limited => by cases limited⟩
  rw [policy, free]

/-- The window of a deployment is the one that was accepted when it was asked for. -/
theorem AssignmentRequest.readNew_of_policy (valid : q.validate own now = .ok weight) {w : Window}
    (limited : (q.deployment weight).policy = .ok (.within w)) :
    ∃ m : MaintenanceTexts, Window.readNew m.schedule m.duration m.timeZone now = .ok w := by
  cases texts : q.maintenance with
  | none =>
    rw [Deployment.policy, show (q.deployment weight).maintenance = none from texts] at limited
    cases limited
  | some m =>
    -- The window is read later as it was read when it was accepted.
    obtain ⟨v, accepted⟩ := readNew_of_valid valid texts
    rw [Deployment.policy_of_read texts (Window.read_of_readNew accepted)] at limited
    cases limited
    exact ⟨m, accepted⟩

/-- The deployment that an accepted request asks for is brief. -/
theorem AssignmentRequest.brief (modern : now.IsModern)
    (valid : q.validate own now = .ok weight) : (q.deployment weight).IsBrief := by
  -- Without a schedule there is no window, and one that is accepted has been checked for its
  -- length.
  cases texts : q.maintenance with
  | none => exact Deployment.isBrief_of_free texts
  | some m =>
    obtain ⟨w, accepted⟩ := readNew_of_valid valid texts
    refine ⟨.within w, Deployment.policy_of_read texts (Window.read_of_readNew accepted), ?_⟩
    rintro v ⟨⟩
    exact Window.brief_of_readNew modern accepted

/-- The last check of a request, which is of its weight. -/
def AssignmentRequest.weigh (q : AssignmentRequest) (own : TenantSettings) :
    Except DeployError (Option Nat) :=
  match q.weight with
  | some w => if maxWeight < w then .error (.invalidAssignment (.weight w maxWeight)) else .ok w
  | none => .ok (if own.multiAssignments then some maxWeight else none)

/-- The weight is checked without a look at the window. -/
theorem AssignmentRequest.weigh_ne (e : NewWindowError) : q.weigh own ≠ .error (.ofWindow e) := by
  unfold weigh
  cases q.weight with
  | none => simp
  | some w => by_cases heavy : maxWeight < w <;> cases e <;> simp [heavy, DeployError.ofWindow]

/-- Different failures of windows are told as different errors. -/
theorem DeployError.ofWindow_inj {e e' : NewWindowError} : ofWindow e = ofWindow e' ↔ e = e' := by
  cases e <;> cases e' <;> simp [ofWindow]

/-- The time of a request is checked first, then its window, and its weight last. -/
theorem AssignmentRequest.validate_eq : q.validate own now =
    if q.urgency = .timeForced ∧ q.forcedTime = none then .error (.invalidAssignment .noForcedTime)
    else
      match q.maintenance with
      | none => q.weigh own
      | some m =>
        match Window.readNew m.schedule m.duration m.timeZone now with
        | .ok _ => q.weigh own
        | .error e => .error (.ofWindow e) := by
  unfold validate
  -- The check of the time is written with Boolean tests.
  by_cases untimed : q.urgency = .timeForced ∧ q.forcedTime = none
  · rw [if_pos untimed, if_pos (by simp [untimed])]
    rfl
  · rw [if_neg untimed, if_neg (by simpa using untimed)]
    cases q.maintenance with
    | none => rfl
    | some m => cases Window.readNew m.schedule m.duration m.timeZone now <;> rfl

/-- The check of a request fails over its window exactly if it gets that far and the window is not
accepted, for the same reason. -/
theorem AssignmentRequest.validate_eq_ofWindow {e : NewWindowError} :
    q.validate own now = .error (.ofWindow e) ↔
      ¬ (q.urgency = .timeForced ∧ q.forcedTime = none) ∧ ∃ m, q.maintenance = some m ∧
        Window.readNew m.schedule m.duration m.timeZone now = .error e := by
  rw [validate_eq]
  -- A missing time is the other refusal, and it comes before the schedule is looked at.
  by_cases untimed : q.urgency = .timeForced ∧ q.forcedTime = none
  · cases e <;> simp [untimed, DeployError.ofWindow]
  · rw [if_neg untimed, and_iff_right untimed]
    cases limited : q.maintenance with
    | none => simp [weigh_ne]
    | some m =>
      simp only [Option.some.injEq, exists_eq_left']
      -- What follows a window that is accepted has nothing to do with it.
      cases Window.readNew m.schedule m.duration m.timeZone now with
      | ok w => simp [weigh_ne]
      | error e' => simp [DeployError.ofWindow_inj]

/-- The check of a request leaves the calendar exactly if the request overreaches. -/
theorem AssignmentRequest.validate_overreaches (modern : now.IsModern) :
    q.validate own now = .error .outOfCalendar ↔ q.Overreaches now := by
  have judged (m : MaintenanceTexts) :=
    @Window.readNew_fails_iff now m.schedule m.duration m.timeZone modern
  simp only [Overreaches, exists_and_left, ← judged]
  exact validate_eq_ofWindow (e := .outOfCalendar)

/-- The check of a request comes to too large a number exactly if the request overruns. -/
theorem AssignmentRequest.validate_overruns :
    q.validate own now = .error .overrun ↔ q.Overruns := by
  simp only [Overruns, ← Window.overruns_iff]
  simp only [← @Window.readNew_eq_overrun now]
  exact validate_eq_ofWindow (e := .overrun)

end Requests

section Assignments

open Deployments (Indexed Paired)

variable {s : Store} {q : AssignmentRequest} {own : TenantSettings} {now : Instant}
  {tenant controller : String}

/-- An assignment fails over its window exactly if the check of its request does. -/
theorem Deployments.assign_eq_ofWindow (indexed : Indexed s) (paired : Paired s)
    {e : NewWindowError} : assign own tenant controller q now s = .error (.ofWindow e) ↔
      q.validate own now = .error (.ofWindow e) := by
  -- The request is checked first, so its refusals are those of the assignment.
  cases checked : q.validate own now with
  | error e' => simp [assign, assignIn, Transaction.lift_bind_eq_error, checked]
  | ok weight =>
    -- A valid request fails only where its target or its set is not known.
    have fails : assign own tenant controller q now s ≠ .error (.ofWindow e) := by
      cases found : s.target? tenant controller with
      | none =>
        cases e <;> simp [assign, assignIn, Transaction.lift_bind_eq_error, checked, found,
          Transaction.orElse, DeployError.ofWindow]
      | some t =>
        cases known : s.set? tenant q.distributionSet with
        | none =>
          cases e <;> simp [assign, assignIn, Transaction.lift_bind_eq_error, checked, found, known,
            Transaction.orElse, DeployError.ofWindow]
        | some d =>
          obtain ⟨assigned, s', done⟩ := assignIn_succeeds indexed paired checked
            (by rw [found]; rfl) (by rw [known]; rfl) none
          rw [assign, done]
          simp
    simpa using fails

/-- An assignment leaves the calendar exactly if its request overreaches. -/
theorem Deployments.assign_overreaches (indexed : Indexed s) (paired : Paired s)
    (modern : now.IsModern) :
    assign own tenant controller q now s = .error .outOfCalendar ↔ q.Overreaches now :=
  (assign_eq_ofWindow indexed paired (e := .outOfCalendar)).trans
    (AssignmentRequest.validate_overreaches modern)

/-- An assignment comes to too large a number exactly if its request overruns. -/
theorem Deployments.assign_overruns (indexed : Indexed s) (paired : Paired s) :
    assign own tenant controller q now s = .error .overrun ↔ q.Overruns :=
  (assign_eq_ofWindow indexed paired (e := .overrun)).trans AssignmentRequest.validate_overruns

end Assignments

section Instructions

variable {d : Deployment} {now : Instant} {s : Store} {a : Action} {requested : Option Int}
  {set : DistributionSet}

variable {p : Maintenance.Policy}

/-- Whether a brief window is open can be told, and so it can be without any window. -/
theorem Maintenance.Policy.isAvailable_succeeds (brief : ∀ ⦃w : Window⦄, p = .within w → w.IsBrief)
    (modern : now.IsModern) : ∃ isOpen, p.isAvailable now = .ok isOpen := by
  cases p with
  | always => exact ⟨true, rfl⟩
  | within w => exact (brief rfl).isAvailable_succeeds modern

/-- How a device treats the installation of a deployment can be told. -/
theorem Deployment.update_succeeds (brief : ∀ ⦃w : Window⦄, p = .within w → w.IsBrief)
    (modern : now.IsModern) : ∃ directive, d.update p now = .ok directive := by
  obtain ⟨isOpen, answers⟩ := Maintenance.Policy.isAvailable_succeeds brief modern
  unfold Deployment.update
  -- The window matters only to what is to be installed at all.
  by_cases download : (d.urgency == .downloadOnly) = true
  · exact ⟨.skip, by rw [if_pos download]; rfl⟩
  · rw [if_neg download, answers]
    cases isOpen with
    | true => exact ⟨d.download now, rfl⟩
    | false => exact ⟨.skip, rfl⟩

/-- What is told of a brief window can be computed. -/
theorem Maintenance.Policy.availability_succeeds (brief : ∀ ⦃w : Window⦄, p = .within w → w.IsBrief)
    (modern : now.IsModern) : ∃ told, p.availability now = .ok told := by
  -- Only a window has to be asked whether it is open.
  cases p with
  | always => exact ⟨none, rfl⟩
  | within w =>
    obtain ⟨isOpen, answers⟩ := (brief rfl).isAvailable_succeeds modern
    refine ⟨some (.ofOpen isOpen), ?_⟩
    rw [Maintenance.Policy.availability, answers]
    rfl

/-- The instructions of a brief deployment can be computed, if its set is known. -/
theorem Device.deploymentDocument_succeeds (deploys : a.order = .deploy d)
    (shelved : s.set? a.tenant d.distributionSet = some set) (brief : d.IsBrief)
    (modern : now.IsModern) :
    ∃ answer, Device.deploymentDocument s a requested now = .ok answer := by
  obtain ⟨p, limited, brief⟩ := brief
  obtain ⟨directive, updates⟩ := @Deployment.update_succeeds d now p brief modern
  -- The directive and the availability of the window are all that could fail.
  obtain ⟨told, opens⟩ := Maintenance.Policy.availability_succeeds brief modern
  have own : a.deployment? = some d := by simp [Action.deployment?, deploys]
  simp only [Device.deploymentDocument, own, shelved, limited]
  simp only [Device.inBits, bind, Except.bind, updates, opens]
  exact ⟨_, rfl⟩

/-- The instructions of an action whose deployment is brief never stop the program. -/
theorem Device.deploymentDocument_within (brief : ∀ d, a.order = .deploy d → d.IsBrief)
    (modern : now.IsModern) {e : Device.Error}
    (fails : Device.deploymentDocument s a requested now = .error e) : ¬ e.IsStop := by
  -- Only a deployment of a known set gets as far as its window.
  cases order : a.order with
  | cancel subject =>
    have own : a.deployment? = none := by simp [Action.deployment?, order]
    rw [Device.deploymentDocument, own] at fails
    cases fails
    simp [Device.Error.IsStop]
  | deploy d =>
    have own : a.deployment? = some d := by simp [Action.deployment?, order]
    cases shelved : s.set? a.tenant d.distributionSet with
    | none =>
      simp only [Device.deploymentDocument, own, shelved] at fails
      cases fails
      simp [Device.Error.IsStop]
    | some set =>
      obtain ⟨answer, answers⟩ :=
        @Device.deploymentDocument_succeeds d now s a requested set order shelved (brief d order)
          modern
      rw [answers] at fails
      cases fails

/-- The search for an action of a device never stops the program. -/
theorem Device.actionOf_not_stop {tenant controller : String} {id : Nat} {cancel : Bool}
    {e : Device.Error} (fails : Device.actionOf s tenant controller id cancel = .error e) :
    ¬ e.IsStop := by
  unfold Device.actionOf at fails
  -- The action is not there, or it is of the other kind or of another device.
  split at fails
  · cases fails
    simp [Device.Error.IsStop]
  · simp only at fails
    split at fails
    · cases fails
    · cases fails
      simp [Device.Error.IsStop]

end Instructions

end DeviceUpdate
