import DeviceUpdate.Proofs.Deployment.Conformity
import DeviceUpdate.Proofs.Device.Instruction
import DeviceUpdate.Proofs.Maintenance.Window
import DeviceUpdate.Proofs.Service.Persistence

/-! Deployments with a maintenance schedule: what devices are told, and when they install them. -/

namespace DeviceUpdate.Device

open Maintenance (Window Policy)

/-- What the instructions of a deployment say that is limited to a window. -/
structure Gated (d : Deployment) (w : Window) (now : Instant) (body : DeploymentDocument) :
    Prop where
  /-- There is something to install only while the window is open. -/
  installs : body.update ≠ .skip → d.urgency ≠ .downloadOnly ∧ w.IsOpen now
  /-- The window is never left unmentioned. -/
  mentioned : body.window.isSome = true
  opens : body.window = some .available → w.IsOpen now
  /-- Where the search finds the first firing, it makes the window available while it is open. -/
  available : w.Finds now → (body.window = some .available ↔ w.IsOpen now)
  /-- The window does not matter for the download. -/
  download : body.download = { d with maintenance := none }.download now

variable {s : Store} {a : Action} {d : Deployment} {set : DistributionSet} {w : Window}
  {requested : Option Int} {now : Instant} {answer : Tagged DeploymentDocument}

/-- What is told of a window says whether it is open. -/
theorem availability_eq_ok {told : Option Availability}
    (done : (Policy.within w).availability now = .ok told) :
    ∃ isOpen, w.isAvailable now = .ok isOpen ∧ told = some (.ofOpen isOpen) := by
  obtain ⟨isOpen, answers, same⟩ := Result.map_eq_ok.mp done
  exact ⟨isOpen, answers, same.symm⟩

/-- An installation is asked for only of deployments that are more than downloads, while their
window is open. -/
theorem update_eq_ok {directive : Directive}
    (done : d.update (.within w) now = .ok directive) (installs : directive ≠ .skip) :
    d.urgency ≠ .downloadOnly ∧ w.isAvailable now = .ok true := by
  -- Deployments for download only are skipped, and all others wait for the window.
  unfold Deployment.update at done
  split at done
  · exact absurd (Except.ok.inj done).symm installs
  · rename_i urgency
    obtain ⟨isOpen, answers, rest⟩ := Result.bind_eq_ok.mp done
    cases isOpen with
    | true => exact ⟨by simpa using urgency, answers⟩
    | false => exact absurd (Except.ok.inj rest).symm installs

/-- Instructions for a deployment that is limited to a window keep to it. -/
theorem Instructs.gated (instructs : Instructs s a d set requested now answer)
    (limited : d.policy = .ok (.within w)) (ordered : w.schedule.Ordered) (usual : now.isLeap = false) :
    Gated d w now answer.body := by
  -- The policy that was read for the answer is the window.
  obtain ⟨p, read, update, window⟩ := instructs.handled
  rw [limited] at read
  cases read
  obtain ⟨isOpen, answers, told⟩ := availability_eq_ok window
  -- The answer tells the window to be available exactly as it was found open.
  have opens (available : answer.body.window = some .available) : w.IsOpen now := by
    cases isOpen with
    | true => exact Window.isOpen_of_isAvailable ordered usual answers
    | false =>
      rw [told] at available
      cases available
  constructor
  -- An update that is not skipped has asked the window.
  case installs =>
    intro installs
    obtain ⟨urgency, available⟩ := update_eq_ok update installs
    exact ⟨urgency, Window.isOpen_of_isAvailable ordered usual available⟩
  case mentioned => rw [told, Option.isSome_some]
  case opens => exact opens
  case available =>
    -- The other direction needs that the opening is found.
    refine fun finds => ⟨opens, fun opened => ?_⟩
    rw [told, Window.isAvailable_of_isOpen ordered usual finds answers opened]
    rfl
  case download =>
    rw [instructs.download]
    rfl

end DeviceUpdate.Device

namespace DeviceUpdate.Service

open Deployments (Legible Assigned)
open Device (Shown Gated Tagged DeploymentDocument)
open Maintenance (Window)

variable {settings : Settings} {s s' : Store}

/-- Runs of steps leave all deployments legible. -/
theorem Steps.legible (steps : Steps settings s s') (legible : Legible s) : Legible s' := by
  induction steps with
  | refl => exact legible
  | tail _ step ih =>
    cases step with
    | deployment step => exact step.legible ih
    | rollout step => exact ih.of_eq step.frame.actions

/-- What a call comes to leaves all deployments legible. -/
theorem Effect.legible {operation : Operation} (effect : Effect settings operation s s')
    (legible : Legible s) : Legible s' := by
  cases effect with
  | steps steps => exact Steps.legible steps legible
  | resumed cancel subject own resumption => exact resumption.legible legible
  | started id start => exact legible.of_eq start.frame.actions
  | failed id failure => exact legible.of_eq failure.frame.actions

section Runs

variable (settings : Settings)

/-- In every state of every run, the windows of all deployments can be read. -/
theorem legible_history (calls : List Call) : Legible (history settings calls).present :=
  history_holds Deployments.legible_empty
    (fun calls _ deed => (deed.effect (coherent_history settings calls)).legible) calls

variable {tenant controller : String} {id : Nat} {requested : Option Int} {now : Instant}
  {answer : Tagged DeploymentDocument}

/-- What is shown of a stored deployment with a maintenance schedule keeps to its window. -/
theorem gated_history (calls : List Call) {a : Action} {d : Deployment} {m : MaintenanceTexts}
    (shown : Shown (history settings calls).present tenant controller id requested now answer)
    (stored : (history settings calls).present.actions.get? id = some a)
    (deploys : a.order = .deploy d) (limited : d.maintenance = some m)
    (usual : now.isLeap = false) :
    ∃ w, Window.read m.schedule m.duration m.timeZone = .ok w ∧ d.policy = .ok (.within w) ∧
      Gated d w now answer.body := by
  -- The texts could be read when the deployment was assigned, and they have not changed.
  obtain ⟨w, read⟩ := legible_history settings calls stored deploys m limited
  have policy := Deployment.policy_of_read limited read
  obtain ⟨b, e, set, number, -, -, instructs⟩ :=
    shown.instructs (coherent_history settings calls).indexed.own
  -- What is shown is the stored deployment.
  have own := instructs.stored
  have order := instructs.order
  rw [number, stored] at own
  rw [← Option.some.inj own, deploys] at order
  rw [← Order.deploy.inj order] at instructs
  exact ⟨w, read, policy, instructs.gated policy (Window.read_ordered read) usual⟩

variable {time : Instant} {q : AssignmentRequest} {a : Action} {cancels : List Nat}
  {after : Store}

/-- An assignment that is accepted stores the deployment that it asks for, and no call removes
it. -/
theorem assigned_history (calls more : List Call)
    (accepted : Deployments.assign (settings.tenant tenant) tenant controller q time
      (history settings calls).present = .ok (.new a cancels, after)) :
    ∃ weight b, b.order = .deploy (q.deployment weight) ∧
      (history settings
        (calls ++ ⟨time, .assign tenant controller q⟩ :: more)).present.actions.get? a.id =
          some b := by
  -- The assignment is a call, and the state behind it is the one it leaves.
  have here : (history settings
      (calls ++ [⟨time, .assign tenant controller q⟩])).present = after := by
    rw [history_concat]
    simp only [History.next, Call.apply, Transaction.run, StateT.run, accepted]
  have assigns := Deployments.assignIn_eq_ok accepted
  cases assigns with
  | new t weight cancels between valid found known free replaces =>
    have persists :=
      persists_history settings (calls ++ [⟨time, .assign tenant controller q⟩]) more
    rw [List.append_assoc, here] at persists
    have stored := Store.get?_deploy between t time tenant controller (q.deployment weight) none
      (between.nextNumber Deployments.sequence)
    obtain ⟨status, active, later, found⟩ := persists.action (stored.trans (if_pos rfl))
    exact ⟨weight, _, rfl, found⟩

/-- A deployment whose assignment has been accepted with a maintenance schedule is installed
inside of its windows only. -/
theorem installs_within_window (calls more : List Call) {m : MaintenanceTexts}
    {asker device : String} (limited : q.maintenance = some m)
    (accepted : Deployments.assign (settings.tenant tenant) tenant controller q time
      (history settings calls).present = .ok (.new a cancels, after))
    (shown : Shown (history settings
      (calls ++ ⟨time, .assign tenant controller q⟩ :: more)).present asker device a.id requested
        now answer)
    (usual : now.isLeap = false) :
    ∃ b d w, (history settings
        (calls ++ ⟨time, .assign tenant controller q⟩ :: more)).present.actions.get? a.id =
          some b ∧
      b.order = .deploy d ∧ d.maintenance = some m ∧
      Window.read m.schedule m.duration m.timeZone = .ok w ∧ d.policy = .ok (.within w) ∧
      Gated d w now answer.body ∧
      (0 ≤ (Date.ofDays (w.origin now / secondsPerDay)).year → w.Finds now) := by
  -- The action is stored with the deployment it was made for, as long as anything tells of it.
  obtain ⟨weight, b, deploys, stored⟩ := assigned_history settings calls more accepted
  obtain ⟨w, read, policy, gated⟩ :=
    gated_history settings _ shown stored deploys limited usual
  exact ⟨b, q.deployment weight, w, stored, deploys, limited, read, policy, gated,
    Window.finds_of_year (Window.read_ordered read)⟩

end Runs

/-- A run that leaves a target, and a set that can be assigned to it. -/
def stocked : List Call :=
  [⟨.epoch, .createSet "t" "a" "1" []⟩, ⟨.epoch, .createTarget "t" "d" .empty⟩]

/-- A request for a deployment that is limited to the hour after noon. -/
def afternoon : AssignmentRequest :=
  ⟨1, .forced, none, none, some ⟨"0 0 12 * * *", "01:00:00", "Z"⟩⟩

/-- A time in that hour. -/
def halfPastNoon : Instant :=
  ⟨45000, 5, by decide, by decide, by decide +kernel⟩

/-- The run in which that request is made. -/
def scheduled : List Call :=
  stocked ++ [⟨.epoch, .assign "t" "d" afternoon⟩]

set_option maxRecDepth 10000 in
/-- At half past noon the device is told to install, and the window is open. -/
theorem installs_within_window_afternoon :
    ∃ a cancels after answer w,
      Deployments.assign (Settings.standard.tenant "t") "t" "d" afternoon .epoch
        (history .standard stocked).present = .ok (.new a cancels, after) ∧
      Shown (history .standard scheduled).present "t" "d" a.id none halfPastNoon answer ∧
      Window.read "0 0 12 * * *" "01:00:00" "Z" = .ok w ∧ w.Finds halfPastNoon ∧
      answer.body.update = .forced ∧ w.IsOpen halfPastNoon := by
  have runs : (Deployments.assign (Settings.standard.tenant "t") "t" "d" afternoon .epoch
      (history .standard stocked).present).toOption.any (fun assigned =>
        match assigned.1 with
        | .already _ => false
        | .new a _ => (Device.deploymentBase "t" "d" a.id none halfPastNoon
            (history .standard scheduled).present).toOption.any fun answer =>
              answer.body.update == .forced) = true := by decide +kernel
  have searched : (Window.read "0 0 12 * * *" "01:00:00" "Z").toOption.any (fun w =>
      0 ≤ (Date.ofDays (w.origin halfPastNoon / secondsPerDay)).year) = true := by
    decide +kernel
  -- The assignment and the answer are read off the run.
  obtain ⟨⟨assigned, after⟩, accepted, shows⟩ := (Option.any_eq_true _ _).mp runs
  cases assigned with
  | already id => cases shows
  | new a cancels =>
    obtain ⟨answer, base, installs⟩ := (Option.any_eq_true _ _).mp shows
    have accepted := Result.eq_ok_of_toOption accepted
    have shown : Shown (history .standard scheduled).present "t" "d" a.id none halfPastNoon
        answer := Or.inl (Result.eq_ok_of_toOption base)
    have update : answer.body.update = .forced := by simpa using installs
    obtain ⟨b, d, w, -, -, -, read, -, gated, finds⟩ :=
      installs_within_window .standard stocked [] rfl accepted shown rfl
    -- The origin of the search lies after the year zero, and so the opening is found.
    rw [read] at searched
    have opened := (gated.installs (by rw [update]; decide)).2
    exact ⟨a, cancels, after, answer, w, accepted, shown, read,
      finds (of_decide_eq_true searched), update, opened⟩

end DeviceUpdate.Service
