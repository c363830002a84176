import DeviceUpdate.Proofs.Deployment.Installation

/-! The standing of a target: what is installed on it since when, and whether attributes are wanted
of its device. -/

namespace DeviceUpdate

/-- What a target tells of the last installation, and whether it wants attributes since. -/
structure Standing where
  installed : Option Nat
  installedAt : Option Instant
  wantsAttributes : Bool
  deriving DecidableEq

/-- The standing of a target on which nothing has been installed. -/
def Standing.initial : Standing :=
  ⟨none, none, true⟩

/-- The standing of a target. -/
def Target.standing (t : Target) : Standing :=
  ⟨t.installed, t.installedAt, t.wantsAttributes⟩

namespace Deployments

/-- The standing of the target of a key. -/
def standingUnder (s : Store) (key : String) : Option Standing :=
  (s.targets.get? key).map (·.standing)

/-- Targets keep their standing between two states, and new ones have the initial one. -/
def Keeps (s s' : Store) : Prop :=
  ∀ key, standingUnder s' key = standingUnder s key ∨
    standingUnder s key = none ∧ standingUnder s' key = some .initial

section Keeps

variable {s s' s'' : Store} {t u : Target} {tenant controller : String}

theorem Keeps.of_eq (targets : s'.targets = s.targets) : Keeps s s' := by
  intro key
  left
  rw [standingUnder, targets, standingUnder]

theorem Keeps.refl (s : Store) : Keeps s s :=
  .of_eq rfl

theorem Keeps.trans (first : Keeps s s') (second : Keeps s' s'') : Keeps s s'' := by
  intro key
  rcases second key with same | ⟨absent, new⟩
  · rw [same]
    exact first key
  -- A target that is new in the second part was not there before the first one.
  · rcases first key with before | ⟨-, created⟩
    · exact .inr ⟨before.symm.trans absent, new⟩
    · rw [absent] at created
      cases created

/-- Storing a target decides the standing under its key. -/
theorem standingUnder_putTarget (s : Store) (t : Target) (key : String) :
    standingUnder (s.putTarget t) key =
      if key = t.key then some t.standing else standingUnder s key := by
  rw [standingUnder, get?_putTarget]
  split <;> rfl

/-- A target of the same standing may take the place of another one. -/
theorem Keeps.replace (keyed : Keyed s) (targets : s'.targets = s.targets)
    (found : s.target? tenant controller = some t) (own : u.key = t.key)
    (same : u.standing = t.standing) : Keeps s (s'.putTarget u) := by
  -- Only the standing under the key of the target is written, and with the value it had.
  intro key
  left
  rw [standingUnder_putTarget]
  split
  · rename_i here
    have stored : s.targets.get? (Target.keyOf tenant controller) = some t := found
    rw [here, own, keyed stored, standingUnder, stored, Option.map_some, same]
  · rw [standingUnder, targets, standingUnder]

/-- A target of the initial standing may take the place of none. -/
theorem Keeps.create (absent : s.target? tenant controller = none)
    (own : t.key = Target.keyOf tenant controller) (initial : t.standing = .initial) :
    Keeps s (s.putTarget t) := by
  -- The key was not in the table, and the new record has the initial standing.
  intro key
  rw [standingUnder_putTarget]
  split
  · right
    rename_i here
    have none : s.targets.get? (Target.keyOf tenant controller) = none := absent
    rw [here, own, standingUnder, none, initial]
    exact ⟨rfl, rfl⟩
  · exact .inl rfl

/-- Requests for cancellations write no targets. -/
theorem Requests.keeps {test : Action → Prop} {now : Instant}
    (requests : Requests test now s s') : Keeps s s' := by
  induction requests with
  | refl => exact .refl s
  | tail _ request ih =>
    obtain ⟨subject, -, -, -, same⟩ := request
    rw [same]
    exact ih.trans (.of_eq rfl)

/-- An assignment leaves the standing of its target as it is. -/
theorem Assigns.keeps {own : TenantSettings} {q : AssignmentRequest} {rollout : Option Membership}
    {now : Instant} {assigned : Assigned}
    (assigns : Assigns own tenant controller q rollout now s assigned s') (keyed : Keyed s) :
    Keeps s s' := by
  cases assigns with
  | already a current => exact .refl s
  | new t weight cancels between valid found known free replaces =>
    -- The requests leave the targets as they are, so the record is the one looked up.
    have same : between.targets = s.targets := by
      rw [replaces]
      exact (requestCancels_frame s _ now).1
    exact .replace keyed same found rfl rfl

end Keeps

section Reports

variable {s s' : Store} {a b cancel : Action} {t : Target} {f : Feedback} {d : Deployment}
  {now : Instant} {key : String}

/-- A deployment to the target of a key comes to be finished. -/
def Finishes (s s' : Store) (key : String) (a : Action) : Prop :=
  Finished s' key a ∧ ¬ Finished s key a

/-- What a report on an action does to standings: its deployment finishes, which its target tells
from then on, or all of them are kept. -/
inductive Recounting (a : Action) (now : Instant) (s s' : Store) : Prop
  | kept (keeps : Keeps s s') (none : ∀ key b, ¬ Finishes s s' key b)
  | finished (set : Nat) (own : a.set? = some set)
      (standing : ∀ key, standingUnder s' key =
        if key = a.targetKey then some ⟨some set, some now, true⟩ else standingUnder s key)
      (finishes : ∀ key b, Finishes s s' key b ↔
        key = a.targetKey ∧ b = a.moved .finished false now)

/-- The end of a deployment shows in the standing of its target if it has finished. -/
theorem closed_standing (outcome : Outcome) (t : Target) (set : Nat) (others : Bool)
    (now : Instant) : (t.closed outcome set others now).standing =
      if outcome.status = .finished then ⟨some set, some now, true⟩ else t.standing := by
  cases outcome <;> rfl

/-- Nothing finishes where nothing else is finished afterwards. -/
theorem not_finishes (same : ∀ key b, Finished s' key b ↔ Finished s key b) (key : String)
    (b : Action) : ¬ Finishes s s' key b :=
  fun ⟨after, before⟩ => before ((same key b).mp after)

/-- A closing report is recounted by the target of its deployment, unless it tells of a failure. -/
theorem close_recounting (paired : Paired s) (keyed : Keyed s)
    (stored : s.actions.get? a.id = some a) (deploys : a.order = .deploy d)
    (active : a.active = true) (found : s.target? a.tenant a.controller = some t) (f : Feedback)
    (now : Instant) : Recounting a now s (s.close a d.distributionSet t f now) := by
  -- Whether the report finishes decides whether the standing of the target moves.
  by_cases outcome : f.outcome.status = .finished
  -- The action has finished, and no other one with it.
  · have ended : (s.close a d.distributionSet t f now).actions.get? a.id =
        some (a.moved .finished false now) := by
      rw [Store.get?_close, if_pos rfl, outcome]
    refine .finished d.distributionSet (Action.set?_of_order deploys) (fun key => ?_)
      fun key b => ⟨fun ⟨after, before⟩ => ?_, ?_⟩
    · rw [standingUnder, targets_close keyed found]
      split
      · rw [Option.map_some, closed_standing, if_pos outcome]
      · rfl
    -- Whatever else is finished was so before.
    · have others (key : String) (b : Action) (other : b.id ≠ a.id) :
          Finished (s.close a d.distributionSet t f now) key b ↔ Finished s key b :=
        (finished_putTarget _).trans (finished_record_other other)
      rcases after.of_ended ended others with same | ⟨-, old⟩
      · exact ⟨by rw [← after.own, same, Action.moved_targetKey], same⟩
      · exact absurd old before
    · rintro ⟨rfl, rfl⟩
      exact ⟨finished_ended (Action.isCancel_of_order deploys) ended,
        fun old => old.id_ne (a := a) paired stored active rfl⟩
  -- Without a finish, only the status of the target can change.
  · refine .kept (.replace keyed rfl found ?_ ?_) (not_finishes fun key b =>
      (finished_putTarget _).trans (finished_record (Or.inr outcome) fun _ _ before =>
        before.id_ne (a := a) paired stored active))
    · cases f.outcome <;> rfl
    · rw [closed_standing, if_neg outcome]

/-- What ends besides and is no deployment has no part in that. -/
theorem Recounting.remark (recounting : Recounting a now s s') (cancels : cancel.isCancel = true)
    (stored : s'.actions.get? cancel.id = some cancel) {status : Status} {active : Bool}
    {e : LogEntry} : Recounting a now s (s'.record (cancel.moved status active now) e) := by
  -- A cancellation is no deployment, so the remark on it adds none that finishes.
  have same (key : String) (b : Action) :
      Finishes s (s'.record (cancel.moved status active now) e) key b ↔ Finishes s s' key b :=
    and_congr_left fun _ => finished_remark cancels stored
  cases recounting with
  | kept keeps none =>
    exact .kept (keeps.trans (.of_eq rfl)) fun key b => mt (same key b).mp (none key b)
  | finished set own standing finishes =>
    exact .finished set own standing fun key b => (same key b).trans (finishes key b)

/-- Every report is recounted by the targets. -/
theorem Reporting.recounting (reporting : Reporting a f now s s')
    (paired : Paired s) (keyed : Keyed s) (stored : s.actions.get? a.id = some a) :
    Recounting a now s s' := by
  cases reporting with
  | progressed step going reported =>
    exact .kept (.of_eq rfl) (not_finishes fun key b =>
      finished_progressed paired stored going reported)
  | closed d t deploys closing inFlight found =>
    exact close_recounting paired keyed stored deploys (Action.isInFlight_iff.mp inFlight).1 found
      f now
  | superseded cancel d t pending deploys closing found =>
    -- The cancellation that ends with the deployment is no deployment.
    refine (close_recounting paired keyed stored deploys pending.subjectActive found f now).remark
      (Action.isCancel_of_names pending.names) ?_
    rw [Store.get?_close, if_neg pending.id_ne]
    exact pending.cancelStored
  | confirmed subject t pending closing found =>
    -- The deployment that is given up ends, but it does not finish.
    refine .kept (.replace keyed rfl found rfl rfl) (not_finishes fun key b =>
      (finished_putTarget _).trans (pending.finished_pair paired (by simp) _ _ key b))

end Reports

end Deployments

end DeviceUpdate
