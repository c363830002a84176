import DeviceUpdate.Proofs.Deployment.Administration
import DeviceUpdate.Proofs.Deployment.Closed
import DeviceUpdate.Proofs.Deployment.Feasibility
import DeviceUpdate.Proofs.Deployment.Tenancy
import DeviceUpdate.Proofs.Service.Ownership

/-! Deployments that are withdrawn, each by one new cancellation, and what assignments replace in a run. -/

namespace DeviceUpdate

namespace Store

open Deployments (sequence)

/-- A request for a cancellation draws one number. -/
theorem nextNumber_requestCancel (s : Store) (subject : Action) (now : Instant) :
    (s.requestCancel subject now).nextNumber sequence = s.nextNumber sequence + 1 := by
  have drawn := nextNumber_advance s sequence sequence
  rwa [if_pos rfl] at drawn

/-- Requests for cancellations draw one number each. -/
theorem nextNumber_requestCancels (s : Store) (subjects : List Action) (now : Instant) :
    (s.requestCancels subjects now).nextNumber sequence =
      s.nextNumber sequence + subjects.length := by
  -- Every request draws one number.
  induction subjects generalizing s with
  | nil => rfl
  | cons subject rest ih =>
    rw [List.length_cons]
    have others := ih (s.requestCancel subject now)
    rw [nextNumber_requestCancel] at others
    exact others.trans (by omega)

end Store

namespace Deployments

variable {s s' : Store} {subject : Action} {subjects : List Action} {now : Instant}

/-- A deployment in flight is withdrawn by one new action, and by no other. -/
structure Withdrawn (s s' : Store) (subject : Action) (number : Nat) (now : Instant) : Prop where
  canceling : s'.actions.get? subject.id = some (subject.moved .canceling true now)
  fresh : s.actions.get? number = none
  cancel : s'.actions.get? number = some (subject.cancelling number now)
  alone : ∀ cancel, Cancels s' cancel subject.id → cancel.id = number

/-- Where cancellations are paired, what is written for a withdrawal settles that it is the only. -/
theorem Paired.withdrawn (paired : Paired s') {number : Nat}
    (canceling : s'.actions.get? subject.id = some (subject.moved .canceling true now))
    (fresh : s.actions.get? number = none)
    (cancel : s'.actions.get? number = some (subject.cancelling number now)) :
    Withdrawn s s' subject number now := by
  have cancels : Cancels s' (subject.cancelling number now) subject.id := ⟨cancel, rfl, rfl⟩
  exact ⟨canceling, fresh, cancel, fun _ other => paired.unique other cancels⟩

/-- A new deployment touches no action that is stored. -/
theorem Untouched.deploy {id : Nat} (t : Target) (tenant controller : String) (d : Deployment)
    (rollout : Option Membership) (new : id ≠ s.nextNumber sequence) :
    Untouched id s (s.deploy t tenant controller d rollout now) := by
  unfold Store.deploy
  exact .putTarget (.record (.advance (.refl id s) sequence) rfl new) _

/-- Requests for cancellations touch their subjects and the new actions only. -/
theorem Untouched.requestCancels {id : Nat} (old : id < s.nextNumber sequence)
    (other : ∀ a ∈ subjects, id ≠ a.id) : Untouched id s (s.requestCancels subjects now) := by
  induction subjects generalizing s with
  | nil => exact .refl id s
  | cons subject rest ih =>
    have first : Untouched id s (s.requestCancel subject now) :=
      .requestCancel (Nat.ne_of_lt old) (other subject List.mem_cons_self)
    -- The number of the first request is drawn when the others are made.
    refine first.trans (ih ?_ fun a member => other a (List.mem_cons_of_mem subject member))
    rw [Store.nextNumber_requestCancel]
    omega

/-- Requests for cancellations give actions with the numbers that they draw. -/
theorem mapM_cancelIn_numbers {cancels : List Action}
    (done : (subjects.mapM fun a => cancelIn a now) s = .ok (cancels, s')) :
    cancels.map (·.id) = List.range' (s.nextNumber sequence) subjects.length := by
  -- By induction on the subjects, from whatever state the first request leaves.
  induction subjects generalizing s cancels with
  | nil =>
    obtain ⟨given, -⟩ := Prod.mk.inj (Except.ok.inj done)
    rw [← given]
    rfl
  | cons subject rest ih =>
    simp only [List.mapM_cons, Transaction.bind_eq_ok] at done
    obtain ⟨cancel, s₁, first, more, s₂, others, last⟩ := done
    obtain ⟨-, named, same⟩ := cancelIn_eq_ok first
    obtain ⟨given, result⟩ := Prod.mk.inj (Except.ok.inj last)
    rw [result] at others
    have numbers := ih others
    -- The first request draws the next number, and the others go on from there.
    rw [same, Store.nextNumber_requestCancel] at numbers
    rw [← given, List.map_cons, numbers, named, List.length_cons, List.range'_succ]
    rfl

/-- Each of several deployments is withdrawn, in the order in which numbers are drawn. -/
theorem requestCancels_writes (indexed : Indexed s)
    (apart : subjects.Pairwise fun a b => a.id < b.id)
    (stored : ∀ a ∈ subjects, s.actions.get? a.id = some a) (now : Instant) :
    List.Forall₂ (fun subject number => s.nextNumber sequence ≤ number ∧
        (s.requestCancels subjects now).actions.get? subject.id =
          some (subject.moved .canceling true now) ∧
        (s.requestCancels subjects now).actions.get? number = some (subject.cancelling number now))
      subjects (List.range' (s.nextNumber sequence) subjects.length) := by
  -- By induction on the subjects: the first takes the next number, the others those after it.
  induction subjects generalizing s with
  | nil => exact .nil
  | cons subject rest ih =>
    obtain ⟨later, apart⟩ := List.pairwise_cons.mp apart
    have here := stored subject List.mem_cons_self
    have below := indexed.drawn here
    have old (a : Action) (member : a ∈ rest) : a.id < s.nextNumber sequence :=
      indexed.drawn (stored a (List.mem_cons_of_mem subject member))
    have next := Store.nextNumber_requestCancel s subject now
    have others := ih (indexed.requestCancel here now) apart fun a member =>
      get?_requestCancel_of_ne (stored a (List.mem_cons_of_mem subject member)) indexed
        (Nat.ne_of_gt (later a member))
    rw [next] at others
    rw [List.length_cons, List.range'_succ]
    -- What the first request writes is not touched by the others.
    have kept (id : Nat) (drawn : id ≤ s.nextNumber sequence) (other : ∀ a ∈ rest, id ≠ a.id) :
        (s.requestCancels (subject :: rest) now).actions.get? id =
          (s.requestCancel subject now).actions.get? id := by
      have old : id < (s.requestCancel subject now).nextNumber sequence := by omega
      exact (Untouched.requestCancels old other).action
    refine .cons ⟨Nat.le_refl _, ?_, ?_⟩ (others.imp fun a number written => ?_)
    · rw [kept subject.id (Nat.le_of_lt below) fun a member => Nat.ne_of_lt (later a member),
        Store.get?_requestCancel, if_neg (Nat.ne_of_lt below), if_pos rfl]
    · rw [kept _ (Nat.le_refl _) fun a member => Nat.ne_of_gt (old a member),
        Store.get?_requestCancel, if_pos rfl]
    · exact ⟨by omega, written.2⟩

section Requests

variable {test : Action → Prop} {a : Action}

/-- Requests for cancellations take no number back. -/
theorem Requests.next (requests : Requests test now s s') :
    s.nextNumber sequence ≤ s'.nextNumber sequence := by
  induction requests with
  | refl => exact Nat.le_refl _
  | tail _ request ih =>
    obtain ⟨subject, -, -, -, same⟩ := request
    rw [same, Store.nextNumber_requestCancel]
    omega

/-- A stored action is not touched by requests, or it passes the test and is withdrawn. -/
theorem Requests.withdraws (requests : Requests test now s s') (indexed : Indexed s)
    (paired : Paired s') (stored : s.actions.get? a.id = some a) :
    Untouched a.id s s' ∨ test a ∧ a.isInFlight = true ∧ ∃ number, Withdrawn s s' a number now := by
  suffices written : Untouched a.id s s' ∨ test a ∧ a.isInFlight = true ∧ ∃ number,
      s.actions.get? number = none ∧
        s'.actions.get? a.id = some (a.moved .canceling true now) ∧
        s'.actions.get? number = some (a.cancelling number now) by
    refine written.imp_right ?_
    rintro ⟨passes, inFlight, number, fresh, canceling, cancel⟩
    exact ⟨passes, inFlight, number, paired.withdrawn canceling fresh cancel⟩
  clear paired
  -- By induction on the requests, the last one taken apart: it concerns the action itself or
  -- another.
  induction requests with
  | refl => exact Or.inl (.refl a.id s)
  | @tail between _ before request ih =>
    obtain ⟨subject, here, runs, passes, same⟩ := request
    have listing : Indexed between := Requests.indexed before indexed
    have next : s.nextNumber sequence ≤ between.nextNumber sequence := Requests.next before
    -- What is not in flight is not asked to stop.
    have spared (b : Action) (found : between.actions.get? b.id = some b)
        (rests : b.isInFlight = false) :
        (between.requestCancel subject now).actions.get? b.id = some b :=
      get?_requestCancel_of_ne found listing fun equal => by
        rw [stored_unique found here equal, runs] at rests
        cases rests
    rw [same]
    rcases ih with untouched | ⟨tested, inFlight, number, fresh, canceling, cancel⟩
    · have kept := untouched.action.trans stored
      have old : a.id ≠ between.nextNumber sequence := Nat.ne_of_lt (listing.drawn kept)
      by_cases own : a.id = subject.id
      · -- The action is asked to stop now, by an action of a number that no other has had.
        have equal := stored_unique kept here own
        subst equal
        have fresh : s.actions.get? (between.nextNumber sequence) = none := by
          rw [Option.eq_none_iff_forall_ne_some]
          exact fun b found => Nat.not_lt.mpr next (indexed.drawn found)
        refine Or.inr ⟨passes, runs, _, fresh, ?_, ?_⟩
        · rw [Store.get?_requestCancel, if_neg old, if_pos rfl]
        · rw [Store.get?_requestCancel, if_pos rfl]
      · exact Or.inl (untouched.trans (.requestCancel old own))
    · refine Or.inr ⟨tested, inFlight, number, fresh, ?_, ?_⟩
      · exact spared (a.moved .canceling true now) canceling (by simp [Action.isInFlight])
      · exact spared (a.cancelling number now) cancel rfl

end Requests

section Assignment

variable {settings : Settings} {own : TenantSettings} {tenant controller : String}
  {q : AssignmentRequest} {rollout : Option Membership}

@[simp] theorem newAction_id (id : Nat) (tenant controller : String) (d : Deployment)
    (rollout : Option Membership) (now : Instant) :
    (newAction id tenant controller d rollout now).id = id := rfl

/-- What is replaced is cancelled under the next numbers. -/
theorem assignIn_numbers {a : Action} {canceled : List Nat}
    (done : assignIn own tenant controller q rollout now s = .ok (.new a canceled, s')) :
    canceled = List.range' (s.nextNumber sequence)
      (replaced own (s.actionsOf tenant controller)).length := by
  simp only [assignIn, Transaction.lift_bind_eq_ok, Transaction.read_bind_apply,
    Transaction.orElse_bind_eq_ok] at done
  -- Only the branch without a deployment in flight makes a new action.
  obtain ⟨weight, valid, t, found, d, known, rest⟩ := done
  cases current : inFlight? (s.actionsOf tenant controller) q.distributionSet with
  | some a =>
    simp only [current, Transaction.pure_apply] at rest
    cases (Prod.mk.inj (Except.ok.inj rest)).1
  | none =>
    simp only [current] at rest
    obtain ⟨cancels, s₁, requests, rest⟩ := Transaction.bind_eq_ok.mp rest
    simp only [Transaction.draw_bind_apply, Transaction.change_bind_apply,
      Transaction.note_bind_apply, Transaction.pure_apply] at rest
    obtain ⟨given, -⟩ := Prod.mk.inj (Except.ok.inj rest)
    rw [← (Assigned.new.inj given).2]
    exact mapM_cancelIn_numbers requests

/-- A deployment of a set is in flight among the actions of a target. -/
theorem inFlight?_isSome {actions : List Action} {set : Nat} :
    (inFlight? actions set).isSome = true ↔
      ∃ a ∈ actions, a.isInFlight = true ∧ ∃ d, a.order = .deploy d ∧ d.distributionSet = set := by
  simp only [inFlight?, List.find?_isSome, Bool.and_eq_true]
  refine exists_congr fun a => and_congr_right fun _ => and_congr_right fun _ => ?_
  cases order : a.order <;> simp [Action.deployment?, order]

/-- An assignment changes nothing exactly if what is asked for is in flight already. -/
theorem assignIn_already_iff :
    (∃ id, assignIn own tenant controller q rollout now s = .ok (.already id, s')) ↔
      s' = s ∧ (∃ weight, q.validate own now = .ok weight) ∧
        (s.target? tenant controller).isSome = true ∧
        (s.set? tenant q.distributionSet).isSome = true ∧
        ∃ a ∈ s.actionsOf tenant controller, a.isInFlight = true ∧
          ∃ d, a.order = .deploy d ∧ d.distributionSet = q.distributionSet := by
  rw [← inFlight?_isSome]
  simp only [assignIn, Transaction.lift_bind_eq_ok, Transaction.read_bind_apply,
    Transaction.orElse_bind_eq_ok]
  -- Whether a deployment of the set is in flight decides between the two outcomes.
  cases current : inFlight? (s.actionsOf tenant controller) q.distributionSet with
  | some a =>
    simp only [Transaction.pure_apply, Option.isSome_some, and_true]
    constructor
    · rintro ⟨id, weight, valid, t, found, d, known, rest⟩
      exact ⟨(Transaction.state_eq rest).symm, ⟨weight, valid⟩, by simp [found], by simp [known]⟩
    · rintro ⟨rfl, ⟨weight, valid⟩, registered, known⟩
      obtain ⟨t, found⟩ := Option.isSome_iff_exists.mp registered
      obtain ⟨d, here⟩ := Option.isSome_iff_exists.mp known
      exact ⟨a.id, weight, valid, t, found, d, here, rfl⟩
  | none =>
    -- Otherwise the assignment makes a new deployment, if it succeeds at all.
    simp only [Option.isSome_none, Bool.false_eq_true, and_false, iff_false]
    rintro ⟨id, weight, valid, t, found, d, known, rest⟩
    obtain ⟨cancels, s₁, requests, rest⟩ := Transaction.bind_eq_ok.mp rest
    simp only [Transaction.draw_bind_apply, Transaction.change_bind_apply,
      Transaction.note_bind_apply, Transaction.pure_apply] at rest
    cases (Prod.mk.inj (Except.ok.inj rest)).1

/-- What a new deployment to a target changes, and what it leaves as it was. -/
structure Replaces (own : TenantSettings) (tenant controller : String) (q : AssignmentRequest)
    (rollout : Option Membership) (now : Instant) (s s' : Store) (a : Action)
    (canceled : List Nat) : Prop where
  stored : s'.actions.get? a.id = some a
  made : ∃ weight, q.validate own now = .ok weight ∧
    a = newAction a.id tenant controller (q.deployment weight) rollout now
  running : a.status = .running
  active : a.active = true
  latest : ∀ {b : Action}, s.actions.get? b.id = some b → b.id < a.id
  ordered : (canceled ++ [a.id]).Pairwise (· < ·)
  only : ∀ {id : Nat} {b : Action}, s'.actions.get? id = some b → s.actions.get? id = none →
    id ∈ canceled ++ [a.id]
  /-- Where a target may have one deployment only, all others in flight are withdrawn. -/
  single : own.multiAssignments = false →
    (∀ b, b ∈ s'.actionsOf tenant controller ∧ b.isInFlight = true ↔ b = a) ∧
    List.Forall₂ (fun subject number => Withdrawn s s' subject number now)
      ((s.actionsOf tenant controller).filter (·.isInFlight)) canceled ∧
    ∀ {b : Action}, s.actions.get? b.id = some b →
      b ∉ (s.actionsOf tenant controller).filter (·.isInFlight) → Untouched b.id s s'
  /-- Where a target may have several deployments, those that are there stay as they are. -/
  several : own.multiAssignments = true →
    canceled = [] ∧ ∀ {b : Action}, s.actions.get? b.id = some b → Untouched b.id s s'
  target : ∃ t, s.target? tenant controller = some t ∧
    s'.target? tenant controller = some (t.withAssigned q.distributionSet now)
  targets : ∀ key, key ≠ Target.keyOf tenant controller → s'.targets.get? key = s.targets.get? key
  sets : s'.sets = s.sets
  frame : Frame s s'

/-- What is replaced is stored. -/
theorem Indexed.replaced_stored (indexed : Indexed s) {a : Action}
    (member : a ∈ replaced own (s.actionsOf tenant controller)) :
    s.actions.get? a.id = some a :=
  (indexed.mem_actionsOf.mp (mem_replaced member).1).1

/-- Requests and a new deployment touch no stored action but the subjects of the requests. -/
theorem Untouched.replaced {a : Action} (indexed : Indexed s)
    (running : ∀ b ∈ subjects, s.actions.get? b.id = some b)
    (stored : s.actions.get? a.id = some a) (others : a ∉ subjects) (t : Target) (d : Deployment) :
    Untouched a.id s
      ((s.requestCancels subjects now).deploy t tenant controller d rollout now) := by
  have below := indexed.drawn stored
  have next := Store.nextNumber_requestCancels s subjects now
  -- Another number would make it another action.
  have apart (b : Action) (member : b ∈ subjects) : a.id ≠ b.id := fun same =>
    others (by rw [stored_unique stored (running b member) same]; exact member)
  exact (Untouched.requestCancels below apart).trans (.deploy t tenant controller d rollout (by omega))

/-- Deployments are withdrawn when a new deployment follows on the requests. -/
theorem requestCancels_withdrawn (indexed : Indexed s)
    (apart : subjects.Pairwise fun a b => a.id < b.id)
    (stored : ∀ a ∈ subjects, s.actions.get? a.id = some a)
    (between : Indexed (s.requestCancels subjects now)) {t : Target} {d : Deployment}
    (after : Paired ((s.requestCancels subjects now).deploy t tenant controller d rollout now)) :
    List.Forall₂ (fun subject number =>
        Withdrawn s ((s.requestCancels subjects now).deploy t tenant controller d rollout now)
          subject number now)
      subjects (List.range' (s.nextNumber sequence) subjects.length) := by
  -- The new deployment leaves what stands under older numbers alone.
  have kept {id : Nat} {b : Action}
      (found : (s.requestCancels subjects now).actions.get? id = some b) :
      ((s.requestCancels subjects now).deploy t tenant controller d rollout now).actions.get? id =
        some b := by
    rw [Store.get?_deploy, if_neg (Nat.ne_of_lt (between.drawn found))]
    exact found
  have written := requestCancels_writes indexed apart stored
  refine (written now).imp fun subject number ⟨drawn, canceling, cancel⟩ => ?_
  refine after.withdrawn (kept canceling) ?_ (kept cancel)
  -- Nothing has been stored under a number that is drawn now.
  cases found : s.actions.get? number with
  | none => rfl
  | some b => exact absurd (indexed.drawn found) (Nat.not_lt.mpr drawn)

/-- Requests for cancellations and a new deployment store nothing but what they are for. -/
theorem requestCancels_only (stored : ∀ a ∈ subjects, s.actions.get? a.id = some a)
    (between : Indexed (s.requestCancels subjects now)) {t : Target} {d : Deployment} {id : Nat}
    {b : Action}
    (found : ((s.requestCancels subjects now).deploy t tenant controller d rollout now).actions.get?
      id = some b)
    (absent : s.actions.get? id = none) :
    id ∈ List.range' (s.nextNumber sequence) (subjects.length + 1) := by
  have next := Store.nextNumber_requestCancels s subjects now
  rw [List.mem_range'_1]
  rw [Store.get?_deploy] at found
  -- The new action itself takes the last number.
  split at found
  · omega
  · have below := between.drawn found
    by_cases old : id < s.nextNumber sequence
    · -- An older number is that of a subject, or it is not touched.
      have untouched : Untouched id s (s.requestCancels subjects now) := by
        refine .requestCancels old fun a member same => ?_
        rw [same, stored a member] at absent
        cases absent
      rw [untouched.action, absent] at found
      cases found
    -- A newer number was drawn by the requests.
    · omega

/-- A new deployment writes the record of its target and no other. -/
theorem targets_deploy (t : Target) (d : Deployment) (key : String) :
    (s.deploy t tenant controller d rollout now).targets.get? key =
      if key = t.key then some (t.withAssigned d.distributionSet now) else s.targets.get? key :=
  get?_putTarget _ _ key

/-- In single mode, the new deployment alone is in flight to its target. -/
theorem Indexed.deploy_alone (indexed : Indexed s) (single : own.multiAssignments = false)
    (t : Target) (d : Deployment) {a b : Action}
    (between : Indexed (s.requestCancels (replaced own (s.actionsOf tenant controller)) now))
    (new : a = newAction ((s.requestCancels (replaced own (s.actionsOf tenant controller))
      now).nextNumber sequence) tenant controller d rollout now) :
    b ∈ ((s.requestCancels (replaced own (s.actionsOf tenant controller)) now).deploy t tenant
      controller d rollout now).actionsOf tenant controller ∧ b.isInFlight = true ↔ b = a := by
  rw [(between.deploy t tenant controller d rollout now).mem_actionsOf, Store.get?_deploy, new]
  constructor
  · rintro ⟨⟨found, key⟩, inFlight⟩
    split at found
    · exact (Option.some.inj found).symm
    · -- Nothing else is left in flight by the requests.
      have listed := between.mem_actionsOf.mpr ⟨found, key⟩
      rw [indexed.replaced_alone single tenant controller now listed] at inFlight
      cases inFlight
  · rintro rfl
    exact ⟨⟨if_pos rfl, rfl⟩, rfl⟩

/-- Every assignment that does not find its set in flight makes a new deployment. -/
theorem assignIn_replaces (indexed : Indexed s) (paired : Paired s) (keyed : Keyed s) {a : Action}
    {canceled : List Nat}
    (done : assignIn (settings.tenant tenant) tenant controller q rollout now s =
      .ok (.new a canceled, s')) :
    Replaces (settings.tenant tenant) tenant controller q rollout now s s' a canceled := by
  have numbers := assignIn_numbers done
  have assigns := assignIn_eq_ok done
  have steps : Steps settings s s' := assigns.steps indexed
  have after : Paired s' := steps.paired indexed paired
  -- What the transaction has done is known from here on: requests first, then the deployment.
  cases assigns with | new t weight _ between valid found known free replaces =>
  subst replaces
  have middle :=
    (indexed.replaced_requests (settings.tenant tenant) tenant controller now).indexed indexed
  have stored (b : Action) (member : b ∈ replaced (settings.tenant tenant)
      (s.actionsOf tenant controller)) := indexed.replaced_stored member
  have next := Store.nextNumber_requestCancels s
    (replaced (settings.tenant tenant) (s.actionsOf tenant controller)) now
  have key : t.key = Target.keyOf tenant controller := keyed found
  obtain ⟨targets, sets⟩ := requestCancels_frame s
    (replaced (settings.tenant tenant) (s.actionsOf tenant controller)) now
  -- The numbers of the cancellations and that of the deployment are drawn one after another.
  have drawn : canceled ++ [(s.requestCancels (replaced (settings.tenant tenant)
      (s.actionsOf tenant controller)) now).nextNumber sequence] =
      List.range' (s.nextNumber sequence) ((replaced (settings.tenant tenant)
        (s.actionsOf tenant controller)).length + 1) := by
    rw [numbers, next, List.range'_concat, Nat.one_mul]
  -- The record of the new action comes first, then the others, and last what is left alone.
  constructor
  case stored => exact (Store.get?_deploy _ t now tenant controller _ rollout _).trans (if_pos rfl)
  case made => exact ⟨weight, valid, rfl⟩
  case running => rfl
  case active => rfl
  case latest =>
    intro b here
    refine Nat.lt_of_lt_of_le (indexed.drawn here) (Nat.le_trans ?_ (Nat.le_of_eq next.symm))
    exact Nat.le_add_right _ _
  case ordered =>
    rw [newAction_id, drawn]
    exact List.pairwise_lt_range'
  case only =>
    intro id b here absent
    rw [newAction_id, drawn]
    exact requestCancels_only stored middle here absent
  case single =>
    intro single
    have inFlight : replaced (settings.tenant tenant) (s.actionsOf tenant controller) =
        (s.actionsOf tenant controller).filter (·.isInFlight) := by
      simp [replaced, single]
    refine ⟨fun b => indexed.deploy_alone single t _ middle rfl, ?_, fun here others => ?_⟩
    · rw [← inFlight, numbers]
      exact requestCancels_withdrawn indexed (replaced_pairwise _
        (indexed.actionsOf_pairwise tenant controller)) stored middle after
    · rw [← inFlight] at others
      exact .replaced indexed stored here others t _
  case several =>
    intro several
    have nothing : replaced (settings.tenant tenant) (s.actionsOf tenant controller) = [] := by
      simp [replaced, several]
    refine ⟨by rw [numbers, nothing]; rfl, fun here => .replaced indexed stored here ?_ t _⟩
    rw [nothing]
    exact List.not_mem_nil
  case target =>
    refine ⟨t, found, ?_⟩
    rw [Store.target?, targets_deploy, key, if_pos rfl]
    rfl
  case targets =>
    intro other differs
    rw [targets_deploy, key, if_neg differs, targets]
  case sets => exact sets
  case frame => exact steps.frame

end Assignment

end Deployments

end DeviceUpdate

namespace DeviceUpdate.Service

open Deployments (Assigned Replaces)

/-- What an assignment comes to, whether its set is in flight already or not. -/
structure Assigning (own : TenantSettings) (tenant controller : String) (q : AssignmentRequest)
    (now : Instant) (s : Store) : Prop where
  /-- A new deployment replaces what it has to, and leaves all else as it was. -/
  replaces : ∀ {a : Action} {canceled : List Nat} {s' : Store},
    (Deployments.assign own tenant controller q now).run s = (.ok (.new a canceled), s') →
    Replaces own tenant controller q none now s s' a canceled
  /-- Nothing changes exactly if the request is valid and its set is in flight to the target. -/
  already : ∀ {s' : Store},
    (∃ id, (Deployments.assign own tenant controller q now).run s = (.ok (.already id), s')) ↔
      s' = s ∧ (∃ weight, q.validate own now = .ok weight) ∧
        (s.target? tenant controller).isSome = true ∧
        (s.set? tenant q.distributionSet).isSome = true ∧
        ∃ a ∈ s.actionsOf tenant controller, a.isInFlight = true ∧
          ∃ d, a.order = .deploy d ∧ d.distributionSet = q.distributionSet

/-- Assignments replace what is in flight where they have to, in every state of every run. -/
theorem assignments_replace (settings : Settings) (calls : List Call) (tenant controller : String)
    (q : AssignmentRequest) (now : Instant) :
    Assigning (settings.tenant tenant) tenant controller q now (history settings calls).present := by
  have coherent := coherent_history settings calls
  constructor
  case replaces =>
    intro a canceled s' carried
    exact Deployments.assignIn_replaces coherent.indexed coherent.paired
      (keyed_history settings calls) (Transaction.eq_ok_of_run carried)
  case already =>
    intro s'
    rw [← Deployments.assignIn_already_iff]
    -- The manager runs the transaction, so that its success is that of the transaction.
    exact exists_congr fun id =>
      ⟨fun carried => Transaction.eq_ok_of_run carried, fun done => Transaction.run_of_ok done⟩

/-- The second deployment to a target withdraws the first one, by the action between them. -/
example :
    ((Deployments.assign (Settings.standard.tenant "t") "t" "d" ⟨2, .forced, none, none, none⟩
        .epoch).run (history .standard
          [⟨.epoch, .createSet "t" "a" "1" []⟩, ⟨.epoch, .createSet "t" "b" "1" []⟩,
            ⟨.epoch, .createTarget "t" "d" .empty⟩,
            ⟨.epoch, .assign "t" "d" ⟨1, .forced, none, none, none⟩⟩]).present).1 =
      .ok (.new (Deployments.newAction 3 "t" "d" ⟨2, .forced, none, none, none⟩ none .epoch)
        [2]) := by
  decide +kernel

end DeviceUpdate.Service
