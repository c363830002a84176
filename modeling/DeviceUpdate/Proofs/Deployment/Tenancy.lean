import DeviceUpdate.Proofs.Deployment.Administration
import DeviceUpdate.Proofs.Deployment.Origin
import DeviceUpdate.Proofs.Target

/-! What operations of a tenant leave alone: the targets and actions of all others. -/

namespace DeviceUpdate.Deployments

/-- The targets and actions of other tenants are the same before and after. -/
structure Confined (tenant : String) (s s' : Store) : Prop where
  targets : ∀ {key : String} {t : Target}, t.tenant ≠ tenant →
    (s'.targets.get? key = some t ↔ s.targets.get? key = some t)
  actions : ∀ {id : Nat} {a : Action}, a.tenant ≠ tenant →
    (s'.actions.get? id = some a ↔ s.actions.get? id = some a)

/-- Targets stand under their own keys. -/
def Keyed (s : Store) : Prop :=
  ∀ ⦃key : String⦄ ⦃t : Target⦄, s.targets.get? key = some t → t.key = key

/-- What a tenant finds under its own keys is its own. -/
structure Separate (tenant : String) (s : Store) : Prop where
  targets : ∀ {controller : String} {t : Target}, s.target? tenant controller = some t →
    t.tenant = tenant
  actions : ∀ {controller : String} {a : Action}, a ∈ s.actionsOf tenant controller →
    a.tenant = tenant

section Keys

variable {settings : Settings} {s s' : Store}

/-- Nothing is stored at the start. -/
theorem keyed_empty : Keyed .empty := by
  intro key t found
  simp [Store.empty] at found

/-- A target is found under its key once it is stored, and all others as before. -/
theorem get?_putTarget (s : Store) (t : Target) (key : String) :
    (s.putTarget t).targets.get? key = if key = t.key then some t else s.targets.get? key :=
  Table.get?_insert s.targets t.key key t

/-- Where the targets are the same, they stand as they stood. -/
theorem Keyed.unchanged (keyed : Keyed s) (same : s'.targets = s.targets) : Keyed s' := by
  intro key t found
  rw [same] at found
  exact keyed found

/-- Storing a target puts it under its key. -/
theorem Keyed.putTarget (keyed : Keyed s) (t : Target) : Keyed (s.putTarget t) := by
  intro key other found
  rw [get?_putTarget] at found
  split at found
  · rename_i here
    rw [here, Option.some.inj found]
  · exact keyed found

/-- Every step leaves targets under their keys. -/
theorem Step.keyed (step : Step settings s s') (keyed : Keyed s) : Keyed s' := by
  cases step with
  | published | requested | progressed => exact keyed.unchanged rfl
  | registered | polled | described => exact keyed.putTarget _
  | deployed | closed => exact Keyed.putTarget (keyed.unchanged rfl) _
  | superseded cancel a d t f now pending deploys room closing found =>
    have closed : Keyed (s.close a d.distributionSet t f now) :=
      Keyed.putTarget (keyed.unchanged rfl) _
    -- The cancellation that ends with the deployment has no target of its own.
    exact closed.unchanged rfl
  | confirmed => exact Keyed.putTarget (keyed.unchanged rfl) _

end Keys

section Changes

variable {tenant : String} {s s' s'' : Store} {a cancel subject : Action} {now : Instant}

theorem Confined.refl (tenant : String) (s : Store) : Confined tenant s s :=
  ⟨fun _ => Iff.rfl, fun _ => Iff.rfl⟩

theorem Confined.trans (first : Confined tenant s s') (second : Confined tenant s' s'') :
    Confined tenant s s'' :=
  ⟨fun other => (second.targets other).trans (first.targets other),
    fun other => (second.actions other).trans (first.actions other)⟩

/-- What changes neither targets nor actions is confined. -/
theorem Confined.of_eq (targets : s'.targets = s.targets) (actions : s'.actions = s.actions) :
    Confined tenant s s' :=
  ⟨fun _ => by rw [targets], fun _ => by rw [actions]⟩

/-- A target of the tenant may be stored where no other tenant has one. -/
theorem Confined.putTarget {t : Target} (own : t.tenant = tenant)
    (covered : ∀ b, s.targets.get? t.key = some b → b.tenant = tenant) :
    Confined tenant s (s.putTarget t) := by
  refine ⟨fun {key other} apart => ?_, fun _ => Iff.rfl⟩
  rw [get?_putTarget]
  split
  -- Under the key there is and was no target of another tenant.
  · rename_i here
    constructor
    · intro equal
      rw [← Option.some.inj equal] at apart
      exact absurd own apart
    · intro found
      rw [here] at found
      exact absurd (covered other found) apart
  · exact Iff.rfl

/-- A target of the tenant may be stored where the tenant finds none. -/
theorem Confined.putNew {controller : String} {t : Target}
    (absent : s.target? tenant controller = none) (own : t.tenant = tenant)
    (key : t.key = Target.keyOf tenant controller) : Confined tenant s (s.putTarget t) := by
  refine .putTarget own fun b here => ?_
  rw [key] at here
  exact absurd (absent.symm.trans here) (by simp)

/-- After changes of actions, the target that a tenant has found under its key may change. -/
theorem Confined.putFound (before : Confined tenant s s') (same : s'.targets = s.targets)
    (keyed : Keyed s) {controller : String} {t t' : Target}
    (found : s.target? tenant controller = some t) (own : t.tenant = tenant)
    (key : t'.key = t.key) (owner : t'.tenant = t.tenant) :
    Confined tenant s (s'.putTarget t') := by
  refine before.trans (.putTarget (owner.trans own) fun b here => ?_)
  -- The changed target has the key of the one that was found, so it takes its place.
  rw [same, key, keyed found] at here
  rw [Option.some.inj (here.symm.trans found)]
  exact own

/-- An action of the tenant may be stored under a number of its own. -/
theorem Confined.record {e : LogEntry} (own : a.tenant = tenant)
    (covered : ∀ b, s.actions.get? a.id = some b → b.tenant = tenant) :
    Confined tenant s (s.record a e) := by
  refine ⟨fun _ => Iff.rfl, fun {id other} apart => ?_⟩
  rw [Store.get?_record]
  split
  -- Neither what is recorded nor what it replaces is of another tenant.
  · rename_i here
    constructor
    · intro equal
      rw [← Option.some.inj equal] at apart
      exact absurd own apart
    · intro found
      rw [here] at found
      exact absurd (covered other found) apart
  · exact Iff.rfl

/-- A stored action of the tenant may move. -/
theorem Confined.moved {status : Status} {active : Bool} {e : LogEntry}
    (stored : s.actions.get? a.id = some a) (own : a.tenant = tenant) :
    Confined tenant s (s.record (a.moved status active now) e) := by
  refine .record own fun b here => ?_
  rw [Action.moved_id, stored] at here
  rw [← Option.some.inj here]
  exact own

/-- Drawing a number changes neither targets nor actions. -/
theorem Confined.advance (tenant : String) (s : Store) (drawn : String) :
    Confined tenant s (s.advance drawn) :=
  .of_eq rfl rfl

/-- The cancellation of a deployment of the tenant is confined. -/
theorem Confined.requestCancel (indexed : Indexed s) (stored : s.actions.get? a.id = some a)
    (own : a.tenant = tenant) (now : Instant) : Confined tenant s (s.requestCancel a now) := by
  unfold Store.requestCancel
  refine Confined.trans (.advance tenant s sequence) (.trans (.moved stored own)
    (.record own fun b here => ?_))
  -- Nothing is stored under the number of the new action.
  have other : s.nextNumber sequence ≠ a.id := by
    have below := indexed.drawn stored
    omega
  simp [Action.cancelling, other, indexed.next_absent] at here

/-- What is in flight after requests for cancellations was in flight before. -/
theorem Requests.inFlight {test : Action → Prop} (requests : Requests test now s s')
    (found : s'.actions.get? a.id = some a) (inFlight : a.isInFlight = true) :
    s.actions.get? a.id = some a := by
  -- A request adds no action in flight, so whatever is in flight was there before the requests.
  induction requests with
  | refl => exact found
  | tail _ request ih =>
    obtain ⟨subject, -, -, -, same⟩ := request
    rw [same] at found
    exact ih (inFlight_requestCancel found inFlight).1

/-- Requests about deployments of the tenant are confined. -/
theorem Requests.confined {test : Action → Prop} (requests : Requests test now s s')
    (indexed : Indexed s) (own : ∀ a, s.actions.get? a.id = some a → a.isInFlight = true →
      test a → a.tenant = tenant) : Confined tenant s s' := by
  induction requests with
  | refl => exact .refl tenant s
  | tail before request ih =>
    obtain ⟨subject, stored, inFlight, passes, same⟩ := request
    have between : Indexed _ := Requests.indexed before indexed
    -- The subject is in flight, so it has been stored like that from the start.
    have first := Requests.inFlight before stored inFlight
    rw [same]
    exact ih.trans (.requestCancel between stored (own subject first inFlight passes) now)

/-- A new deployment to a target of the tenant is confined. -/
theorem Confined.deploy (indexed : Indexed s) (keyed : Keyed s) {controller : String} {t : Target}
    (found : s.target? tenant controller = some t) (own : t.tenant = tenant) (d : Deployment)
    (rollout : Option Membership) (now : Instant) :
    Confined tenant s (s.deploy t tenant controller d rollout now) := by
  -- The deployment takes a number under which nothing is stored.
  have records (e : LogEntry) : Confined tenant (s.advance sequence) ((s.advance sequence).record
      (newAction (s.nextNumber sequence) tenant controller d rollout now) e) :=
    .record rfl fun b here => by simp [newAction, indexed.next_absent] at here
  exact .putFound ((Confined.advance tenant s sequence).trans (records _)) rfl keyed found own rfl
    rfl

/-- The end of a deployment of the tenant is confined. -/
theorem Confined.close (keyed : Keyed s) (stored : s.actions.get? a.id = some a)
    (own : a.tenant = tenant) {t : Target} (found : s.target? a.tenant a.controller = some t)
    (ownTarget : t.tenant = tenant) (set : Nat) (f : Feedback) (now : Instant) :
    Confined tenant s (s.close a set t f now) := by
  subst own
  -- However it ends, the target stays under its key and with its tenant.
  have kind (others : Bool) : (t.closed f.outcome set others now).key = t.key ∧
      (t.closed f.outcome set others now).tenant = t.tenant := by
    cases outcome : f.outcome <;> exact ⟨rfl, rfl⟩
  exact .putFound (.moved stored rfl) rfl keyed found ownTarget (kind _).1 (kind _).2

/-- An assignment of the tenant is confined, where the tenant finds only what is its own. -/
theorem Assigns.confined {own : TenantSettings} {controller : String} {q : AssignmentRequest}
    {rollout : Option Membership} {assigned : Assigned}
    (assigns : Assigns own tenant controller q rollout now s assigned s') (indexed : Indexed s)
    (keyed : Keyed s) (separate : Separate tenant s) : Confined tenant s s' := by
  cases assigns with
  | already a current => exact .refl tenant s
  -- What is requested and what is deployed are all of the tenant.
  | new t weight cancels between valid found known free replaces =>
    have requests : Requests (· ∈ s.actionsOf tenant controller) now s between := by
      rw [replaces]
      exact indexed.replaced_requests own tenant controller now
    have cancelled : Confined tenant s between :=
      requests.confined indexed fun a _ _ listed => separate.actions listed
    -- The cancellations leave the target as it was found.
    have same : between.targets = s.targets := by
      rw [replaces]
      exact (requestCancels_frame s _ now).1
    have here : between.target? tenant controller = some t := by
      rw [Store.target?, same]
      exact found
    exact cancelled.trans (.deploy (requests.indexed indexed) (keyed.unchanged same) here
      (separate.targets found) _ _ _)

/-- A report on an action of the tenant is confined, where the target is its own. -/
theorem Reporting.confined {f : Feedback} (reporting : Reporting a f now s s')
    (paired : Paired s) (keyed : Keyed s) (separate : Separate tenant s)
    (stored : s.actions.get? a.id = some a) (own : a.tenant = tenant) :
    Confined tenant s s' := by
  cases reporting with
  | progressed step going reported =>
    -- A report without consequences writes the action as it was.
    rcases Action.report_moved reported with stays | ⟨status, active, moved⟩
    · rw [stays]
      refine .record own fun b here => ?_
      rw [Option.some.inj (here.symm.trans stored)]
      exact own
    · rw [moved]
      exact .moved stored own
  | closed d t deploys closing inFlight found =>
    exact .close keyed stored own found (separate.targets (own ▸ found)) _ _ _
  | superseded cancel d t pending deploys closing found =>
    have closes : Confined tenant s (s.close a d.distributionSet t f now) :=
      .close keyed stored own found (separate.targets (own ▸ found)) _ _ _
    -- The cancellation is of the same tenant, and stands where it stood.
    have kept : (s.close a d.distributionSet t f now).actions.get? cancel.id = some cancel := by
      rw [Store.get?_close, if_neg pending.id_ne]
      exact pending.cancelStored
    exact closes.trans (.moved kept ((pending.owner paired).symm.trans own))
  -- Both parts of the pair and their target are of the tenant.
  | confirmed subject t pending closing found =>
    subst own
    have kept (e : LogEntry) : (s.record (a.moved .canceled false now) e).actions.get? subject.id =
        some subject := by
      rw [Store.get?_record, Action.moved_id, if_neg (Ne.symm pending.id_ne)]
      exact pending.subjectStored
    exact .putFound ((Confined.moved stored rfl).trans (.moved (kept _) (pending.owner paired))) rfl
      keyed found (separate.targets found) rfl rfl

/-- The refusal of a cancellation of the tenant is confined. -/
theorem Resumption.confined (resumption : Resumption cancel subject s s') (paired : Paired s)
    (own : cancel.tenant = tenant) : Confined tenant s s' := by
  cases resumption with | resumed now pending =>
  -- The subject is still stored as it was when the cancellation has ended.
  have kept (e : LogEntry) : (s.record (cancel.moved .cancelRejected false now) e).actions.get?
      subject.id = some subject := by
    rw [Store.get?_record, Action.moved_id, if_neg (Ne.symm pending.id_ne)]
    exact pending.subjectStored
  exact (Confined.moved pending.cancelStored own).trans
    (.moved (kept _) ((pending.owner paired).trans own))

end Changes

end DeviceUpdate.Deployments
