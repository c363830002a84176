import DeviceUpdate.Proofs.Service.Ownership

/-! Isolation of tenants: exactly when operations of one stay away from the records of others. -/

namespace DeviceUpdate

open Deployments (Assigned Confined Indexed Keyed Separate Serves)

namespace Service

/-- The tenant under which an operation is issued; what a tick does is issued under none. -/
def Operation.tenant? : Operation → Option String
  | createSet tenant _ _ _ | createTarget tenant _ _ | poll tenant _ _ | describe tenant _ _
  | assign tenant _ _ | cancel tenant _ | rejectCancel tenant _ | report tenant _ _ _ _
  | createRollout tenant _ _ | startRollout tenant _ | pauseRollout tenant _
  | resumeRollout tenant _ | stopRollout tenant _ | markRollout tenant _ => some tenant
  | startDue _ | evaluate _ | markFailed _ _ | purge _ => none

/-- The records that operations of a tenant give back are its own. -/
structure Answers (own : TenantSettings) (tenant : String) (s : Store) : Prop where
  createTarget : ∀ {controller : String} {attributes : Table String String} {now : Instant}
    {t : Target} {s' : Store},
    Deployments.createTarget tenant controller attributes now s = .ok (t, s') → t.tenant = tenant
  poll : ∀ (controller : String) (address : Option String) (now : Instant),
    (Device.touch s tenant controller address now).1.1.tenant = tenant
  describe : ∀ {controller : String} {r : Deployments.AttributeReport} {now : Instant}
    {t : Target} {s' : Store},
    Deployments.updateAttributes tenant controller r now s = .ok (t, s') → t.tenant = tenant
  assign : ∀ {controller : String} {q : AssignmentRequest} {now : Instant} {a : Action}
    {cancels : List Nat} {s' : Store},
    Deployments.assign own tenant controller q now s = .ok (.new a cancels, s') →
    a.tenant = tenant
  /-- Where a deployment is in flight already, it is one of the tenant's. -/
  already : ∀ {controller : String} {q : AssignmentRequest} {now : Instant} {id : Nat}
    {s' : Store}, Deployments.assign own tenant controller q now s = .ok (.already id, s') →
    ∃ a, s.actions.get? id = some a ∧ a.tenant = tenant
  cancel : ∀ {id : Nat} {now : Instant} {a : Action} {s' : Store},
    Deployments.cancel tenant id now s = .ok (a, s') → a.tenant = tenant
  rejectCancel : ∀ {id : Nat} {now : Instant} {a : Action} {s' : Store},
    Deployments.rejectCancel tenant id now s = .ok (a, s') → a.tenant = tenant
  report : ∀ {controller : String} {id : Nat} {f : Feedback} {kind : Bool} {now : Instant}
    {reported : Deployments.Reported} {s' : Store},
    Deployments.report own tenant controller id f kind now s = .ok (reported, s') →
    reported.action.tenant = tenant

/-- The operations of a tenant neither see nor change records of others. -/
structure Isolated (settings : Settings) (h : History) (tenant : String) : Prop where
  target : ∀ {controller : String} {t : Target}, h.present.target? tenant controller = some t →
    t.tenant = tenant
  targets : ∀ {t : Target}, t ∈ h.present.targetsOf tenant → t.tenant = tenant
  action : ∀ {id : Nat} {a : Action}, h.present.action? tenant id = some a → a.tenant = tenant
  actions : ∀ {controller : String} {a : Action}, a ∈ h.present.actionsOf tenant controller →
    a.tenant = tenant
  selects : ∀ {filter : String} {names : List String},
    Rollouts.select h.present tenant filter = .ok names → ∀ name ∈ names,
    ∃ t ∈ h.present.targetsOf tenant, t.tenant = tenant ∧ t.controller = name
  answers : Answers (settings.tenant tenant) tenant h.present
  confined : ∀ {c : Call}, c.operation.tenant? = some tenant →
    Confined tenant h.present (h.next settings c).present

/-- No record of another tenant stands where one of the tenant could stand. -/
structure Apart (tenant : String) (s : Store) : Prop where
  targets : ∀ {key : String} {t : Target}, s.targets.get? key = some t →
    ¬ Target.Collides tenant t.tenant t.controller
  actions : ∀ {id : Nat} {a : Action}, s.actions.get? id = some a →
    ¬ Target.Collides tenant a.tenant a.controller

section Lookups

variable {tenant : String} {s : Store}

/-- The targets that are listed for a tenant are those that it finds under a key of its own. -/
theorem mem_targetsOf {t : Target} :
    t ∈ s.targetsOf tenant ↔ ∃ name, s.target? tenant name = some t := by
  simp only [Store.targetsOf, List.mem_map, List.mem_filter, Store.target?]
  constructor
  · rintro ⟨⟨key, t⟩, ⟨member, start⟩, rfl⟩
    -- What follows the slash in the key is the name.
    obtain ⟨rest, split⟩ := List.isPrefixOf_iff_prefix.mp start
    refine ⟨String.ofList rest, ?_⟩
    have same : key = Target.keyOf tenant (String.ofList rest) := by
      rw [← String.toList_inj, ← split, Target.toList_keyOf, Target.toList_keyOf]
      simp
    rw [← same]
    exact Table.mem_entries_iff.mp member
  -- Any name behind the slash gives a key with the prefix of the tenant.
  · rintro ⟨name, found⟩
    refine ⟨(Target.keyOf tenant name, t), ⟨Table.mem_entries_iff.mpr found, ?_⟩, rfl⟩
    rw [List.isPrefixOf_iff_prefix, Target.toList_keyOf, Target.toList_keyOf]
    exact ⟨name.toList, by simp⟩

/-- The names that a filter selects are those of listed targets. -/
theorem mem_select {filter : String} {names : List String}
    (done : Rollouts.select s tenant filter = .ok names) {name : String} (member : name ∈ names) :
    ∃ t ∈ s.targetsOf tenant, t.controller = name := by
  unfold Rollouts.select at done
  split at done
  · cases done
  -- The names are those of the listed targets that the filter admits, in another order.
  · rw [← Except.ok.inj done, List.mem_mergeSort, List.mem_map] at member
    obtain ⟨t, admitted, named⟩ := member
    exact ⟨t, (List.mem_filter.mp admitted).1, named⟩

/-- Records do not collide exactly if the tenant finds its own alone. -/
theorem apart_iff (indexed : Indexed s) (keyed : Keyed s) :
    Apart tenant s ↔ Separate tenant s := by
  constructor
  · intro apart
    constructor
    -- What the tenant finds stands under a key of the tenant.
    · intro controller t found
      by_contra other
      exact apart.targets found ⟨other, controller, keyed found⟩
    · intro controller a listed
      obtain ⟨stored, key⟩ := indexed.mem_actionsOf.mp listed
      by_contra other
      exact apart.actions stored ⟨other, controller, key⟩
  · intro separate
    constructor
    -- A target that collides is found by the tenant under the name that it collides with.
    · rintro key t found ⟨other, name, same⟩
      have key : t.key = key := keyed found
      have here : s.target? tenant name = some t := by
        rw [Store.target?, ← same, ← Target.key, key]
        exact found
      exact other (separate.targets here)
    · rintro id a stored ⟨other, name, same⟩
      have number := indexed.own stored
      rw [← number] at stored
      exact other (separate.actions (indexed.mem_actionsOf.mpr ⟨stored, same⟩))

end Lookups

section Operations

variable {settings : Settings} {started : Nat → Prop} {tenant : String} {s : Store} {h : History}
  {c : Call}

/-- A tenant that finds its own alone gives its own back. -/
theorem answers_of_separate (separate : Separate tenant s) (indexed : Indexed s)
    (paired : Deployments.Paired s) (own : TenantSettings) : Answers own tenant s where
  -- What a request answers with has been looked up for the tenant or is made for it.
  createTarget done := by
    rw [(Deployments.createTarget_eq_ok done).2.1]
    rfl
  poll controller address now := by
    cases known : s.target? tenant controller with
    | none => simp [Device.touch, Device.polled, known, Target.new]
    | some t =>
      have owner := separate.targets known
      simpa [Device.touch, Device.polled, known] using owner
  describe done := by
    obtain ⟨known, found, same, -⟩ := Deployments.updateAttributes_eq_ok done
    rw [same]
    have owner : known.tenant = tenant := separate.targets found
    exact owner
  assign done := by
    have assigns := Deployments.assignIn_eq_ok done
    cases assigns
    rfl
  already done := by
    have assigns := Deployments.assignIn_eq_ok done
    -- What is in flight already has been looked up among the actions of the target.
    cases assigns with | already a current =>
    have listed := List.mem_of_find?_eq_some current
    exact ⟨a, (indexed.mem_actionsOf.mp listed).1, separate.actions listed⟩
  cancel done := by
    obtain ⟨subject, found, -, same, -⟩ := Deployments.cancel_eq_ok done
    rw [same]
    exact (indexed.action?_eq_some found).2.2
  rejectCancel done := by
    obtain ⟨cancel, subject, -, -, owner, -⟩ :=
      Deployments.rejectCancel_resumption indexed paired done
    exact owner
  report done := by
    obtain ⟨a, -, -, -, owner, -⟩ := Deployments.report_reporting indexed paired done
    exact owner

/-- A transaction is confined if its success is. -/
theorem confined_run {ε α : Type} (t : Transaction ε α)
    (succeeds : ∀ a s', t s = .ok (a, s') → Confined tenant s s') :
    Confined tenant s (t.run s).2 := by
  rcases t.run_cases s with same | ⟨a, done⟩
  · rw [same]
    exact .refl tenant s
  · exact succeeds a _ done

/-- What belongs to the rollouts alone is confined. -/
theorem confined_of_frame {s' : Store} (frame : Rollouts.Frame s s') : Confined tenant s s' :=
  .of_eq frame.targets frame.actions

/-- The poll of a device of the tenant is confined. -/
theorem confined_touch (separate : Separate tenant s) (keyed : Keyed s) (controller : String)
    (address : Option String) (now : Instant) :
    Confined tenant s (Device.touch s tenant controller address now).2 := by
  unfold Device.touch
  -- A poll writes the target that it finds, or makes one where it finds none.
  cases known : s.target? tenant controller with
  | some t =>
    exact .putFound (.refl tenant s) rfl keyed known (separate.targets known) rfl rfl
  | none => exact .putNew known rfl rfl

/-- A target that the tenant creates stands under a key that nothing has been found under. -/
theorem confined_createTarget {controller : String} {attributes : Table String String}
    {now : Instant} {result : Target} {s' : Store}
    (done : Deployments.createTarget tenant controller attributes now s = .ok (result, s')) :
    Confined tenant s s' := by
  obtain ⟨absent, given, same⟩ := Deployments.createTarget_eq_ok done
  rw [same]
  subst given
  exact .putNew absent rfl rfl

/-- Attributes are accepted for a target that the tenant finds, which is its own. -/
theorem confined_describe (separate : Separate tenant s) (keyed : Keyed s) {controller : String}
    {r : Deployments.AttributeReport} {now : Instant} {result : Target} {s' : Store}
    (done : Deployments.updateAttributes tenant controller r now s = .ok (result, s')) :
    Confined tenant s s' := by
  obtain ⟨known, found, given, same⟩ := Deployments.updateAttributes_eq_ok done
  rw [same]
  subst given
  exact .putFound (.refl tenant s) rfl keyed found (separate.targets found) rfl rfl

/-- A deployment is cancelled only by the tenant that it belongs to. -/
theorem confined_cancel (indexed : Indexed s) {id : Nat} {now : Instant} {a : Action} {s' : Store}
    (done : Deployments.cancel tenant id now s = .ok (a, s')) : Confined tenant s s' := by
  obtain ⟨subject, found, -, -, same⟩ := Deployments.cancel_eq_ok done
  obtain ⟨stored, -, own⟩ := indexed.action?_eq_some found
  rw [same]
  exact .requestCancel indexed stored own now

/-- A refused cancellation and its deployment are of the same tenant. -/
theorem confined_rejectCancel (indexed : Indexed s) (paired : Deployments.Paired s) {id : Nat}
    {now : Instant} {a : Action} {s' : Store}
    (done : Deployments.rejectCancel tenant id now s = .ok (a, s')) : Confined tenant s s' := by
  obtain ⟨cancel, subject, -, own, -, resumption⟩ :=
    Deployments.rejectCancel_resumption indexed paired done
  exact resumption.confined paired own

/-- A report is about an action of the tenant, and its target is one that the tenant finds. -/
theorem confined_report (indexed : Indexed s) (paired : Deployments.Paired s) (keyed : Keyed s)
    (separate : Separate tenant s) {controller : String} {id : Nat} {f : Feedback} {cancel : Bool}
    {now : Instant} {own : TenantSettings} {reported : Deployments.Reported} {s' : Store}
    (done : Deployments.report own tenant controller id f cancel now s = .ok (reported, s')) :
    Confined tenant s s' := by
  obtain ⟨a, found, -, -, -, reporting⟩ := Deployments.report_reporting indexed paired done
  obtain ⟨stored, -, own⟩ := indexed.action?_eq_some found
  exact reporting.confined paired keyed separate stored own

/-- The moves of a rollout by an administrator are all alike, apart from its stop. -/
theorem confined_transition {id : Nat} {expected : List RolloutStatus} {status : RolloutStatus}
    {operation : Rollouts.Operation} :
    Confined tenant s ((Rollouts.transition tenant id expected status operation).run s).2 := by
  refine confined_run _ fun _ _ done => ?_
  obtain ⟨r, -, -, -, same⟩ := Rollouts.transition_eq_ok done
  rw [same]
  exact .of_eq rfl rfl

/-- The stop of a rollout of the tenant is confined. -/
theorem confined_stop (coherent : Coherent started s) (owned : Rollouts.Owned s) {id : Nat}
    {now : Instant} {stopped : Rollout} {s' : Store}
    (done : Rollouts.stop tenant id now s = .ok (stopped, s')) : Confined tenant s s' := by
  obtain ⟨r, stored, owner, -, requests⟩ := Rollouts.stop_eq_ok coherent done
  have indexed := coherent.indexed
  have move : Confined tenant s (s.putRollout { r with status := .stopped }) := .of_eq rfl rfl
  refine move.trans (requests.confined (indexed.putRollout _) ?_)
  -- What is cancelled has been deployed for a group of the rollout, so for its tenant.
  rintro a here inFlight ⟨g, member, m, names, group⟩
  obtain ⟨storedG, own⟩ := coherent.placed.mem_groupsOf.mp member
  have serves : Serves a m := ⟨(Action.isInFlight_iff.mp inFlight).2.1, names⟩
  obtain ⟨r', known, same⟩ := owned here serves (by rw [group]; exact storedG)
  rw [own, stored] at known
  rw [← same, ← Option.some.inj known, owner]

/-- Every operation of a tenant that finds its own alone is confined. -/
theorem Call.confined (issued : c.operation.tenant? = some tenant)
    (coherent : Coherent started h.present) (keyed : Keyed h.present)
    (owned : Rollouts.Owned h.present) (separate : Separate tenant h.present) :
    Confined tenant h.present (c.apply settings h) := by
  obtain ⟨now, operation⟩ := c
  have indexed := coherent.indexed
  have paired := coherent.paired
  cases operation with
  | createSet owner name version modules =>
    refine confined_run _ fun _ _ done => ?_
    rw [(Deployments.createSet_eq_ok done).2]
    exact .of_eq rfl rfl
  | createTarget owner controller attributes =>
    -- A call under the tenant writes its own targets only; a refused one writes nothing.
    cases issued
    exact confined_run _ fun _ _ done => confined_createTarget done
  | poll owner controller address =>
    cases issued
    exact confined_touch separate keyed controller address now
  | describe owner controller r =>
    cases issued
    exact confined_run _ fun _ _ done => confined_describe separate keyed done
  | assign owner controller q =>
    cases issued
    refine confined_run _ fun _ _ done => ?_
    exact (Deployments.assignIn_eq_ok done).confined indexed keyed separate
  | cancel owner id =>
    cases issued
    exact confined_run _ fun _ _ done => confined_cancel indexed done
  | rejectCancel owner id =>
    cases issued
    exact confined_run _ fun _ _ done => confined_rejectCancel indexed paired done
  | report owner controller id f cancel =>
    cases issued
    exact confined_run _ fun _ _ done => confined_report indexed paired keyed separate done
  -- A rollout is planned without any target or action.
  | createRollout owner q since =>
    simp only [Call.apply]
    -- The plan is stored, or a refusal leaves everything as it is.
    split
    · refine confined_run _ fun _ _ done => ?_
      rw [Rollouts.storePlanned_eq_ok done]
      exact confined_of_frame (Rollouts.Step.created h.present owner q _ _ now).frame
    · exact .refl tenant _
  | startRollout owner id =>
    refine confined_run _ fun _ _ done => ?_
    -- A start that was refused or done before is none.
    rcases Rollouts.start_eq_ok coherent.placed done with rfl | start
    · exact .refl tenant _
    · exact confined_of_frame start.frame
  | pauseRollout owner id => cases issued; exact confined_transition
  | resumeRollout owner id => cases issued; exact confined_transition
  | markRollout owner id => cases issued; exact confined_transition
  | stopRollout owner id =>
    cases issued
    exact confined_run _ fun _ _ done => confined_stop coherent owned done
  -- What a tick does is issued under no tenant.
  | startDue id => cases issued
  | evaluate id => cases issued
  | markFailed id since => cases issued
  | purge id => cases issued

/-- A tenant that finds its own alone is isolated. -/
theorem isolated_of_separate {calls : List Call}
    (separate : Separate tenant (history settings calls).present) :
    Isolated settings (history settings calls) tenant := by
  have coherent := coherent_history settings calls
  have keyed := keyed_history settings calls
  have owned := owned_history settings calls
  -- The listed targets are found under keys of the tenant, and these are its own.
  have listed {t : Target} (member : t ∈ (history settings calls).present.targetsOf tenant) :
      t.tenant = tenant := by
    obtain ⟨name, found⟩ := mem_targetsOf.mp member
    exact separate.targets found
  refine ⟨separate.targets, listed, fun found => (coherent.indexed.action?_eq_some found).2.2,
    separate.actions, fun done name member => ?_,
    answers_of_separate separate coherent.indexed coherent.paired _,
    fun issued => Call.confined issued coherent keyed owned separate⟩
  obtain ⟨t, here, named⟩ := mem_select done member
  exact ⟨t, here, listed here, named⟩

end Operations

/-- A tenant is isolated exactly as long as no record of another stands where its own could. -/
theorem isolated_iff (settings : Settings) (calls : List Call) (tenant : String) :
    Isolated settings (history settings calls) tenant ↔
      Apart tenant (history settings calls).present := by
  rw [apart_iff (coherent_history settings calls).indexed (keyed_history settings calls)]
  exact ⟨fun isolated => ⟨isolated.target, isolated.actions⟩, isolated_of_separate⟩

/-- A run in which a target is created for a tenant with a slash in its name. -/
def slashed : List Call :=
  [⟨.epoch, .createTarget "a/b" "c" .empty⟩]

/-- What stands in front of the slash is the name of a tenant, too, which finds that target. -/
theorem slashed_not_isolated : ¬ Isolated .standard (history .standard slashed) "a" := by
  intro isolated
  have found : ((history .standard slashed).present.target? "a" "b/c").any
      fun t => t.tenant == "a/b" := by
    decide +kernel
  obtain ⟨t, here, other⟩ := (Option.any_eq_true _ _).mp found
  rw [isolated.target here] at other
  cases other

end Service

end DeviceUpdate
