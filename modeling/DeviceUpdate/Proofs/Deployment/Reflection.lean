import DeviceUpdate.Proofs.Deployment.Closed
import DeviceUpdate.Proofs.Deployment.Evolution
import DeviceUpdate.Proofs.Deployment.Tenancy

/-! What the record of a target shows of the deployments in flight to it. -/

namespace DeviceUpdate

/-- The distribution set that an action deploys. -/
def Action.set? (a : Action) : Option Nat :=
  a.deployment?.map (·.distributionSet)

@[simp] theorem Action.moved_set? (a : Action) (status : Status) (active : Bool) (now : Instant) :
    (a.moved status active now).set? = a.set? := rfl

namespace Deployments

/-- In an earlier state, one deployment was stored and the other one active. -/
def Met (past : List Store) (stored running : Nat) : Prop :=
  ∃ s ∈ past, (∃ a, s.actions.get? stored = some a) ∧
    ∃ b, s.actions.get? running = some b ∧ b.active = true

/-- In an earlier state, one deployment had ended and the other one was active. -/
def Outlived (past : List Store) (ended running : Nat) : Prop :=
  ∃ s ∈ past, (∃ a, s.actions.get? ended = some a ∧ a.active = false) ∧
    ∃ b, s.actions.get? running = some b ∧ b.active = true

/-- What had ended in an earlier state is found as it was. -/
def Endures (past : List Store) (s : Store) : Prop :=
  ∀ before ∈ past, ∀ ⦃id : Nat⦄ ⦃a : Action⦄, before.actions.get? id = some a → a.active = false →
    s.actions.get? id = some a

/-- A deployment to a target that has ended with a status. -/
structure Ended (s : Store) (tenant controller : String) (status : Status) (a : Action) : Prop where
  listed : a ∈ s.actionsOf tenant controller
  deploys : a.isCancel = false
  status : a.status = status

/-- The deployment that has been assigned to a target last. -/
structure Latest (s : Store) (tenant controller : String) (a : Action) : Prop where
  listed : a ∈ s.actionsOf tenant controller
  deploys : a.isCancel = false
  newest : ∀ b ∈ s.actionsOf tenant controller, b.isCancel = false → b.id ≤ a.id

/-- Every failure since a deployment was assigned has been followed by a success. -/
def Recovered (past : List Store) (s : Store) (tenant controller : String) (last : Action) : Prop :=
  ∀ failed, Ended s tenant controller .error failed → Met past last.id failed.id →
    ∃ done, Ended s tenant controller .finished done ∧ Outlived past failed.id done.id

/-- No deployment of the same set has been given up since a deployment was assigned. -/
def Upheld (past : List Store) (s : Store) (tenant controller : String) (last : Action) : Prop :=
  ∀ canceled, Ended s tenant controller .canceled canceled → Met past last.id canceled.id →
    canceled.set? ≠ last.set?

/-- What a target shows while deployments to it are in flight. -/
structure Shows (past : List Store) (s : Store) (tenant controller : String) (last : Action)
    (t : Target) : Prop where
  /-- It never passes for settled. -/
  unsettled : t.status = .pending ∨ t.status = .error
  pending : Recovered past s tenant controller last → t.status = .pending
  assigned : Upheld past s tenant controller last → t.assigned = last.set?

/-- The record of a target tells of the deployment that has been assigned last. -/
structure Reflects (settings : Settings) (past : List Store) (s : Store)
    (tenant controller : String) : Prop where
  shown : ∀ a ∈ s.actionsOf tenant controller, a.isInFlight = true →
    ∃ last t, Latest s tenant controller last ∧ s.target? tenant controller = some t ∧
      Shows past s tenant controller last t
  /-- Where only one deployment may be in flight, it is that one. -/
  alone : (∀ b ∈ s.actionsOf tenant controller,
      (settings.tenant b.tenant).multiAssignments = false) →
    ∀ a ∈ s.actionsOf tenant controller, a.isInFlight = true → Latest s tenant controller a

section Shows

variable {settings : Settings} {past : List Store} {s s' : Store} {tenant controller : String}
  {a b last : Action} {t : Target}

/-- A deployment has a distribution set. -/
theorem set?_of_deploys (deploys : a.isCancel = false) : ∃ set, a.set? = some set := by
  cases order : a.order with
  | deploy d => exact ⟨d.distributionSet, by simp [Action.set?, Action.deployment?, order]⟩
  | cancel id =>
    rw [Action.isCancel_of_names order] at deploys
    cases deploys

/-- An action that has ended for good is not active. -/
theorem Ended.inactive {status : Status} (ended : Ended s tenant controller status a)
    (indexed : Indexed s) (paired : Paired s) (ends : status ∈ Status.ends) : a.active = false := by
  refine (paired.ended (indexed.mem_actionsOf.mp ended.listed).1).mpr ?_
  rw [ended.status]
  exact ends

/-- What has ended is listed after every step as it was. -/
theorem Ended.step {status : Status} (ended : Ended s tenant controller status a)
    (step : Step settings s s') (indexed : Indexed s) (paired : Paired s)
    (ends : status ∈ Status.ends) : Ended s' tenant controller status a := by
  obtain ⟨stored, own⟩ := indexed.mem_actionsOf.mp ended.listed
  have untouched := step.untouched indexed stored (ended.inactive indexed paired ends)
  exact ⟨(step.indexed indexed).mem_actionsOf.mpr ⟨untouched.action.trans stored, own⟩,
    ended.deploys, ended.status⟩

/-- What has ended in the present state is found there as it is. -/
theorem Endures.noted (endures : Endures past s) : Endures (s :: past) s := by
  intro before member id a found closed
  rcases List.mem_cons.mp member with rfl | earlier
  · exact found
  · exact endures before earlier found closed

/-- What has not ended yet had not ended in any earlier state. -/
theorem Endures.not_outlived (endures : Endures past s) (stored : s.actions.get? a.id = some a)
    (active : a.active = true) (other : Nat) : ¬ Outlived past a.id other := by
  rintro ⟨before, member, ⟨c, found, closed⟩, -⟩
  have same : c = a := Option.some.inj ((endures before member found closed).symm.trans stored)
  rw [same, active] at closed
  cases closed

/-- Another deployment that is in flight to the same target is found. -/
theorem Indexed.othersInFlight (indexed : Indexed s) (stored : s.actions.get? b.id = some b)
    (inFlight : b.isInFlight = true) (own : b.targetKey = a.targetKey) {except : Nat}
    (other : b.id ≠ except) : othersInFlight s a except = true := by
  refine List.any_eq_true.mpr ⟨b, indexed.mem_actionsOf.mpr ⟨stored, own⟩, ?_⟩
  simp [inFlight, other]

/-- What holds of all failures later held of those that there were. -/
theorem Recovered.before (recovered : Recovered past s' tenant controller last)
    (failures : ∀ k, Ended s tenant controller .error k → Ended s' tenant controller .error k)
    (successes : ∀ k, Ended s' tenant controller .finished k →
      Ended s tenant controller .finished k) : Recovered past s tenant controller last := by
  intro failed ended met
  obtain ⟨done, finished, outlived⟩ := recovered failed (failures failed ended) met
  exact ⟨done, successes done finished, outlived⟩

/-- What holds of all that is given up later held of what was given up before. -/
theorem Upheld.before (upheld : Upheld past s' tenant controller last)
    (kept : ∀ k, Ended s tenant controller .canceled k → Ended s' tenant controller .canceled k) :
    Upheld past s tenant controller last :=
  fun canceled ended met => upheld canceled (kept canceled ended) met

/-- Nothing ends for a target, and its record keeps what it tells of deployments. -/
structure Quiet (s s' : Store) (tenant controller : String) : Prop where
  ended : ∀ a, a.active = false →
    (a ∈ s'.actionsOf tenant controller ↔ a ∈ s.actionsOf tenant controller)
  target : ∀ t, s.target? tenant controller = some t →
    ∃ t', s'.target? tenant controller = some t' ∧ t'.assigned = t.assigned ∧
      (t.status ≠ .unknown → t'.status = t.status)

/-- What has ended has ended before and after that in the same way. -/
theorem Quiet.ended_iff (quiet : Quiet s s' tenant controller) (indexed : Indexed s)
    (paired : Paired s) (after : Indexed s') (pairedAfter : Paired s') {status : Status}
    (ends : status ∈ Status.ends) :
    Ended s' tenant controller status a ↔ Ended s tenant controller status a := by
  -- What has ended is inactive, and inactive actions are the same on both sides.
  constructor
  · intro ended
    have closed := ended.inactive after pairedAfter ends
    exact ⟨(quiet.ended a closed).mp ended.listed, ended.deploys, ended.status⟩
  · intro ended
    have closed := ended.inactive indexed paired ends
    exact ⟨(quiet.ended a closed).mpr ended.listed, ended.deploys, ended.status⟩

/-- A record that tells what it has told goes on showing the last deployment. -/
theorem Shows.quiet (shows : Shows past s tenant controller last t)
    (quiet : Quiet s s' tenant controller) (indexed : Indexed s) (paired : Paired s)
    (after : Indexed s') (pairedAfter : Paired s')
    (found : s.target? tenant controller = some t) :
    ∃ t', s'.target? tenant controller = some t' ∧ Shows past s' tenant controller last t' := by
  obtain ⟨t', later, assigned, status⟩ := quiet.target t found
  -- A target with a deployment in flight has been assigned something, so its status is known.
  have known : t.status ≠ .unknown := by
    rcases shows.unsettled with same | same <;> simp [same]
  have same {k : Action} {status : Status} (ends : status ∈ Status.ends) :
      Ended s' tenant controller status k ↔ Ended s tenant controller status k :=
    quiet.ended_iff indexed paired after pairedAfter ends
  refine ⟨t', later, ?_, fun recovered => ?_, fun upheld => ?_⟩
  · rw [status known]
    exact shows.unsettled
  · rw [status known]
    exact shows.pending (recovered.before (fun k => (same (by simp [Status.ends])).mpr)
      fun k => (same (by simp [Status.ends])).mp)
  · rw [assigned]
    exact shows.assigned (upheld.before fun k => (same (by simp [Status.ends])).mpr)

/-- Nothing is in flight at the start. -/
theorem reflects_empty (settings : Settings) (past : List Store) (tenant controller : String) :
    Reflects settings past .empty tenant controller := by
  have none {a : Action} (listed : a ∈ Store.empty.actionsOf tenant controller) : False := by
    have stored := (indexed_empty.mem_actionsOf.mp listed).1
    simp [Store.empty] at stored
  exact ⟨fun a listed _ => (none listed).elim, fun _ a listed _ => (none listed).elim⟩

/-- Targets show what they show once the present state is noted. -/
theorem Reflects.noted (reflects : Reflects settings past s tenant controller) (indexed : Indexed s)
    (paired : Paired s) : Reflects settings (s :: past) s tenant controller := by
  -- What was met before is met in one of the states before this one.
  have met {stored running : Nat} (before : Met past stored running) :
      Met (s :: past) stored running := by
    obtain ⟨state, member, rest⟩ := before
    exact ⟨state, List.mem_cons_of_mem s member, rest⟩
  refine ⟨fun a listed inFlight => ?_, reflects.alone⟩
  obtain ⟨last, t, latest, found, shows⟩ := reflects.shown a listed inFlight
  refine ⟨last, t, latest, found, shows.unsettled, fun recovered => shows.pending ?_,
    fun upheld => shows.assigned fun k ended before => upheld k ended (met before)⟩
  intro failed ended before
  obtain ⟨done, finished, state, member, gone, b, stored, active⟩ :=
    recovered failed ended (met before)
  -- What has finished is not active in the present state.
  rcases List.mem_cons.mp member with rfl | earlier
  · have closed := finished.inactive indexed paired (by simp [Status.ends])
    have same := Option.some.inj
      (stored.symm.trans (indexed.mem_actionsOf.mp finished.listed).1)
    -- An older state is among the noted ones as before.
    rw [← same, active] at closed
    cases closed
  · exact ⟨done, finished, state, earlier, gone, b, stored, active⟩

/-- A record shows the end of a deployment while another one is in flight. -/
theorem Shows.closed (shows : Shows past s tenant controller last t) {outcome : Outcome}
    (deploys : last.isCancel = false)
    (ended : Ended s' tenant controller outcome.status a) (met : Met past last.id a.id)
    (first : ∀ other, ¬ Outlived past a.id other)
    (upholds : Upheld past s' tenant controller last → Upheld past s tenant controller last)
    (set : Nat) (now : Instant) :
    Shows past s' tenant controller last (t.closed outcome set true now) := by
  -- What is installed shows as assigned only where nothing else is.
  have installs (upheld : Upheld past s' tenant controller last) :
      some (t.assigned.getD set) = last.set? := by
    obtain ⟨own, here⟩ := set?_of_deploys deploys
    rw [shows.assigned (upholds upheld), here]
    rfl
  -- A failure shows whatever else is in flight; a success leaves the target pending.
  cases outcome with
  | failure =>
    refine ⟨Or.inr rfl, fun recovered => ?_, fun upheld => shows.assigned (upholds upheld)⟩
    -- Nothing can have finished after this failure yet.
    obtain ⟨done, -, outlived⟩ := recovered a ended met
    exact absurd outlived (first done.id)
  | success => exact ⟨Or.inl rfl, fun _ => rfl, installs⟩
  | none => exact ⟨Or.inl rfl, fun _ => rfl, installs⟩

/-- A record shows that a deployment has been given up while another one is in flight. -/
theorem Shows.canceled (shows : Shows past s tenant controller last t)
    (ended : Ended s' tenant controller .canceled a) (met : Met past last.id a.id)
    (recovers : Recovered past s' tenant controller last → Recovered past s tenant controller last)
    (upholds : Upheld past s' tenant controller last → Upheld past s tenant controller last)
    (now : Instant) :
    Shows past s' tenant controller last (targetAfterCancel t a.set? true now) := by
  refine ⟨shows.unsettled, fun recovered => shows.pending (recovers recovered), fun upheld => ?_⟩
  -- The set that was given up is another one, so the record keeps the assigned one.
  have other : a.set? ≠ last.set? := upheld a ended met
  have assigned := shows.assigned (upholds upheld)
  simp [targetAfterCancel, assigned, Ne.symm other]

end Shows

section Steps

variable {settings : Settings} {past : List Store} {s s' : Store} {tenant controller : String}
  {a b cancel subject last : Action} {t : Target} {f : Feedback} {now : Instant}

/-- The target of a deployment is the one whose record changes as it closes. -/
theorem targets_close (keyed : Keyed s) (found : s.target? a.tenant a.controller = some t)
    (set : Nat) (f : Feedback) (now : Instant) (key : String) :
    (s.close a set t f now).targets.get? key =
      if key = a.targetKey then
        some (t.closed f.outcome set
          (othersInFlight (s.record (a.moved f.outcome.status false now)
            (f.entry a.id f.outcome.status now)) (a.moved f.outcome.status false now) a.id) now)
      else s.targets.get? key := by
  -- The target keeps its key, so the row that is replaced is its own.
  have own (others : Bool) : (t.closed f.outcome set others now).key = a.targetKey := by
    rw [Action.targetKey, ← keyed found]
    cases f.outcome <;> rfl
  rw [Store.close, get?_putTarget, own]
  rfl

/-- The target of a deployment is the one whose record changes as it is given up. -/
theorem targets_confirm (keyed : Keyed s) (found : s.target? cancel.tenant cancel.controller = some t)
    (subject : Action) (f : Feedback) (now : Instant) (key : String) :
    (s.confirm cancel subject t f now).targets.get? key =
      if key = cancel.targetKey then
        some (targetAfterCancel t subject.set?
          (othersInFlight ((s.record (cancel.moved .canceled false now)
              (f.entry cancel.id .canceled now)).record (subject.moved .canceled false now)
            ((subject.moved .canceled false now).remark now
              ("canceled by action " ++ Text.decimal cancel.id))) subject subject.id) now)
      else s.targets.get? key := by
  -- The target is found under the key of the cancellation.
  have own (set : Option Nat) (others : Bool) :
      (targetAfterCancel t set others now).key = cancel.targetKey := by
    rw [Action.targetKey, ← keyed found]
    rfl
  rw [Store.confirm, get?_putTarget, own]
  rfl

/-- Another deployment is still in flight once one has closed. -/
theorem othersInFlight_closed (indexed : Indexed s) (stored : s.actions.get? a.id = some a)
    (running : s.actions.get? b.id = some b) (inFlight : b.isInFlight = true)
    (own : b.targetKey = a.targetKey) (other : b.id ≠ a.id) (status : Status) (now : Instant)
    (e : LogEntry) :
    othersInFlight (s.record (a.moved status false now) e) (a.moved status false now) a.id =
      true := by
  -- The other deployment is stored as before, for only the closed one is written.
  refine (indexed.moved stored status false now e).othersInFlight ?_ inFlight own other
  rw [Store.get?_record, Action.moved_id, if_neg other]
  exact running

/-- No deployment finishes as one is given up. -/
theorem Ended.of_confirmed (ended : Ended (s.confirm cancel subject t f now) tenant controller
      .finished a) (indexed : Indexed s) (after : Indexed (s.confirm cancel subject t f now)) :
    Ended s tenant controller .finished a := by
  obtain ⟨stored, own⟩ := after.mem_actionsOf.mp ended.listed
  rw [Store.get?_confirm] at stored
  -- Both parts of the pair have been cancelled.
  split at stored
  · have status := ended.status
    rw [← Option.some.inj stored] at status
    cases status
  · split at stored
    · have status := ended.status
      rw [← Option.some.inj stored] at status
      cases status
    · exact ⟨indexed.mem_actionsOf.mpr ⟨stored, own⟩, ended.deploys, ended.status⟩

/-- A new deployment is the last one, and its target shows it. -/
theorem Deploys.reflects (deploys : Deploys settings (Target.keyOf tenant controller) s s')
    (indexed : Indexed s) (keyed : Keyed s) : Reflects settings past s' tenant controller := by
  cases deploys with | deployed owner device t d rollout now here found alone =>
  let new := newAction (s.nextNumber sequence) owner device d rollout now
  have after := indexed.deploy t owner device d rollout now
  have lookup := Store.get?_deploy s t now owner device d rollout
  have listed : new ∈ (s.deploy t owner device d rollout now).actionsOf tenant controller :=
    after.mem_actionsOf.mpr ⟨by rw [lookup]; exact if_pos rfl, here⟩
  -- Everything else that is stored was stored before, under a lower number.
  have older {b : Action} (member : b ∈ (s.deploy t owner device d rollout now).actionsOf tenant
      controller) : b = new ∨ b ∈ s.actionsOf owner device ∧ b.id < new.id := by
    obtain ⟨stored, own⟩ := after.mem_actionsOf.mp member
    rw [lookup] at stored
    split at stored
    · exact Or.inl (Option.some.inj stored).symm
    · exact Or.inr ⟨indexed.mem_actionsOf.mpr ⟨stored, own.trans here.symm⟩, indexed.drawn stored⟩
  have latest : Latest (s.deploy t owner device d rollout now) tenant controller new := by
    refine ⟨listed, rfl, fun b member _ => ?_⟩
    rcases older member with same | ⟨-, below⟩
    · rw [same]
    · exact Nat.le_of_lt below
  have shown : (s.deploy t owner device d rollout now).target? tenant controller =
      some (t.withAssigned d.distributionSet now) := by
    have key : (t.withAssigned d.distributionSet now).key = Target.keyOf tenant controller :=
      (keyed found).trans here
    rw [Store.target?, Store.deploy, get?_putTarget, key, if_pos rfl]
  constructor
  -- The new deployment is the last one, and the target shows it as just assigned.
  · intro a member inFlight
    exact ⟨new, _, latest, shown, Or.inl rfl, fun _ => rfl, fun _ => rfl⟩
  · intro off b member inFlight
    -- In single mode nothing else is in flight.
    rcases older member with same | ⟨before, -⟩
    · rw [same]
      exact latest
    · rw [alone (off new listed) b before] at inFlight
      cases inFlight

/-- The deployment that was assigned last still is, perhaps in another state. -/
theorem Latest.evolution (latest : Latest s tenant controller a) (indexed : Indexed s)
    (after : Indexed s') (evolution : Evolution (Target.keyOf tenant controller) s s') {b : Action}
    (listed : b ∈ s'.actionsOf tenant controller) (same : b.id = a.id) :
    Latest s' tenant controller b := by
  -- The action has moved at most, so it is still the one with the highest number.
  obtain ⟨status, active, now, here⟩ := evolution.forth indexed after latest.listed
  have equal : b = a.moved status active now :=
    stored_unique (after.mem_actionsOf.mp listed).1 (after.mem_actionsOf.mp here).1 same
  refine ⟨listed, ?_, fun c member deploys => ?_⟩
  · rw [equal]
    exact latest.deploys
  · obtain ⟨d, before, number, kind, -⟩ := evolution.back indexed after member deploys
    rw [same, ← number]
    exact latest.newest d before kind

/-- Where nothing is deployed to a target, it has to go on showing the last deployment. -/
theorem Reflects.evolution (reflects : Reflects settings past s tenant controller)
    (indexed : Indexed s) (after : Indexed s')
    (evolution : Evolution (Target.keyOf tenant controller) s s')
    (shows : ∀ {last t}, Latest s tenant controller last → s.target? tenant controller = some t →
      Shows past s tenant controller last t →
      ∀ b ∈ s'.actionsOf tenant controller, b.isInFlight = true →
        ∃ t', s'.target? tenant controller = some t' ∧ Shows past s' tenant controller last t') :
    Reflects settings past s' tenant controller := by
  constructor
  · intro b listed inFlight
    -- An action that is in flight afterwards was so before.
    obtain ⟨a, before, -, -, runs⟩ :=
      evolution.back indexed after listed (Action.isInFlight_iff.mp inFlight).2.1
    obtain ⟨last, t, latest, found, telling⟩ := reflects.shown a before (runs inFlight)
    obtain ⟨t', later, tells⟩ := shows latest found telling b listed inFlight
    -- The last deployment may have moved, and what the target shows is about it still.
    obtain ⟨status, active, now, moved⟩ := evolution.forth indexed after latest.listed
    exact ⟨_, t', latest.evolution indexed after evolution moved rfl, later, tells.unsettled,
      tells.pending, tells.assigned⟩
  · intro off b listed inFlight
    obtain ⟨a, before, same, -, runs⟩ :=
      evolution.back indexed after listed (Action.isInFlight_iff.mp inFlight).2.1
    refine (reflects.alone (fun c member => ?_) a before (runs inFlight)).evolution indexed after
      evolution listed same.symm
    obtain ⟨status, active, now, moved⟩ := evolution.forth indexed after member
    exact off (c.moved status active now) moved

/-- A step is quiet for a target if none of its actions ends. -/
theorem Step.quiet (step : Step settings s s') (indexed : Indexed s)
    (spared : ∀ {c : Action}, s'.actions.get? c.id = some c →
      c.targetKey = Target.keyOf tenant controller → c.active = false →
        s.actions.get? c.id = some c)
    (target : s'.target? tenant controller = s.target? tenant controller) :
    Quiet s s' tenant controller where
  ended a closed := by
    rw [(step.indexed indexed).mem_actionsOf, indexed.mem_actionsOf]
    -- A closed action was so before and is not touched again, by either direction.
    constructor
    · rintro ⟨stored, own⟩
      exact ⟨spared stored own closed, own⟩
    · rintro ⟨stored, own⟩
      exact ⟨(step.untouched indexed stored closed).action.trans stored, own⟩
  target t found := ⟨t, target.trans found, rfl, fun _ => rfl⟩

/-- Writing a target is quiet if it keeps the assignment, and the status once that is known. -/
theorem Quiet.putTarget {new : Target}
    (keeps : ∀ t, s.targets.get? new.key = some t → new.assigned = t.assigned ∧
      (t.status ≠ .unknown → new.status = t.status)) :
    Quiet s (s.putTarget new) tenant controller where
  ended a _ := Iff.rfl
  target t found := by
    -- Either this very target is written, or it is found as it was.
    by_cases here : Target.keyOf tenant controller = new.key
    · obtain ⟨assigned, status⟩ := keeps t (by rw [← here]; exact found)
      exact ⟨new, by rw [Store.target?, get?_putTarget, if_pos here], assigned, status⟩
    · exact ⟨t, by rw [Store.target?, get?_putTarget, if_neg here]; exact found, rfl, fun _ => rfl⟩

/-- A poll keeps the assignment of its target, and the status once that is known. -/
theorem Quiet.polled (keyed : Keyed s) (owner device : String) (address : Option String)
    (now : Instant) :
    Quiet s (s.putTarget (Device.polled (s.target? owner device) owner device address now)) tenant
      controller := by
  cases known : s.target? owner device with
  -- A new target takes the place of none.
  | none =>
    refine .putTarget fun t found => ?_
    exact absurd (known.symm.trans found) (by simp)
  | some t =>
    refine .putTarget fun other found => ?_
    have key : (Device.polled (some t) owner device address now).key = t.key := rfl
    -- The record keeps its key, and its status unless it was unknown.
    rw [key, keyed known] at found
    have same : other = t := Option.some.inj (found.symm.trans known)
    subst same
    exact ⟨rfl, fun named => if_neg named⟩

/-- A description keeps the assignment and the status of its target. -/
theorem Quiet.described (keyed : Keyed s) {owner device : String}
    (known : s.target? owner device = some t) (r : AttributeReport) (now : Instant) :
    Quiet s (s.putTarget (t.described r now)) tenant controller := by
  -- A description changes neither the status nor the assigned set.
  refine .putTarget fun other found => ?_
  have key : (t.described r now).key = t.key := rfl
  rw [key, keyed known] at found
  have same : other = t := Option.some.inj (found.symm.trans known)
  subst same
  exact ⟨rfl, fun _ => rfl⟩

/-- A deployment to another target writes the record of that one. -/
theorem Quiet.deployed {owner device : String} {d : Deployment} {rollout : Option Membership}
    (step : Step settings s (s.deploy t owner device d rollout now)) (indexed : Indexed s)
    (keyed : Keyed s) (known : s.target? owner device = some t)
    (apart : Target.keyOf owner device ≠ Target.keyOf tenant controller) :
    Quiet s (s.deploy t owner device d rollout now) tenant controller := by
  have written : (t.withAssigned d.distributionSet now).key = Target.keyOf owner device := by
    rw [← keyed known]
    rfl
  -- The deployment and its target are those of another device.
  refine step.quiet indexed (fun stored _ closed => ?_) ?_
  · exact Spares.deploy s t owner device d rollout now stored closed
  · rw [Store.target?, Store.deploy, get?_putTarget, written, if_neg (Ne.symm apart)]
    rfl

/-- Under one key there is one target. -/
theorem target?_unique {u : Target} (here : a.targetKey = Target.keyOf tenant controller)
    (known : s.target? a.tenant a.controller = some u)
    (found : s.target? tenant controller = some t) : u = t := by
  rw [Store.target?, ← Action.targetKey, here] at known
  exact Option.some.inj (known.symm.trans found)

/-- What is in flight, or is about another target, is not what has ended. -/
theorem id_ne_of_ended {status : Status}
    (later : s'.actions.get? a.id = some (a.moved status false now))
    (stored : s'.actions.get? b.id = some b)
    (differs : b.isInFlight = true ∨ b.targetKey ≠ a.targetKey) : b.id ≠ a.id := by
  intro same
  rw [same] at stored
  -- Under one number it would be the ended action, with its target.
  have equal := Option.some.inj (stored.symm.trans later)
  rw [equal, isInFlight_moved_inactive, Action.moved_targetKey] at differs
  rcases differs with runs | other
  · cases runs
  · exact other rfl

/-- What is given up for another target is quiet for this one. -/
theorem Quiet.confirmed (step : Step settings s (s.confirm cancel subject t f now))
    (indexed : Indexed s) (paired : Paired s) (keyed : Keyed s) (pending : Pending s cancel subject)
    (known : s.target? cancel.tenant cancel.controller = some t)
    (apart : cancel.targetKey ≠ Target.keyOf tenant controller) :
    Quiet s (s.confirm cancel subject t f now) tenant controller := by
  have keys := pending.targetKey paired
  have lookup := Store.get?_confirm s subject cancel t f now
  refine step.quiet indexed (fun {c} there key _ => ?_) ?_
  · -- Neither part of the pair is about this target.
    have notSubject : c.id ≠ subject.id :=
      id_ne_of_ended (by rw [lookup, if_pos rfl]) there
        (Or.inr fun same => apart (keys.trans (same.symm.trans key)))
    have notCancel : c.id ≠ cancel.id :=
      id_ne_of_ended (by rw [lookup, if_neg pending.id_ne, if_pos rfl]) there
        (Or.inr fun same => apart (same.symm.trans key))
    rw [← there, lookup, if_neg notSubject, if_neg notCancel]
  -- The row that is written is that of another target.
  · rw [Store.target?, targets_confirm keyed known, if_neg (Ne.symm apart)]
    rfl

/-- While another deployment is in flight, its target shows that one has closed. -/
theorem Shows.close {u : Target} {d : Deployment} (shows : Shows past s tenant controller last t)
    (step : Step settings s s') (indexed : Indexed s) (paired : Paired s) (keyed : Keyed s)
    -- The state in which the deployment was active is remembered.
    (noted : s ∈ past ∨ Spares s s') (endures : Endures past s)
    (latest : Latest s tenant controller last) (found : s.target? tenant controller = some t)
    (stored : s.actions.get? a.id = some a) (active : a.active = true) (deploys : a.order = .deploy d)
    (known : s.target? a.tenant a.controller = some u)
    (later : s'.actions.get? a.id = some (a.moved f.outcome.status false now))
    (targets : s'.targets = (s.close a d.distributionSet u f now).targets)
    -- What has not ended with the deployment was there before.
    (before : ∀ {c : Action}, s'.actions.get? c.id = some c →
      c.isInFlight = true ∨ c.targetKey ≠ a.targetKey → s.actions.get? c.id = some c)
    (running : s'.actions.get? b.id = some b) (inFlight : b.isInFlight = true)
    (own : b.targetKey = Target.keyOf tenant controller) :
    ∃ t', s'.target? tenant controller = some t' ∧ Shows past s' tenant controller last t' := by
  have after := step.indexed indexed
  have pairedAfter := step.paired indexed paired
  by_cases here : a.targetKey = Target.keyOf tenant controller
  · have same : u = t := target?_unique here known found
    subst same
    have present : s ∈ past :=
      noted.resolve_right fun spares => spares.not_of_ended stored active later rfl
    -- The other deployment is still in flight once this one has closed.
    have other : b.id ≠ a.id := id_ne_of_ended later running (Or.inl inFlight)
    have others := othersInFlight_closed indexed stored (before running (Or.inl inFlight)) inFlight
      (own.trans here.symm) other f.outcome.status now (f.entry a.id f.outcome.status now)
    have ended : Ended s' tenant controller f.outcome.status
        (a.moved f.outcome.status false now) :=
      ⟨after.mem_actionsOf.mpr ⟨later, here⟩, Action.isCancel_of_order deploys, rfl⟩
    refine ⟨u.closed f.outcome d.distributionSet true now, ?_, ?_⟩
    · rw [Store.target?, targets, targets_close keyed known, if_pos here.symm, others]
    · exact shows.closed latest.deploys ended
        ⟨s, present, ⟨last, (indexed.mem_actionsOf.mp latest.listed).1⟩, a, stored, active⟩
        (fun later => endures.not_outlived stored active later)
        (fun upheld => upheld.before fun k kept =>
          kept.step step indexed paired (by simp [Status.ends])) d.distributionSet now
  · refine shows.quiet (step.quiet indexed (fun there key _ => before there ?_) ?_) indexed paired
      after pairedAfter found
    · exact Or.inr fun same => here (same.symm.trans key)
    · rw [Store.target?, targets, targets_close keyed known, if_neg (Ne.symm here)]
      rfl

/-- While another deployment is in flight, its target shows that one has been given up. -/
theorem Shows.confirm {u : Target} (shows : Shows past s tenant controller last t)
    (step : Step settings s (s.confirm cancel subject u f now)) (indexed : Indexed s)
    (paired : Paired s) (keyed : Keyed s)
    (noted : s ∈ past ∨ Spares s (s.confirm cancel subject u f now))
    (latest : Latest s tenant controller last) (found : s.target? tenant controller = some t)
    (pending : Pending s cancel subject)
    (known : s.target? cancel.tenant cancel.controller = some u)
    (running : (s.confirm cancel subject u f now).actions.get? b.id = some b)
    (inFlight : b.isInFlight = true) (own : b.targetKey = Target.keyOf tenant controller) :
    ∃ t', (s.confirm cancel subject u f now).target? tenant controller = some t' ∧
      Shows past (s.confirm cancel subject u f now) tenant controller last t' := by
  have after := step.indexed indexed
  have keys := pending.targetKey paired
  have later : (s.confirm cancel subject u f now).actions.get? subject.id =
      some (subject.moved .canceled false now) := by rw [Store.get?_confirm, if_pos rfl]
  -- Either the cancellation is about this target or it is a quiet step for it.
  by_cases here : cancel.targetKey = Target.keyOf tenant controller
  · have same : u = t := target?_unique here known found
    subst same
    have present : s ∈ past := noted.resolve_right fun spares =>
      spares.not_of_ended pending.subjectStored pending.subjectActive later rfl
    -- The other deployment is still in flight once this one has been given up.
    have others : othersInFlight ((s.record (cancel.moved .canceled false now)
          (f.entry cancel.id .canceled now)).record (subject.moved .canceled false now)
        ((subject.moved .canceled false now).remark now
          ("canceled by action " ++ Text.decimal cancel.id))) subject subject.id = true :=
      Indexed.othersInFlight ⟨after.own, after.drawn, after.listed⟩ running inFlight
        (own.trans (here.symm.trans keys)) (id_ne_of_ended later running (Or.inl inFlight))
    have ended : Ended (s.confirm cancel subject u f now) tenant controller .canceled
        (subject.moved .canceled false now) :=
      ⟨after.mem_actionsOf.mpr ⟨later, keys.symm.trans here⟩, pending.deploys, rfl⟩
    refine ⟨targetAfterCancel u subject.set? true now, ?_, ?_⟩
    · rw [Store.target?, targets_confirm keyed known, if_pos here.symm, others]
    · refine shows.canceled ended
        ⟨s, present, ⟨last, (indexed.mem_actionsOf.mp latest.listed).1⟩, subject,
          pending.subjectStored, pending.subjectActive⟩
        (fun recovered => recovered.before (fun k failed => ?_)
          fun k finished => finished.of_confirmed indexed after)
        (fun upheld => upheld.before fun k kept => ?_) now
      · exact failed.step step indexed paired (by simp [Status.ends])
      · exact kept.step step indexed paired (by simp [Status.ends])
  · exact shows.quiet (.confirmed step indexed paired keyed pending known here) indexed paired after
      (step.paired indexed paired) found

/-- Every step leaves a target showing the deployment that has been assigned to it last. -/
theorem Step.reflects (step : Step settings s s') (indexed : Indexed s) (paired : Paired s)
    (keyed : Keyed s) (endures : Endures past s) (noted : s ∈ past ∨ Spares s s')
    (reflects : Reflects settings past s tenant controller) :
    Reflects settings past s' tenant controller := by
  have after := step.indexed indexed
  -- A new deployment to the target becomes the last one, and otherwise the last one stays.
  rcases step.evolution indexed (Target.keyOf tenant controller) with deploys | evolution
  · exact deploys.reflects indexed keyed
  refine reflects.evolution indexed after evolution fun {last t} latest found shows b listed runs => ?_
  obtain ⟨running, own⟩ := after.mem_actionsOf.mp listed
  -- Where nothing ends for the target, it goes on showing what it has shown.
  have still (quiet : Quiet s s' tenant controller) :
      ∃ t', s'.target? tenant controller = some t' ∧ Shows past s' tenant controller last t' :=
    shows.quiet quiet indexed paired after (step.paired indexed paired) found
  have spared (spares : Spares s s') (targets : s'.targets = s.targets) :
      Quiet s s' tenant controller :=
    step.quiet indexed (fun stored _ closed => spares stored closed)
      (by rw [Store.target?, Store.target?, targets])
  have taken := step
  cases step with
  -- Nothing ends when sets and targets are registered, polled or described.
  | published => exact still (spared (.of_eq rfl) rfl)
  | registered owner device attributes now absent =>
    refine still (.putTarget fun t found => ?_)
    exact absurd (absent.symm.trans found) (by simp)
  | polled owner device address now => exact still (.polled keyed owner device address now)
  | described owner device u r now known => exact still (.described keyed known r now)
  | requested subject now stored inFlight =>
    -- The subject of the request is still active.
    exact still (spared (.requestCancel s subject now) rfl)
  | deployed owner device u d rollout now known set alone =>
    -- Nothing is deployed to this target, so the deployment is to another one.
    exact still (.deployed taken indexed keyed known (evolution.apart indexed))
  | progressed a f now step stored room going reported =>
    exact still (spared (.progressed stored going reported) rfl)
  -- What closes or is given up may be older than the last deployment, or be that one itself.
  | closed a d u f now stored deploys room closing inFlight known =>
    have lookup := Store.get?_close s a d.distributionSet u f now
    have later : (s.close a d.distributionSet u f now).actions.get? a.id =
        some (a.moved f.outcome.status false now) := by rw [lookup, if_pos rfl]
    refine shows.close taken indexed paired keyed noted endures latest found stored
      (Action.isInFlight_iff.mp inFlight).1 deploys known later rfl (fun there differs => ?_) running
      runs own
    rw [← there, lookup, if_neg (id_ne_of_ended later there differs)]
  | superseded cancel a d u f now pending deploys room closing known =>
    have lookup := Store.get?_closeSuperseded s a cancel d.distributionSet u f now
    have later : ((s.close a d.distributionSet u f now).supersede cancel a.id now).actions.get? a.id =
        some (a.moved f.outcome.status false now) := by
      rw [lookup, if_neg (Ne.symm pending.id_ne), if_pos rfl]
    have laterCancel : ((s.close a d.distributionSet u f now).supersede cancel a.id now).actions.get?
        cancel.id = some (cancel.moved .finished false now) := by rw [lookup, if_pos rfl]
    refine shows.close taken indexed paired keyed noted endures latest found pending.subjectStored
      pending.subjectActive deploys known later rfl (fun there differs => ?_) running runs own
    -- The cancellation that ends as well is about the same target.
    rw [← there, lookup, if_neg (id_ne_of_ended laterCancel there ?_),
      if_neg (id_ne_of_ended later there differs)]
    rw [pending.targetKey paired]
    exact differs
  | confirmed cancel subject u f now pending room closing known =>
    exact shows.confirm taken indexed paired keyed noted latest found pending known running runs own

end Steps

end Deployments

end DeviceUpdate
