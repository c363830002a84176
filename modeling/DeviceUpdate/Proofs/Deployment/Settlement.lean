import DeviceUpdate.Proofs.Deployment.Reflection

/-! When a target passes for settled, and which ends of deployments make it do so wrongly. -/

namespace DeviceUpdate

/-- The distribution set of a deployment. -/
theorem Action.set?_of_order {a : Action} {d : Deployment} (deploys : a.order = .deploy d) :
    a.set? = some d.distributionSet := by
  simp [Action.set?, Action.deployment?, deploys]

/-- A target has a distribution set installed, and that set is the one assigned to it. -/
structure Target.Settled (t : Target) : Prop where
  installed : t.installed.isSome = true
  assigned : t.assigned = t.installed

namespace Deployments

/-- Every target that passes for settled is so. -/
def Settled (s : Store) : Prop :=
  ∀ ⦃key : String⦄ ⦃t : Target⦄, s.targets.get? key = some t → t.status = .inSync → t.Settled

/-- Every target that passes for settled has a distribution set installed. -/
def Equipped (s : Store) : Prop :=
  ∀ ⦃key : String⦄ ⦃t : Target⦄, s.targets.get? key = some t → t.status = .inSync →
    t.installed.isSome = true

/-- The last deployment that was open for a target has ended, with a status. -/
structure Last (s s' : Store) (a : Action) (t : Target) (status : Status) : Prop where
  stored : s.actions.get? a.id = some a
  deploys : a.isCancel = false
  active : a.active = true
  found : s.target? a.tenant a.controller = some t
  /-- No other deployment is in flight to the target. -/
  alone : othersInFlight s a a.id = false
  ended : ∃ b, s'.actions.get? a.id = some b ∧ b.active = false ∧ b.status = status

/-- A target has come to pass for settled with another set assigned to it than is installed. -/
inductive Misled (s s' : Store) : Prop
  /-- A set has been installed, while another one is assigned. -/
  | installed (a : Action) (t : Target) (last : Last s s' a t .finished)
      (assigned : t.assigned ≠ none) (differs : t.assigned ≠ a.set?)
  /-- A set has been given up, while neither it nor the installed one is assigned. -/
  | givenUp (a : Action) (t : Target) (last : Last s s' a t .canceled)
      (installed : t.installed ≠ none) (stale : t.assigned ≠ t.installed)
      (differs : t.assigned ≠ a.set?)

/-- No deployment ends between two states. -/
def Sustains (s s' : Store) : Prop :=
  ∀ ⦃id : Nat⦄ ⦃a b : Action⦄, s.actions.get? id = some a → a.isCancel = false →
    a.active = true → s'.actions.get? id = some b → b.active = true

/-- Every target that passes for settled did so before, with the same sets. -/
def Calm (s s' : Store) : Prop :=
  ∀ ⦃key : String⦄ ⦃t' : Target⦄, s'.targets.get? key = some t' → t'.status = .inSync →
    ∃ t, s.targets.get? key = some t ∧ t.status = .inSync ∧ t'.assigned = t.assigned ∧
      t'.installed = t.installed

/-- One deployment ends, which leaves a record of its target. -/
structure Ends (s s' : Store) (a : Action) (t : Target) (status : Status) (t' : Target) :
    Prop where
  stored : s.actions.get? a.id = some a
  deploys : a.isCancel = false
  active : a.active = true
  found : s.target? a.tenant a.controller = some t
  ended : ∃ now, s'.actions.get? a.id = some (a.moved status false now)
  only : ∀ ⦃id : Nat⦄ ⦃b c : Action⦄, s.actions.get? id = some b → b.isCancel = false →
    b.active = true → s'.actions.get? id = some c → c.active = false → id = a.id
  written : ∀ key, s'.targets.get? key =
    if key = a.targetKey then some t' else s.targets.get? key

/-- What becomes of the targets between two states. -/
inductive Settling (s s' : Store) : Prop
  | calm (sustains : Sustains s s') (calm : Calm s s')
  | closed (a : Action) (d : Deployment) (t : Target) (outcome : Outcome) (now : Instant)
      (deploys : a.order = .deploy d)
      (ends : Ends s s' a t outcome.status
        (t.closed outcome d.distributionSet (othersInFlight s a a.id) now))
  | canceled (a : Action) (t : Target) (now : Instant)
      (ends : Ends s s' a t .canceled (targetAfterCancel t a.set? (othersInFlight s a a.id) now))

section Records

variable {t : Target} {outcome : Outcome} {set : Nat} {canceled : Option Nat} {others : Bool}
  {now : Instant}

/-- The end of a deployment lets its target pass for settled if it succeeds and is the last one. -/
theorem closed_inSync : (t.closed outcome set others now).status = .inSync ↔
    others = false ∧ outcome.status = .finished := by
  cases outcome <;> cases others <;>
    simp [Target.closed, Target.failed, Target.withInstalled, Outcome.status]

/-- A deployment that has not failed leaves its set installed. -/
theorem closed_installs (finished : outcome.status = .finished) :
    (t.closed outcome set others now).installed = some set := by
  cases outcome with
  | failure => cases finished
  | success => rfl
  | none => rfl

theorem closed_installed (finished : outcome.status = .finished) :
    (t.closed outcome set others now).installed.isSome = true := by
  rw [closed_installs finished, Option.isSome_some]

/-- What has been installed is assigned unless something else is. -/
theorem closed_settled (finished : outcome.status = .finished) :
    (t.closed outcome set others now).Settled ↔ (t.assigned ≠ none → t.assigned = some set) := by
  have record : (t.closed outcome set others now).installed = some set ∧
      (t.closed outcome set others now).assigned = some (t.assigned.getD set) := by
    cases outcome with
    | failure => cases finished
    | success => exact ⟨rfl, rfl⟩
    | none => exact ⟨rfl, rfl⟩
  -- The installed set is the one of the deployment, so only the assigned one can differ from it.
  have same : (t.closed outcome set others now).Settled ↔ t.assigned.getD set = set := by
    constructor
    · intro settled
      have assigned := settled.assigned
      rw [record.1, record.2] at assigned
      exact Option.some.inj assigned
    · intro assigned
      exact ⟨by rw [record.1]; rfl, by rw [record.1, record.2, assigned]⟩
  rw [same]
  cases t.assigned <;> simp

/-- A target whose last deployment is given up passes for settled if anything is installed. -/
theorem afterCancel_inSync :
    (targetAfterCancel t canceled false now).status = .inSync ↔ t.installed ≠ none := by
  cases installed : t.installed <;> simp [targetAfterCancel, installed]

/-- What is given up is not assigned any more, and what is assigned instead is installed. -/
theorem afterCancel_settled (own : canceled = some set) :
    (targetAfterCancel t canceled others now).Settled ↔
      t.installed ≠ none ∧ (t.assigned = t.installed ∨ t.assigned = canceled) := by
  have same : (targetAfterCancel t canceled others now).Settled ↔ t.installed ≠ none ∧
      (targetAfterCancel t canceled others now).assigned = t.installed :=
    ⟨fun settled => ⟨Option.isSome_iff_ne_none.mp settled.installed, settled.assigned⟩,
      fun settled => ⟨Option.isSome_iff_ne_none.mpr settled.1, settled.2⟩⟩
  rw [same]
  -- Either the set that is given up was assigned, or the assignment stays.
  by_cases given : t.assigned = canceled
  · simp [targetAfterCancel, given, own]
  · simp [targetAfterCancel, given]

end Records

section Settlement

variable {settings : Settings} {s s' s'' : Store} {a b cancel subject : Action} {t : Target}
  {now : Instant}

theorem settled_empty : Settled .empty := by
  intro key t found
  simp [Store.empty] at found

theorem equipped_empty : Equipped .empty := by
  intro key t found
  simp [Store.empty] at found

/-- Where no action ends, no deployment does. -/
theorem Spares.sustains (spares : Spares s s') : Sustains s s' := by
  intro id a b stored _ active later
  cases ended : b.active with
  | true => rfl
  | false =>
    -- What has ended would have been found as it is.
    rw [Option.some.inj (stored.symm.trans (spares later ended)), ended] at active
    cases active

/-- Where the targets are the same, nothing comes to pass for settled. -/
theorem Calm.of_eq (same : s'.targets = s.targets) : Calm s s' := by
  intro key t found status
  rw [same] at found
  exact ⟨t, found, status, rfl, rfl⟩

theorem Calm.trans (first : Calm s s') (second : Calm s' s'') : Calm s s'' := by
  intro key t'' found status
  obtain ⟨t', between, synced, assigned, installed⟩ := second found status
  obtain ⟨t, before, settled, was, had⟩ := first between synced
  exact ⟨t, before, settled, assigned.trans was, installed.trans had⟩

/-- Writing a target is calm if it passes for settled only where it did so with the same sets. -/
theorem Calm.putTarget {new : Target}
    (keeps : new.status = .inSync → ∃ t, s.targets.get? new.key = some t ∧ t.status = .inSync ∧
      new.assigned = t.assigned ∧ new.installed = t.installed) : Calm s (s.putTarget new) := by
  intro key t found status
  rw [get?_putTarget] at found
  split at found
  · rename_i here
    -- The record that passes for settled has taken over what the one before it had.
    rw [← Option.some.inj found] at status ⊢
    rw [here]
    exact keeps status
  · exact ⟨t, found, status, rfl, rfl⟩

/-- What else is in flight depends on the other deployments alone. -/
theorem othersInFlight_eq (indexed : Indexed s) (after : Indexed s')
    (same : ∀ b : Action, b.isInFlight = true → b.id ≠ a.id →
      (s'.actions.get? b.id = some b ↔ s.actions.get? b.id = some b)) :
    othersInFlight s' a a.id = othersInFlight s a a.id := by
  rw [Bool.eq_iff_iff]
  simp only [othersInFlight, List.any_eq_true, after.mem_actionsOf, indexed.mem_actionsOf,
    Bool.and_eq_true, bne_iff_ne]
  -- The same deployments are in flight besides this one, before and after.
  constructor <;> rintro ⟨b, ⟨stored, own⟩, inFlight, other⟩
  · exact ⟨b, ⟨(same b inFlight other).mp stored, own⟩, inFlight, other⟩
  · exact ⟨b, ⟨(same b inFlight other).mpr stored, own⟩, inFlight, other⟩

/-- A closing deployment leaves the others in flight as they were. -/
theorem othersInFlight_moved (indexed : Indexed s) (stored : s.actions.get? a.id = some a)
    (status : Status) (now : Instant) (e : LogEntry) :
    othersInFlight (s.record (a.moved status false now) e) (a.moved status false now) a.id =
      othersInFlight s a a.id := by
  refine othersInFlight_eq indexed (indexed.moved stored status false now e) fun b _ other => ?_
  rw [Store.get?_record, if_neg other]

/-- The end of a cancellation is nothing that is in flight. -/
theorem othersInFlight_confirmed (indexed : Indexed s) (pending : Pending s cancel subject)
    (now : Instant) (first second : LogEntry) :
    othersInFlight ((s.record (cancel.moved .canceled false now) first).record
      (subject.moved .canceled false now) second) subject subject.id =
        othersInFlight s subject subject.id := by
  have middle := indexed.moved pending.cancelStored .canceled false now first
  have still : (s.record (cancel.moved .canceled false now) first).actions.get? subject.id =
      some subject := by
    rw [Store.get?_record, Action.moved_id, if_neg (Ne.symm pending.id_ne)]
    exact pending.subjectStored
  -- Both parts of the pair are written in turn, and each writing leaves the other one stored.
  refine othersInFlight_eq indexed (middle.moved still .canceled false now second)
    fun b inFlight other => ?_
  rw [Store.get?_record, Action.moved_id, if_neg other, Store.get?_record, Action.moved_id]
  by_cases here : b.id = cancel.id
  · -- The cancellation is not in flight, neither before nor after its end.
    have kind := Action.isCancel_of_names pending.names
    have deploys := (Action.isInFlight_iff.mp inFlight).2.1
    rw [if_pos here, here, pending.cancelStored]
    constructor <;> intro same
    · rw [← Option.some.inj same, Action.moved_isCancel, kind] at deploys
      cases deploys
    · rw [← Option.some.inj same, kind] at deploys
      cases deploys
  · rw [if_neg here]

/-- Between two states where one deployment ends, no other one does. -/
theorem only_of_lookup (moved : Action)
    (lookup : ∀ id, id ≠ a.id → s'.actions.get? id = s.actions.get? id ∨
      s.actions.get? id = some moved ∧ moved.isCancel = true) ⦃id : Nat⦄ ⦃b c : Action⦄
    (stored : s.actions.get? id = some b) (deploys : b.isCancel = false) (active : b.active = true)
    (later : s'.actions.get? id = some c) (ended : c.active = false) : id = a.id := by
  by_contra other
  -- What has stayed as it was has not ended, and what has moved is a cancellation.
  rcases lookup id other with same | ⟨here, cancels⟩
  · rw [same, stored] at later
    rw [← Option.some.inj later, active] at ended
    cases ended
  · rw [← Option.some.inj (stored.symm.trans here), deploys] at cancels
    cases cancels

/-- The cancellation of a deployment may end with it, but it is no deployment. -/
theorem Pending.only (pending : Pending s cancel a)
    (kept : ∀ id, id ≠ a.id → id ≠ cancel.id → s'.actions.get? id = s.actions.get? id)
    ⦃id : Nat⦄ ⦃b c : Action⦄ (stored : s.actions.get? id = some b) (deploys : b.isCancel = false)
    (active : b.active = true) (later : s'.actions.get? id = some c) (ended : c.active = false) :
    id = a.id := by
  refine only_of_lookup cancel (fun id other => ?_) stored deploys active later ended
  by_cases here : id = cancel.id
  · rw [here]
    exact Or.inr ⟨pending.cancelStored, Action.isCancel_of_names pending.names⟩
  · exact Or.inl (kept id other here)

/-- A poll changes the status of unknown targets only. -/
theorem Calm.polled (keyed : Keyed s) (tenant controller : String) (address : Option String)
    (now : Instant) : Calm s
      (s.putTarget (Device.polled (s.target? tenant controller) tenant controller address now)) := by
  refine .putTarget fun status => ?_
  cases known : s.target? tenant controller with
  | none => simp [Device.polled, known, Target.new] at status
  | some t =>
    rw [known] at status
    have key : (Device.polled (some t) tenant controller address now).key = t.key := rfl
    refine ⟨t, by rw [key, keyed known]; exact known, ?_, rfl, rfl⟩
    by_cases named : t.status = .unknown
    · simp [Device.polled, named] at status
    · simpa [Device.polled, named] using status

/-- Every step ends one deployment at most, and only then comes a target to pass for settled. -/
theorem Step.settling (step : Step settings s s') (indexed : Indexed s) (paired : Paired s)
    (keyed : Keyed s) : Settling s s' := by
  -- What ends no action and writes no record that passes for settled is calm.
  have quiet {s' : Store} (spares : Spares s s') (calm : Calm s s') : Settling s s' :=
    .calm spares.sustains calm
  cases step with
  | published => exact quiet (.of_eq rfl) (.of_eq rfl)
  | registered tenant controller attributes now =>
    exact quiet (.of_eq rfl) (.putTarget fun status => by cases status)
  | polled tenant controller address now =>
    exact quiet (.of_eq rfl) (.polled keyed tenant controller address now)
  | described tenant controller t r now known =>
    refine quiet (.of_eq rfl) (.putTarget fun status => ⟨t, ?_, status, rfl, rfl⟩)
    have key : (t.described r now).key = t.key := rfl
    rw [key, keyed known]
    exact known
  | requested subject now => exact quiet (.requestCancel s subject now) (.of_eq rfl)
  -- A new deployment makes its target pending, so nothing passes for settled by it.
  | deployed tenant controller t d rollout now =>
    refine quiet (.deploy s t tenant controller d rollout now) ?_
    have between : Calm s ((s.advance sequence).record
        (newAction (s.nextNumber sequence) tenant controller d rollout now)
        ((newAction (s.nextNumber sequence) tenant controller d rollout now).remark now
          "assignment initiated")) := .of_eq rfl
    exact between.trans (.putTarget fun status => by cases status)
  | progressed a f now step stored room going reported =>
    exact quiet (.progressed stored going reported) (.of_eq rfl)
  | closed a d t f now stored deploys room closing inFlight found =>
    have lookup := Store.get?_close s a d.distributionSet t f now
    obtain ⟨active, kind, -⟩ := Action.isInFlight_iff.mp inFlight
    refine .closed a d t f.outcome now deploys
      ⟨stored, kind, active, found, ⟨now, by rw [lookup, if_pos rfl]⟩, ?_, fun key => ?_⟩
    · exact only_of_lookup a fun id other => Or.inl (by rw [lookup, if_neg other])
    · rw [targets_close keyed found, othersInFlight_moved indexed stored]
  | superseded cancel a d t f now pending deploys room closing found =>
    have lookup := Store.get?_closeSuperseded s a cancel d.distributionSet t f now
    refine .closed a d t f.outcome now deploys
      ⟨pending.subjectStored, pending.deploys, pending.subjectActive, found, ⟨now, ?_⟩, ?_,
        fun key => ?_⟩
    · rw [lookup, if_neg (Ne.symm pending.id_ne), if_pos rfl]
    · exact pending.only fun id other here => by rw [lookup, if_neg here, if_neg other]
    · rw [← othersInFlight_moved indexed pending.subjectStored f.outcome.status now
        (f.entry a.id f.outcome.status now)]
      exact targets_close keyed found d.distributionSet f now key
  -- The end of the cancellation is not looked at, only that of the deployment given up.
  | confirmed cancel subject t f now pending room closing found =>
    have lookup := Store.get?_confirm s subject cancel t f now
    have key : cancel.targetKey = subject.targetKey := pending.targetKey paired
    refine .canceled subject t now
      ⟨pending.subjectStored, pending.deploys, pending.subjectActive, ?_, ⟨now, ?_⟩, ?_,
        fun other => ?_⟩
    · rw [Store.target?, ← Action.targetKey, ← key]
      exact found
    · rw [lookup, if_pos rfl]
    · exact pending.only fun id other here => by rw [lookup, if_neg other, if_neg here]
    · rw [targets_confirm keyed found, othersInFlight_confirmed indexed pending, key]

/-- The refusal of a cancellation ends no deployment and leaves the targets alone. -/
theorem Resumption.settling (resumption : Resumption cancel subject s s') : Settling s s' := by
  cases resumption with | resumed now pending =>
  refine .calm (fun id a b stored deploys active later => ?_) (.of_eq rfl)
  rw [Store.get?_resume] at later
  split at later
  · -- The subject runs again.
    rw [← Option.some.inj later]
    rfl
  · split at later
    · -- What has been refused is no deployment.
      rename_i here
      rw [here, pending.cancelStored] at stored
      rw [← Option.some.inj stored, Action.isCancel_of_names pending.names] at deploys
      cases deploys
    · rw [← Option.some.inj (stored.symm.trans later)]
      exact active

/-- Where an action ends, it is spared no more. -/
theorem Ends.not_spares {status : Status} {t' : Target} (ends : Ends s s' a t status t')
    (spares : Spares s s') : False := by
  obtain ⟨now, later⟩ := ends.ended
  exact spares.not_of_ended ends.stored ends.active later rfl

/-- Where no action ends, nothing comes to pass for settled. -/
theorem Settling.calm_of_spares (settling : Settling s s') (spares : Spares s s') : Calm s s' := by
  cases settling with
  | calm sustains calm => exact calm
  | closed a d t outcome now deploys ends => exact (ends.not_spares spares).elim
  | canceled a t now ends => exact (ends.not_spares spares).elim

/-- The deployment that has ended is the one that a step ends. -/
theorem Ends.same {t' u : Target} {status other : Status} (ends : Ends s s' a t status t')
    (last : Last s s' b u other) : b = a ∧ u = t ∧ other = status := by
  obtain ⟨c, later, closed, named⟩ := last.ended
  -- Only one deployment ends in a step, so the two are the same.
  have number : b.id = a.id := ends.only last.stored last.deploys last.active later closed
  have equal : b = a := stored_unique last.stored ends.stored number
  subst equal
  obtain ⟨now, moved⟩ := ends.ended
  refine ⟨rfl, Option.some.inj (last.found.symm.trans ends.found), ?_⟩
  rw [← named, ← Option.some.inj (moved.symm.trans later)]
  rfl

/-- The record of the target of a deployment that has ended. -/
theorem Ends.record {status : Status} {t' : Target} (ends : Ends s s' a t status t') :
    s'.targets.get? a.targetKey = some t' := by
  rw [ends.written, if_pos rfl]

/-- The end of the last deployment that is open for a target. -/
theorem Ends.last {status : Status} {t' : Target} (ends : Ends s s' a t status t')
    (alone : othersInFlight s a a.id = false) : Last s s' a t status := by
  obtain ⟨now, later⟩ := ends.ended
  exact ⟨ends.stored, ends.deploys, ends.active, ends.found, alone, _, later, rfl, rfl⟩

/-- A state that misleads about no target leaves the settled ones settled. -/
theorem Settling.settled (settling : Settling s s') (settled : Settled s)
    (clean : ¬ Misled s s') : Settled s' := by
  intro key t' found status
  cases settling with
  -- The record that passes for settled was settled already.
  | calm sustains calm =>
    obtain ⟨t, before, was, assigned, installed⟩ := calm found status
    have same := settled before was
    exact ⟨by rw [installed]; exact same.installed,
      by rw [assigned, installed]; exact same.assigned⟩
  | closed a d t outcome now deploys ends =>
    rw [ends.written] at found
    split at found
    · rw [← Option.some.inj found] at status ⊢
      obtain ⟨alone, finished⟩ := closed_inSync.mp status
      -- Another set that is assigned would be misleading.
      refine (closed_settled finished).mpr fun assigned => by_contra fun differs => clean ?_
      rw [← Action.set?_of_order deploys] at differs
      exact .installed a t (finished ▸ ends.last alone) assigned differs
    · exact settled found status
  | canceled a t now ends =>
    rw [ends.written] at found
    split at found
    · rw [← Option.some.inj found] at status ⊢
      obtain ⟨set, own⟩ := set?_of_deploys ends.deploys
      refine (afterCancel_settled own).mpr ?_
      cases alone : othersInFlight s a a.id with
      | true =>
        -- The status has been left to the other deployments, so the target was settled before.
        rw [alone] at status
        have before : t.Settled := settled ends.found status
        exact ⟨Option.isSome_iff_ne_none.mp before.installed, Or.inl before.assigned⟩
      | false =>
        rw [alone] at status
        have installed := afterCancel_inSync.mp status
        refine ⟨installed, by_contra fun differs => clean ?_⟩
        obtain ⟨stale, other⟩ := not_or.mp differs
        exact .givenUp a t (ends.last alone) installed stale other
    · exact settled found status

/-- What passes for settled has a set installed, if this was so before. -/
theorem Settling.equipped (settling : Settling s s') (equipped : Equipped s) : Equipped s' := by
  intro key t' found status
  cases settling with
  -- The installed set of a settled target is not touched by a calm step.
  | calm sustains calm =>
    obtain ⟨t, before, was, -, installed⟩ := calm found status
    rw [installed]
    exact equipped before was
  | closed a d t outcome now deploys ends =>
    rw [ends.written] at found
    split at found
    · rw [← Option.some.inj found] at status ⊢
      exact closed_installed (closed_inSync.mp status).2
    · exact equipped found status
  | canceled a t now ends =>
    rw [ends.written] at found
    split at found
    -- With others in flight the target keeps its status, and without them it gets one by what is
    -- installed.
    · rw [← Option.some.inj found] at status ⊢
      cases alone : othersInFlight s a a.id with
      | true =>
        rw [alone] at status
        have before : t.installed.isSome = true := equipped ends.found status
        exact before
      | false =>
        rw [alone] at status
        have installed : t.installed ≠ none := afterCancel_inSync.mp status
        exact Option.isSome_iff_ne_none.mpr installed
    · exact equipped found status

/-- What is misleading about a target does not leave it settled. -/
theorem Settling.misled (settling : Settling s s') (misled : Misled s s') : ¬ Settled s' := by
  intro settled
  cases settling with
  | calm sustains calm =>
    -- The deployment that has ended is still active.
    have lasts {a : Action} {t : Target} {status : Status} (last : Last s s' a t status) :
        False := by
      obtain ⟨b, later, closed, -⟩ := last.ended
      rw [sustains last.stored last.deploys last.active later] at closed
      cases closed
    cases misled with
    | installed a t last => exact lasts last
    | givenUp a t last => exact lasts last
  -- The one deployment that ends is the misleading one, and it has installed another set.
  | closed a d t outcome now deploys ends =>
    cases misled with
    | installed b u last assigned differs =>
      obtain ⟨rfl, rfl, finished⟩ := ends.same last
      have same := settled ends.record (closed_inSync.mpr ⟨last.alone, finished.symm⟩)
      rw [Action.set?_of_order deploys] at differs
      exact differs ((closed_settled finished.symm).mp same assigned)
    | givenUp b u last =>
      obtain ⟨-, -, canceled⟩ := ends.same last
      cases outcome <;> cases canceled
  -- The one given up is the misleading one, and what is installed is neither of the two sets.
  | canceled a t now ends =>
    cases misled with
    | installed b u last =>
      obtain ⟨-, -, finished⟩ := ends.same last
      cases finished
    | givenUp b u last installed stale differs =>
      obtain ⟨rfl, rfl, -⟩ := ends.same last
      have record := ends.record
      rw [last.alone] at record
      have same := settled record (afterCancel_inSync.mpr installed)
      obtain ⟨set, own⟩ := set?_of_deploys ends.deploys
      rcases ((afterCancel_settled own).mp same).2 with assigned | given
      · exact stale assigned
      · exact differs given

end Settlement

end Deployments

end DeviceUpdate
