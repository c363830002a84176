import DeviceUpdate.Proofs.Deployment.Settlement

/-! What is installed on targets, and the finished deployments that are told to have installed it. -/

namespace DeviceUpdate

namespace Deployments

/-- A deployment to the target of a key that has finished. -/
structure Finished (s : Store) (key : String) (a : Action) : Prop where
  stored : s.actions.get? a.id = some a
  own : a.targetKey = key
  deploys : a.isCancel = false
  status : a.status = .finished

/-- The distribution set that is installed on the target of a key. -/
def installedUnder (s : Store) (key : String) : Option Nat :=
  (s.targets.get? key).bind (·.installed)

/-- Nothing finishes between two states, and nothing is installed. -/
structure Still (s s' : Store) : Prop where
  finished : ∀ key a, Finished s' key a ↔ Finished s key a
  installed : ∀ key, installedUnder s' key = installedUnder s key

/-- What is installed between two states: one set at most, by a deployment that finishes. -/
inductive Installing (s s' : Store) : Prop
  | still (still : Still s s')
  | finished (a : Action) (set : Nat) (now : Instant) (stored : s.actions.get? a.id = some a)
      (deploys : a.isCancel = false) (active : a.active = true) (own : a.set? = some set)
      (ended : s'.actions.get? a.id = some (a.moved .finished false now))
      (others : ∀ key b, b.id ≠ a.id → (Finished s' key b ↔ Finished s key b))
      (installed : ∀ key, installedUnder s' key =
        if key = a.targetKey then some set else installedUnder s key)

/-- Something is installed on a target exactly if a deployment to it has finished. -/
def Traced (s : Store) : Prop :=
  ∀ key, (installedUnder s key).isSome = true ↔ ∃ a, Finished s key a

/-- The deployment with the highest number among those to a target that have finished. -/
structure Newest (s : Store) (key : String) (a : Action) : Prop where
  finished : Finished s key a
  last : ∀ ⦃b⦄, Finished s key b → b.id ≤ a.id

/-- The newest deployments that have finished are of the sets that are installed. -/
def Named (s : Store) : Prop :=
  ∀ ⦃key a⦄, Newest s key a → a.set? = installedUnder s key

/-- A deployment has finished although a newer one to the same target, which is of another set, had
finished before. -/
inductive Belated (s s' : Store) : Prop
  | belated (key : String) (a b : Action) (finished : Finished s' key a)
      (late : ¬ Finished s key a) (newest : Newest s key b) (newer : a.id < b.id)
      (differs : a.set? ≠ b.set?)

section Records

variable {s s' : Store} {a b : Action} {e : LogEntry} {key : String} {t : Target}

/-- What has finished depends on the actions alone. -/
theorem Finished.congr (same : s'.actions = s.actions) : Finished s' key b ↔ Finished s key b := by
  constructor <;> rintro ⟨stored, own, deploys, status⟩
  · exact ⟨same ▸ stored, own, deploys, status⟩
  · exact ⟨same.symm ▸ stored, own, deploys, status⟩

/-- Storing a target finishes nothing. -/
theorem finished_putTarget (t : Target) : Finished (s.putTarget t) key b ↔ Finished s key b :=
  Finished.congr rfl

/-- Drawing a number finishes nothing. -/
theorem finished_advance (counter : String) :
    Finished (s.advance counter) key b ↔ Finished s key b :=
  Finished.congr rfl

/-- Recording an action leaves all others finished that were so. -/
theorem finished_record_other (other : b.id ≠ a.id) :
    Finished (s.record a e) key b ↔ Finished s key b := by
  have found : (s.record a e).actions.get? b.id = s.actions.get? b.id := by
    rw [Store.get?_record, if_neg other]
  constructor <;> rintro ⟨stored, own, deploys, status⟩
  · exact ⟨found.symm.trans stored, own, deploys, status⟩
  · exact ⟨found.trans stored, own, deploys, status⟩

/-- Recording an action that has not finished, in place of none that has, finishes nothing. -/
theorem finished_record (new : a.isCancel = true ∨ a.status ≠ .finished)
    (old : ∀ key b, Finished s key b → b.id ≠ a.id) :
    Finished (s.record a e) key b ↔ Finished s key b := by
  -- Under the number of the action nothing has finished, neither before nor after.
  by_cases here : b.id = a.id
  · constructor
    · rintro ⟨stored, own, deploys, status⟩
      rw [Store.get?_record, if_pos here] at stored
      have same := Option.some.inj stored
      subst same
      rcases new with cancels | runs
      · rw [deploys] at cancels
        cases cancels
      · exact absurd status runs
    · exact fun finished => absurd here (old key b finished)
  · exact finished_record_other here

/-- An active action is none of those that have finished. -/
theorem Finished.id_ne (finished : Finished s key b) (paired : Paired s)
    (stored : s.actions.get? a.id = some a) (active : a.active = true) : b.id ≠ a.id := by
  -- What has finished has ended, so it is not active.
  refine id_ne_of_active finished.stored ?_ stored active
  refine (paired.ended finished.stored).mpr ?_
  rw [finished.status]
  simp [Status.ends]

/-- A new action is none of those that have finished. -/
theorem Finished.id_ne_next (finished : Finished s key b) (indexed : Indexed s) :
    b.id ≠ s.nextNumber sequence :=
  Nat.ne_of_lt (indexed.drawn finished.stored)

/-- Storing a target decides what is installed under its key. -/
theorem installedUnder_putTarget (s : Store) (t : Target) (key : String) :
    installedUnder (s.putTarget t) key =
      if key = t.key then t.installed else installedUnder s key := by
  rw [installedUnder, get?_putTarget]
  split <;> rfl

/-- Storing a target with the same set installed installs nothing. -/
theorem installedUnder_putTarget_same (same : t.installed = installedUnder s t.key)
    (key : String) : installedUnder (s.putTarget t) key = installedUnder s key := by
  rw [installedUnder_putTarget]
  split
  · rename_i here
    rw [here, same]
  · rfl

/-- A target that takes the place of another one with the same set installs nothing. -/
theorem installedUnder_of_found (keyed : Keyed s) {tenant controller : String} {new : Target}
    (found : s.target? tenant controller = some t) (key : new.key = t.key)
    (same : new.installed = t.installed) : new.installed = installedUnder s new.key := by
  rw [key, keyed found, installedUnder, show s.targets.get? (Target.keyOf tenant controller) =
    some t from found, Option.bind_some, same]

/-- A target that takes the place of none, and has nothing installed, installs nothing. -/
theorem installedUnder_of_absent {tenant controller : String}
    (absent : s.target? tenant controller = none) (key : t.key = Target.keyOf tenant controller)
    (bare : t.installed = none) : t.installed = installedUnder s t.key := by
  rw [key, installedUnder, show s.targets.get? (Target.keyOf tenant controller) = none
    from absent, Option.bind_none, bare]

end Records

section Steps

variable {settings : Settings} {s s' s'' : Store} {a b cancel subject : Action} {key : String}
  {now : Instant}

/-- Where actions and targets are the same, nothing is installed. -/
theorem Still.of_eq (actions : s'.actions = s.actions) (targets : s'.targets = s.targets) :
    Still s s' where
  finished _ _ := Finished.congr actions
  installed key := by rw [installedUnder, targets, installedUnder]

theorem Still.trans (first : Still s s') (second : Still s' s'') : Still s s'' where
  finished key a := (second.finished key a).trans (first.finished key a)
  installed key := (second.installed key).trans (first.installed key)

/-- Writing a target with the set that was installed before installs nothing. -/
theorem Installing.putTarget {u : Store} {t : Target}
    (finished : ∀ key b, Finished u key b ↔ Finished s key b) (targets : u.targets = s.targets)
    (same : t.installed = installedUnder s t.key) : Installing s (u.putTarget t) := by
  have under (key : String) : installedUnder u key = installedUnder s key := by
    rw [installedUnder, targets, installedUnder]
  refine .still ⟨fun key b => (finished_putTarget t).trans (finished key b), fun key => ?_⟩
  rw [installedUnder_putTarget_same (same.trans (under t.key).symm), under]

/-- Both sides of a pair may end or go on, as long as the deployment does not finish. -/
theorem Pending.finished_pair (pending : Pending s cancel subject) (paired : Paired s)
    {status other : Status} {active running : Bool} (runs : other ≠ .finished)
    (first second : LogEntry) (key : String) (b : Action) :
    Finished ((s.record (cancel.moved status active now) first).record
      (subject.moved other running now) second) key b ↔ Finished s key b := by
  -- The cancellation is no deployment, and its subject has not finished before.
  have middle (key : String) (b : Action) :
      Finished (s.record (cancel.moved status active now) first) key b ↔ Finished s key b :=
    finished_record (Or.inl (Action.isCancel_of_names pending.names)) fun _ _ finished =>
      finished.id_ne (a := cancel) paired pending.cancelStored pending.cancelActive
  refine (finished_record (Or.inr runs) fun key b finished => ?_).trans (middle key b)
  exact ((middle key b).mp finished).id_ne (a := subject) paired pending.subjectStored
    pending.subjectActive

/-- A closing report installs the set of its deployment, unless it tells of a failure. -/
theorem close_installing (paired : Paired s) (keyed : Keyed s) {d : Deployment} {t : Target}
    (stored : s.actions.get? a.id = some a) (deploys : a.order = .deploy d)
    (active : a.active = true) (found : s.target? a.tenant a.controller = some t) (f : Feedback)
    (now : Instant) : Installing s (s.close a d.distributionSet t f now) := by
  -- A failure is an end, but not one that counts as finished.
  have finished (outcome : f.outcome.status ≠ .finished) (key : String) (b : Action) :
      Finished (s.record (a.moved f.outcome.status false now)
        (f.entry a.id f.outcome.status now)) key b ↔ Finished s key b :=
    finished_record (Or.inr outcome) fun _ _ before =>
      before.id_ne (a := a) paired stored active
  have installs (outcome : f.outcome.status = .finished) :
      -- A success is the one end that installs the set of the deployment.
      Installing s (s.close a d.distributionSet t f now) := by
    refine .finished a d.distributionSet now stored (Action.isCancel_of_order deploys) active
      (Action.set?_of_order deploys) ?_ (fun key b other => ?_) fun key => ?_
    · rw [Store.get?_close, if_pos rfl, outcome]
    · exact (finished_putTarget _).trans (finished_record_other other)
    · rw [installedUnder, targets_close keyed found]
      split
      · exact closed_installs outcome
      · rfl
  cases outcome : f.outcome with
  | success => exact installs (by rw [outcome]; rfl)
  | none => exact installs (by rw [outcome]; rfl)
  | failure =>
    -- A failure keeps what is installed.
    have fails : f.outcome.status ≠ .finished := by simp [outcome, Outcome.status]
    refine Installing.putTarget (u := s.record (a.moved f.outcome.status false now)
      (f.entry a.id f.outcome.status now)) (finished fails) rfl ?_
    rw [outcome]
    exact installedUnder_of_found keyed found rfl rfl

/-- No report that does not close finishes a deployment. -/
theorem finished_progressed (paired : Paired s) {f : Feedback} {step : Transition} {e : LogEntry}
    (stored : s.actions.get? a.id = some a) (going : f.execution ≠ .closed)
    (reported : a.report f now = .ok step) :
    Finished (s.record step.action e) key b ↔ Finished s key b := by
  have active : a.active = true := Action.active_of_open (Action.open_of_reported reported)
  refine finished_record ?_ fun key b before => ?_
  -- What stays in flight has not finished, and what moves does so to a status that is no end.
  · rcases Action.report_going going reported with stays | ⟨-, status, stands, moved⟩
    · rw [stays]
      refine Or.inr fun finished => ?_
      have closed := (paired.ended stored).mpr (by rw [finished]; simp [Status.ends])
      rw [active] at closed
      cases closed
    · rw [moved, Action.moved_status]
      refine Or.inr ?_
      rintro rfl
      cases execution : f.execution <;> simp [execution, Action.reported?] at stands
  · rw [Action.report_id reported]
    exact before.id_ne paired stored active

/-- A cancellation that ends is no deployment that finishes. -/
theorem finished_remark (cancels : cancel.isCancel = true)
    (stored : s.actions.get? cancel.id = some cancel) {status : Status} {active : Bool}
    {e : LogEntry} :
    Finished (s.record (cancel.moved status active now) e) key b ↔ Finished s key b := by
  refine finished_record (a := cancel.moved status active now) (Or.inl cancels) ?_
  -- A cancellation is no deployment, so nothing finished stands under its number.
  intro key b finished same
  have equal := stored_unique finished.stored stored same
  have deploys := finished.deploys
  rw [equal, cancels] at deploys
  cases deploys

/-- What ends besides and is no deployment has no part in what is installed. -/
theorem Installing.remark (installing : Installing s s') (cancels : cancel.isCancel = true)
    (stored : s'.actions.get? cancel.id = some cancel) {status : Status} {active : Bool}
    {e : LogEntry} : Installing s (s'.record (cancel.moved status active now) e) := by
  -- A remark on a cancellation is no deployment that finishes.
  have rest (key : String) (b : Action) :
      Finished (s'.record (cancel.moved status active now) e) key b ↔ Finished s' key b :=
    finished_remark cancels stored
  cases installing with
  | still still =>
    exact .still ⟨fun key b => (rest key b).trans (still.finished key b), still.installed⟩
  | finished a set now stored' deploys active own ended others installed =>
    -- The deployment that finishes is another action than the cancellation.
    refine .finished a set now stored' deploys active own ?_
      (fun key b other => (rest key b).trans (others key b other)) installed
    have apart : a.id ≠ cancel.id := fun same => by
      have kind := congrArg Action.isCancel (stored_unique (a := a.moved .finished false now)
        ended stored same)
      rw [Action.moved_isCancel, deploys, cancels] at kind
      cases kind
    rw [Store.get?_record, Action.moved_id, if_neg apart]
    exact ended

/-- Every step installs one set at most. -/
theorem Step.installing (step : Step settings s s') (indexed : Indexed s) (paired : Paired s)
    (keyed : Keyed s) : Installing s s' := by
  cases step with
  | published => exact .still (.of_eq rfl rfl)
  -- The next three write the target with the set that it had.
  | registered tenant controller attributes now absent =>
    exact .putTarget (fun _ _ => Iff.rfl) rfl (installedUnder_of_absent absent rfl rfl)
  | polled tenant controller address now =>
    refine .putTarget (fun _ _ => Iff.rfl) rfl ?_
    cases known : s.target? tenant controller with
    | none => exact installedUnder_of_absent known rfl rfl
    | some t => exact installedUnder_of_found keyed known rfl rfl
  | described tenant controller t r now found =>
    exact .putTarget (fun _ _ => Iff.rfl) rfl (installedUnder_of_found keyed found rfl rfl)
  | requested subject now stored inFlight =>
    have active := (Action.isInFlight_iff.mp inFlight).1
    -- The subject goes on, and the new action is a cancellation.
    have middle (key : String) (b : Action) : Finished ((s.advance sequence).record
        (subject.moved .canceling true now) ((subject.moved .canceling true now).remark now
          ("cancellation requested by action " ++ Text.decimal (s.nextNumber sequence)))) key b ↔
        Finished s key b := by
      refine (finished_record (Or.inr (by simp)) fun key b before => ?_).trans
        (finished_advance sequence)
      exact ((finished_advance sequence).mp before).id_ne (a := subject) paired stored active
    refine .still ⟨fun key b => ?_, fun _ => rfl⟩
    refine (finished_record (Or.inl rfl) fun key b before => ?_).trans (middle key b)
    exact ((middle key b).mp before).id_ne_next indexed
  | deployed tenant controller t d rollout now found =>
    refine Installing.putTarget (u := (s.advance sequence).record
      (newAction (s.nextNumber sequence) tenant controller d rollout now)
      ((newAction (s.nextNumber sequence) tenant controller d rollout now).remark now
        "assignment initiated")) (fun key b => ?_) rfl
      (installedUnder_of_found keyed found rfl rfl)
    refine (finished_record (Or.inr (by simp [newAction])) fun key b before => ?_).trans
      (finished_advance sequence)
    exact ((finished_advance sequence).mp before).id_ne_next indexed
  -- A report that does not close finishes nothing.
  | progressed a f now step stored room going reported =>
    exact .still ⟨fun key b => finished_progressed paired stored going reported, fun _ => rfl⟩
  | closed a d t f now stored deploys room closing inFlight found =>
    exact close_installing paired keyed stored deploys (Action.isInFlight_iff.mp inFlight).1 found
      f now
  | superseded cancel a d t f now pending deploys room closing found =>
    -- The cancellation that ends with the deployment is no deployment.
    refine (close_installing paired keyed pending.subjectStored deploys pending.subjectActive found
      f now).remark (Action.isCancel_of_names pending.names) ?_
    rw [Store.get?_close, if_neg pending.id_ne]
    exact pending.cancelStored
  -- A confirmed cancellation ends two actions, and neither of them has finished.
  | confirmed cancel subject t f now pending room closing found =>
    refine Installing.putTarget (u := (s.record (cancel.moved .canceled false now)
      (f.entry cancel.id .canceled now)).record (subject.moved .canceled false now)
        ((subject.moved .canceled false now).remark now
          ("canceled by action " ++ Text.decimal cancel.id)))
      (pending.finished_pair paired (by simp) _ _) rfl ?_
    exact installedUnder_of_found keyed found rfl rfl

/-- The refusal of a cancellation finishes nothing. -/
theorem Resumption.still (resumption : Resumption cancel subject s s') (paired : Paired s) :
    Still s s' := by
  cases resumption with | resumed now pending =>
  exact ⟨pending.finished_pair paired (by simp) _ _, fun _ => rfl⟩

/-- Where no action ends, nothing is installed. -/
theorem Installing.still_of_spares (installing : Installing s s') (spares : Spares s s') :
    Still s s' := by
  cases installing with
  | still still => exact still
  | finished a set now stored deploys active own ended =>
    exact (spares.not_of_ended stored active ended rfl).elim

end Steps

section Naming

variable {s s' : Store} {a b : Action} {key : String}

theorem traced_empty : Traced .empty := by
  intro key
  constructor
  · intro installed
    simp [installedUnder, Store.empty] at installed
  · rintro ⟨a, finished⟩
    have stored := finished.stored
    simp [Store.empty] at stored

theorem named_empty : Named .empty := by
  intro key a newest
  have stored := newest.finished.stored
  simp [Store.empty] at stored

/-- Nothing comes to be finished besides the deployment that ends. -/
theorem Finished.of_ended (finished : Finished s' key b)
    (ended : s'.actions.get? a.id = some (a.moved .finished false now))
    (others : ∀ key b, b.id ≠ a.id → (Finished s' key b ↔ Finished s key b)) :
    b = a.moved .finished false now ∨ b.id ≠ a.id ∧ Finished s key b := by
  by_cases here : b.id = a.id
  · exact Or.inl (stored_unique (b := a.moved .finished false now) finished.stored ended here)
  · exact Or.inr ⟨here, (others key b here).mp finished⟩

/-- The deployment that ends has finished. -/
theorem finished_ended (deploys : a.isCancel = false)
    (ended : s'.actions.get? a.id = some (a.moved .finished false now)) :
    Finished s' a.targetKey (a.moved .finished false now) :=
  ⟨ended, rfl, deploys, rfl⟩

/-- What is installed stays what has been finished. -/
theorem Installing.traced (installing : Installing s s') (paired : Paired s) (traced : Traced s) :
    Traced s' := by
  intro key
  cases installing with
  -- Without a newly finished deployment all is as it was before.
  | still still =>
    rw [still.installed, traced key]
    exact exists_congr fun a => (still.finished key a).symm
  -- The installed set is replaced for the target of the deployment alone.
  | finished a set now stored deploys active own ended others installed =>
    rw [installed]
    split
    · rename_i here
      exact iff_of_true rfl ⟨_, here ▸ finished_ended deploys ended⟩
    · rename_i other
      rw [traced key]
      constructor
      · rintro ⟨b, finished⟩
        have apart := finished.id_ne (a := a) paired stored active
        exact ⟨b, (others key b apart).mpr finished⟩
      · rintro ⟨b, finished⟩
        rcases finished.of_ended ended others with same | ⟨-, before⟩
        · -- The deployment that has ended is one to another target.
          subst same
          exact absurd finished.own.symm other
        · exact ⟨b, before⟩

/-- The newest deployments name what is installed, unless an older one has finished after them. -/
theorem Installing.named (installing : Installing s s') (paired : Paired s) (named : Named s)
    (timely : ¬ Belated s s') : Named s' := by
  intro key b newest
  cases installing with
  | still still =>
    -- The newest deployments are those of the state before.
    rw [still.installed]
    exact named ⟨(still.finished key b).mp newest.finished,
      fun c before => newest.last ((still.finished key c).mpr before)⟩
  | finished a set now stored deploys active own ended others installed =>
    rw [installed]
    rcases newest.finished.of_ended ended others with same | ⟨apart, before⟩
    -- Either the newest deployment is the one that has just finished, or it was so before.
    · subst same
      exact own.trans (if_pos newest.finished.own.symm).symm
    · have was : Newest s key b := by
        refine ⟨before, fun c old => newest.last ((others key c ?_).mpr old)⟩
        exact old.id_ne (a := a) paired stored active
      split
      · rename_i here
        subst here
        -- The deployment that has just finished is older than the newest one.
        have finished := finished_ended deploys ended
        have newer : a.id < b.id :=
          Nat.lt_of_le_of_ne (newest.last (b := a.moved .finished false now) finished)
            (Ne.symm apart)
        have late : ¬ Finished s a.targetKey (a.moved .finished false now) := fun old =>
          old.id_ne (a := a) paired stored active rfl
        by_contra differs
        refine timely (.belated a.targetKey _ b finished late was newer fun same => differs ?_)
        rw [← same, ← own]
        rfl
      · exact named was

/-- A deployment that finishes late leaves another set installed than that of the newest one. -/
theorem Installing.belated (installing : Installing s s') (paired : Paired s)
    (belated : Belated s s') : ¬ Named s' := by
  intro named
  cases belated with | belated key c b finished late newest newer differs =>
  cases installing with
  -- A step that finishes nothing has no belated finish in it.
  | still still => exact late ((still.finished key c).mp finished)
  | finished a set now stored deploys active own ended others installed =>
    rcases finished.of_ended ended others with same | ⟨-, before⟩
    · subst same
      have under := finished.own
      subst under
      -- The newer one is still the newest, but its set is not installed any more.
      have still : Newest s' a.targetKey b := by
        have apart := newest.finished.id_ne (a := a) paired stored active
        refine ⟨(others _ b apart).mpr newest.finished, fun d later => ?_⟩
        rcases later.of_ended ended others with same | ⟨-, before⟩
        · subst same
          exact Nat.le_of_lt newer
        · exact newest.last before
      have same := named still
      rw [installed, if_pos rfl, ← own] at same
      exact differs same.symm
    · exact late before

end Naming

end Deployments

namespace Device

open Deployments (Finished Indexed Newest stored_unique)

variable {s : Store} {tenant controller : String} {actions : List Action} {a b : Action}

/-- No deployment that has finished has a higher number than the one that is listed as installed. -/
theorem installed?_last (ascending : actions.Pairwise fun a b => a.id < b.id)
    -- The newest action stands first in the list that is searched.
    (found : installed? actions = some a) (member : b ∈ actions) (deploys : b.isCancel = false)
    (finished : b.status = .finished) : b.id ≤ a.id := by
  obtain ⟨-, newer, older, split, none⟩ := List.find?_eq_some_iff_append.mp found
  have descending : (newer ++ a :: older).Pairwise fun a b => b.id < a.id :=
    split ▸ List.pairwise_reverse.mpr ascending
  have listed : b ∈ newer ++ a :: older := split ▸ List.mem_reverse.mpr member
  rcases List.mem_append.mp listed with before | rest
  · -- What comes before has been passed over.
    have passed := none b before
    simp [deploys, finished] at passed
  · rcases List.mem_cons.mp rest with rfl | after
    · exact Nat.le_refl _
    · obtain ⟨-, others, -⟩ := List.pairwise_append.mp descending
      exact Nat.le_of_lt ((List.pairwise_cons.mp others).1 b after)

/-- Where a deployment has finished, one is listed as installed. -/
theorem installed?_isSome_of_finished (indexed : Indexed s)
    (finished : Finished s (Target.keyOf tenant controller) a) :
    (installed? (s.actionsOf tenant controller)).isSome = true := by
  refine List.find?_isSome.mpr ⟨a, ?_, by simp [finished.deploys, finished.status]⟩
  exact List.mem_reverse.mpr (indexed.mem_actionsOf.mpr ⟨finished.stored, finished.own⟩)

/-- The deployment that is listed as installed is the newest one that has finished. -/
theorem installed?_eq_some (indexed : Indexed s) :
    installed? (s.actionsOf tenant controller) = some a ↔
      Newest s (Target.keyOf tenant controller) a := by
  have newest {a : Action} (found : installed? (s.actionsOf tenant controller) = some a) :
      Newest s (Target.keyOf tenant controller) a := by
    have passes := List.find?_some found
    have listed := List.mem_reverse.mp (List.mem_of_find?_eq_some found)
    obtain ⟨stored, own⟩ := indexed.mem_actionsOf.mp listed
    -- What is found is a finished deployment, and it is the first such in the list.
    simp only [Bool.and_eq_true, Bool.not_eq_true', beq_iff_eq] at passes
    refine ⟨⟨stored, own, passes.1, passes.2⟩, fun b finished => ?_⟩
    exact installed?_last (indexed.actionsOf_pairwise tenant controller) found
      (indexed.mem_actionsOf.mpr ⟨finished.stored, finished.own⟩) finished.deploys finished.status
  refine ⟨newest, fun last => ?_⟩
  have listed := installed?_isSome_of_finished indexed last.finished
  -- Two newest deployments have the same number.
  obtain ⟨b, found⟩ := Option.isSome_iff_exists.mp listed
  have other := newest found
  rw [found, stored_unique last.finished.stored other.finished.stored
    (Nat.le_antisymm (other.last last.finished) (last.last other.finished))]

/-- A deployment is listed as installed exactly if one has finished. -/
theorem installed?_isSome (indexed : Indexed s) :
    (installed? (s.actionsOf tenant controller)).isSome = true ↔
      ∃ a, Finished s (Target.keyOf tenant controller) a := by
  constructor
  -- It is the same search, so one is found exactly if there is one.
  · intro some
    obtain ⟨a, found⟩ := Option.isSome_iff_exists.mp some
    exact ⟨a, ((installed?_eq_some indexed).mp found).finished⟩
  · rintro ⟨a, finished⟩
    exact installed?_isSome_of_finished indexed finished

end Device

end DeviceUpdate
