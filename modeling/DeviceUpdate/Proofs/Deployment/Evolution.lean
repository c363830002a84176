import DeviceUpdate.Proofs.Deployment.Exclusion

/-! How the deployments to a target change from step to step. -/

namespace DeviceUpdate.Deployments

/-- How what is stored under a number may change where nothing is deployed to a target. -/
inductive Evolves (key : String) : Option Action → Option Action → Prop
  | kept (stored : Option Action) : Evolves key stored stored
  /-- What has moved is in flight only if it was so before. -/
  | moved {a : Action} {status : Status} {active : Bool} {now : Instant}
    (rests : (a.moved status active now).isInFlight = true → a.isInFlight = true) :
    Evolves key (some a) (some (a.moved status active now))
  /-- What is new cancels, or is about another target. -/
  | added {a : Action} (aside : a.isCancel = true ∨ a.targetKey ≠ key) : Evolves key none (some a)

/-- Nothing is deployed to the target of a key between two states. -/
def Evolution (key : String) (s s' : Store) : Prop :=
  ∀ id, Evolves key (s.actions.get? id) (s'.actions.get? id)

/-- A new deployment to the target of a key. -/
inductive Deploys (settings : Settings) (key : String) (s : Store) : Store → Prop
  | deployed (tenant controller : String) (t : Target) (d : Deployment)
      (rollout : Option Membership) (now : Instant)
      (here : Target.keyOf tenant controller = key)
      (found : s.target? tenant controller = some t)
      (alone : (settings.tenant tenant).multiAssignments = false →
        ∀ a ∈ s.actionsOf tenant controller, a.isInFlight = false) :
      Deploys settings key s (s.deploy t tenant controller d rollout now)

section Evolution

variable {settings : Settings} {s s' : Store} {key tenant controller : String}
  {a cancel subject : Action}

/-- What is found as it was has not evolved. -/
theorem Evolution.of_eq (same : s'.actions = s.actions) : Evolution key s s' := by
  intro id
  rw [same]
  exact .kept _

/-- One stored action may move and be in flight no more than before. -/
theorem Evolution.of_move {status : Status} {active : Bool} {now : Instant}
    (stored : s.actions.get? a.id = some a)
    (rests : (a.moved status active now).isInFlight = true → a.isInFlight = true)
    (found : ∀ id, s'.actions.get? id =
      if id = a.id then some (a.moved status active now) else s.actions.get? id) :
    Evolution key s s' := by
  -- One number is looked up at a time, and only that of the moved action is told anew.
  intro id
  rw [found]
  split
  · rename_i here
    rw [here, stored]
    exact .moved rests
  · exact .kept _

/-- Two stored actions may end. -/
theorem Evolution.of_ends {first second : Action} {status other : Status} {now : Instant}
    (storedFirst : s.actions.get? first.id = some first)
    (storedSecond : s.actions.get? second.id = some second)
    (found : ∀ id, s'.actions.get? id =
      if id = second.id then some (second.moved other false now)
      else if id = first.id then some (first.moved status false now) else s.actions.get? id) :
    Evolution key s s' := by
  intro id
  rw [found]
  split
  -- What has ended is not in flight, so there is nothing to show for either.
  · rename_i here
    rw [here, storedSecond]
    exact .moved (by simp [isInFlight_moved_inactive])
  · split
    · rename_i here
      rw [here, storedFirst]
      exact .moved (by simp [isInFlight_moved_inactive])
    · exact .kept _

/-- A step that deploys nothing to a target leaves at most what was in flight before. -/
theorem Step.evolution (step : Step settings s s') (indexed : Indexed s) (key : String) :
    Deploys settings key s s' ∨ Evolution key s s' := by
  -- Of all steps one kind deploys, and the others move what is stored or cancel it.
  cases step with
  | published => exact Or.inr (.of_eq rfl)
  | registered => exact Or.inr (.of_eq rfl)
  | polled => exact Or.inr (.of_eq rfl)
  | described => exact Or.inr (.of_eq rfl)
  | requested subject now stored inFlight =>
    refine Or.inr fun id => ?_
    rw [Store.get?_requestCancel]
    split
    -- The new action cancels.
    · rename_i new
      rw [new, indexed.next_absent]
      exact .added (Or.inl rfl)
    · split
      -- The subject of the request goes on and stays in flight.
      · rename_i here
        rw [here, stored]
        exact .moved fun _ => inFlight
      · exact .kept _
  | deployed owner device t d rollout now found known alone =>
    -- Only a deployment to this very target counts as one.
    by_cases here : Target.keyOf owner device = key
    · exact Or.inl (.deployed owner device t d rollout now here found alone)
    · refine Or.inr fun id => ?_
      rw [Store.get?_deploy]
      split
      · rename_i new
        rw [new, indexed.next_absent]
        exact .added (Or.inr here)
      · exact .kept _
  | progressed a f now step stored room going reported =>
    refine Or.inr fun id => ?_
    rw [Store.get?_record]
    split
    -- Only what is in flight is moved by a report that does not close.
    · rename_i here
      rcases Action.report_going going reported with stays | ⟨inFlight, status, -, moved⟩
      · rw [here, stays, stored]
        exact .kept _
      · rw [here, moved, Action.moved_id, stored]
        exact .moved fun _ => inFlight
    · exact .kept _
  | closed a d t f now stored =>
    exact Or.inr (.of_move stored (by simp [isInFlight_moved_inactive])
      (Store.get?_close s a d.distributionSet t f now))
  | superseded cancel a d t f now pending =>
    exact Or.inr (.of_ends pending.subjectStored pending.cancelStored
      (Store.get?_closeSuperseded s a cancel d.distributionSet t f now))
  | confirmed cancel subject t f now pending =>
    exact Or.inr (.of_ends pending.cancelStored pending.subjectStored
      (Store.get?_confirm s subject cancel t f now))

/-- What was listed for the target is still listed, perhaps in another state. -/
theorem Evolution.forth (evolution : Evolution (Target.keyOf tenant controller) s s')
    (indexed : Indexed s) (after : Indexed s') (listed : a ∈ s.actionsOf tenant controller) :
    ∃ status active now, a.moved status active now ∈ s'.actionsOf tenant controller := by
  obtain ⟨stored, own⟩ := indexed.mem_actionsOf.mp listed
  have evolves := evolution a.id
  rw [stored] at evolves
  generalize later : s'.actions.get? a.id = found at evolves
  -- What is stored is never removed, so it was kept or has moved.
  cases evolves with
  | kept => exact ⟨a.status, a.active, a.modifiedAt, after.mem_actionsOf.mpr ⟨later, own⟩⟩
  | @moved _ status active now rests =>
    exact ⟨status, active, now, after.mem_actionsOf.mpr ⟨later, own⟩⟩

/-- A deployment that is listed for the target was listed before, and was in flight if it is so. -/
theorem Evolution.back (evolution : Evolution (Target.keyOf tenant controller) s s')
    (indexed : Indexed s) (after : Indexed s') (listed : a ∈ s'.actionsOf tenant controller)
    (deploys : a.isCancel = false) :
    ∃ b ∈ s.actionsOf tenant controller, b.id = a.id ∧ b.isCancel = false ∧
      (a.isInFlight = true → b.isInFlight = true) := by
  obtain ⟨stored, own⟩ := after.mem_actionsOf.mp listed
  have evolves := evolution a.id
  -- What the step has done under this number is told by its evolution.
  rw [stored] at evolves
  generalize earlier : s.actions.get? a.id = found at evolves
  cases evolves with
  | kept => exact ⟨a, indexed.mem_actionsOf.mpr ⟨earlier, own⟩, rfl, deploys, id⟩
  | @moved b status active now rests =>
    exact ⟨b, indexed.mem_actionsOf.mpr ⟨earlier, own⟩, rfl, deploys, rests⟩
  -- A new deployment would not be to this target.
  | added aside =>
    rcases aside with cancels | other
    · rw [deploys] at cancels
      cases cancels
    · exact absurd own other

/-- A new deployment is not to a target to which nothing is deployed. -/
theorem Evolution.apart {owner device : String} {t : Target} {d : Deployment}
    {rollout : Option Membership} {now : Instant}
    (evolution : Evolution key s (s.deploy t owner device d rollout now)) (indexed : Indexed s) :
    Target.keyOf owner device ≠ key := by
  -- Under the number of the deployment nothing was stored before.
  have new := evolution (s.nextNumber sequence)
  rw [indexed.next_absent, Store.get?_deploy, if_pos rfl] at new
  cases new with | added aside =>
  exact aside.resolve_left (by simp [newAction, Action.isCancel, Action.cancels?])

end Evolution

end DeviceUpdate.Deployments
