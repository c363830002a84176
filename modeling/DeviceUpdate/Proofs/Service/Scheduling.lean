import DeviceUpdate.Proofs.Service.Step

/-! What stopping and evaluating rollouts do, step by step. -/

namespace DeviceUpdate.Rollouts

open Service (Coherent Steps)

variable {settings : Settings} {started : Nat → Prop} {s s' : Store} {r : Rollout}
  {g : RolloutGroup} {now : Instant}

/-- Where a test finds one of the groups in the order of their positions, those before it fail. -/
theorem find?_first {groups : List RolloutGroup} {test : RolloutGroup → Bool}
    (ascending : groups.Pairwise fun a b => a.position < b.position)
    (found : groups.find? test = some g) {h : RolloutGroup} (member : h ∈ groups)
    (before : h.position < g.position) : test h = false := by
  -- The list splits at the group that is found, and the test fails on the front part.
  obtain ⟨-, front, back, split, fails⟩ := List.find?_eq_some_iff_append.mp found
  rw [split, List.mem_append, List.mem_cons] at member
  rcases member with early | rfl | late
  · simpa using fails h early
  · omega
  · rw [split, List.pairwise_append, List.pairwise_cons] at ascending
    have after := ascending.2.1.1 h late
    omega

/-- The groups of a stored rollout are listed in the order of their positions. -/
theorem Placed.groupsOf_pairwise (placed : Placed s) {rollout : Nat}
    (stored : s.rollouts.get? rollout = some r) :
    (s.groupsOf rollout).Pairwise fun a b => a.position < b.position := by
  rw [← List.pairwise_map, placed.groupsOf_positions stored]
  exact List.pairwise_lt_range

/-- The deployments in flight that are listed for a group are cancelled. -/
theorem cancelGroup_eq_ok {u : Unit} (done : cancelGroup now g s = .ok (u, s')) :
    s' = s.requestCancels ((s.actionsOfGroup g.id).filter (·.isInFlight)) now := by
  simp only [cancelGroup, Transaction.read_bind_apply] at done
  obtain ⟨cancels, s₁, requests, last⟩ := Transaction.bind_eq_ok.mp done
  have result := Transaction.state_eq last
  rw [← result, Deployments.mapM_cancelIn_eq_ok requests]

/-- What is cancelled for a group belongs to it. -/
theorem cancelGroup_requests (indexed : Deployments.Indexed s) (filed : Deployments.Filed s)
    (done : cancelGroup now g s = .ok ((), s')) :
    Deployments.Requests (Deployments.Names g.id) now s s' := by
  rw [cancelGroup_eq_ok done]
  -- The list of the group has each action once, and only those in flight are taken.
  refine Deployments.requestCancels_requests indexed
    ((indexed.actionsOfGroup_pairwise g.id).filter _) (fun a member => ?_)
    (fun a member => filed.names (List.mem_filter.mp member).1) now
  obtain ⟨listed, inFlight⟩ := List.mem_filter.mp member
  exact ⟨indexed.mem_actionsOfGroup listed, inFlight⟩

/-- The deployments in flight of several groups are cancelled one by one. -/
theorem cancelGroups_requests (indexed : Deployments.Indexed s) (filed : Deployments.Filed s)
    {groups : List RolloutGroup} {units : List Unit}
    (done : (groups.mapM (cancelGroup now)) s = .ok (units, s')) :
    Deployments.Requests (fun a => ∃ g ∈ groups, Deployments.Names g.id a) now s s' := by
  -- By induction on the groups: the requests of the first one leave a state to start the others
  -- from.
  induction groups generalizing s units with
  | nil =>
    have result := Transaction.state_eq done
    rw [← result]
    exact Relation.ReflTransGen.refl
  | cons g rest ih =>
    rw [List.mapM_cons] at done
    obtain ⟨_, s₁, first, more⟩ := Transaction.bind_eq_ok.mp done
    obtain ⟨_, s₂, others, last⟩ := Transaction.bind_eq_ok.mp more
    have result := Transaction.state_eq last
    rw [result] at others
    have requests := cancelGroup_requests indexed filed first
    have following := ih (requests.indexed indexed) (requests.filed indexed filed) others
    refine (requests.mono fun a names => ⟨g, List.mem_cons_self, names⟩).trans
      (following.mono fun a => ?_)
    rintro ⟨h, member, names⟩
    exact ⟨h, List.mem_cons_of_mem g member, names⟩

/-- A rollout of a tenant is stopped before its groups are gone through. -/
theorem stop_cancels {tenant : String} {id : Nat} {stopped : Rollout}
    (done : stop tenant id now s = .ok (stopped, s')) :
    ∃ r units, s.rollouts.get? id = some r ∧ r.tenant = tenant ∧ r.status ∈ stoppable ∧
      ((s.groupsOf id).mapM (cancelGroup now)) (s.putRollout { r with status := .stopped }) =
        .ok (units, s') := by
  obtain ⟨moved, s₁, first, rest⟩ := Transaction.bind_eq_ok.mp done
  obtain ⟨r, stored, owner, allowed, same⟩ := transition_eq_ok first
  simp only [Transaction.read_bind_apply] at rest
  obtain ⟨units, s₂, cancels, last⟩ := Transaction.bind_eq_ok.mp rest
  have result := Transaction.state_eq last
  have cancelled := Transaction.mapError_eq_ok.mp cancels
  -- The move of the rollout leaves its groups as they are.
  rw [result, same] at cancelled
  exact ⟨r, units, stored, owner, allowed, cancelled⟩

/-- A rollout of a tenant that is stopped moves, and then its deployments in flight are cancelled. -/
theorem stop_eq_ok (coherent : Coherent started s) {tenant : String} {id : Nat}
    {stopped : Rollout} (done : stop tenant id now s = .ok (stopped, s')) :
    ∃ r, s.rollouts.get? r.id = some r ∧ r.tenant = tenant ∧ r.status ∈ stoppable ∧
      Deployments.Requests (fun a => ∃ g ∈ s.groupsOf r.id, Deployments.Names g.id a) now
        (s.putRollout { r with status := .stopped }) s' := by
  -- The record of the rollout comes before the requests, and touches no action.
  obtain ⟨r, units, stored, owner, allowed, cancels⟩ := stop_cancels done
  have own := coherent.placed.own stored
  subst own
  have indexed : Deployments.Indexed (s.putRollout { r with status := .stopped }) :=
    coherent.indexed.putRollout _
  have filed : Deployments.Filed (s.putRollout { r with status := .stopped }) :=
    coherent.filed.unchanged rfl rfl
  exact ⟨r, stored, owner, allowed, cancelGroups_requests indexed filed cancels⟩

/-- What the start of a group does for a member is to assign it the set, if it is still known. -/
theorem assignMember_enrols {own : TenantSettings} {group : Nat} {controller : String}
    (done : assignMember own r group now controller s = .ok ((), s')) :
    Enrols own r group now controller s s' := by
  -- A member whose target is gone is passed over, but its request is judged all the same.
  simp only [assignMember, Transaction.read_bind_apply] at done
  cases target : s.target? r.tenant controller with
  | some t =>
    simp only [target, Option.isSome_some, ↓reduceIte] at done
    obtain ⟨assigned, s₁, assigns, last⟩ := Transaction.bind_eq_ok.mp done
    have result := Transaction.state_eq last
    rw [← result]
    exact .assigned assigned (Deployments.assignIn_eq_ok assigns)
  | none =>
    simp only [target, Option.isSome_none, Bool.false_eq_true, ↓reduceIte,
      Transaction.lift_bind_eq_ok] at done
    obtain ⟨weight, -, last⟩ := done
    have result := Transaction.state_eq last
    rw [← result]
    exact .gone target

/-- The members of a group that starts are assigned the set of its rollout one by one. -/
theorem assignMembers_launch {own : TenantSettings} {group : Nat} {members : List String}
    (done : (members.forM (assignMember own r group now)) s = .ok ((), s')) :
    Launch own r group now members s s' := by
  -- Member by member, in the order of the list.
  induction members generalizing s with
  | nil =>
    have result := Transaction.state_eq done
    rw [← result]
    exact .nil s
  | cons controller rest ih =>
    rw [List.forM_eq_forM, List.forM_cons] at done
    obtain ⟨_, s₁, first, others⟩ := Transaction.bind_eq_ok.mp done
    exact .cons (assignMember_enrols first) (ih others)

/-- A group whose turn it is starts, and its members are assigned the set of the rollout. -/
theorem startGroup_round (runs : Runs s r g)
    (turn : ∀ h ∈ s.groupsOf r.id, h.position < g.position → h.status.isSettled = true)
    (done : startGroup (settings.tenant r.tenant) r g now s = .ok ((), s')) :
    Round settings r.id s s' := by
  unfold startGroup at done
  split at done
  -- A group without members has finished as soon as it starts.
  · rename_i empty
    rw [Transaction.moveGroup_bind_apply] at done
    have result := Transaction.state_eq done
    rw [← result]
    rcases moveGroup_cases s g.id startable .finished with stays | ⟨h, found, allowed, moves⟩
    · rw [stays]
      exact .quiet (.refl s)
    -- The group moves only as the one that was found.
    · rw [moves]
      have same : h = g := Option.some.inj (found.symm.trans runs.storedGroup)
      subst same
      exact .quiet (Turn.skipped r h runs rfl allowed turn empty).turns
  · rename_i occupied
    rw [Transaction.moveGroup_bind_apply] at done
    rcases moveGroup_cases s g.id startable .running with stays | ⟨h, found, allowed, moves⟩
    -- A group that cannot be started any more stays as it is.
    · rw [stays] at done
      have result := Transaction.state_eq done
      rw [← result]
      exact .quiet (.refl s)
    · rw [moves] at done
      have same : h = g := Option.some.inj (found.symm.trans runs.storedGroup)
      subst same
      simp only [↓reduceIte, Transaction.read_bind_apply] at done
      -- The assignments follow in the state in which the group runs.
      exact .launching s (.refl s) (.launched r h now runs rfl allowed turn
        (assignMembers_launch (Transaction.mapError_eq_ok.mp done)) occupied)

/-- A rollout that is moved from running to paused is paused in a step. -/
theorem moveRollout_paused (placed : Placed s) (id : Nat) :
    Turns id s (s.moveRollout id [.running] .paused).2 := by
  -- A rollout that does not run is not paused.
  rcases moveRollout_cases s id [.running] .paused with stays | ⟨r, found, allowed, moves⟩
  · rw [stays]
    exact .refl s
  · rw [moves]
    have own := placed.own found
    have note : Note id s (s.putRollout { r with status := .paused }) :=
      .paused r (by rw [own]; exact found) own (List.mem_singleton.mp allowed)
    exact (Turn.noted note).turns

/-- A running group that fails is settled, and its rollout pauses. -/
theorem failGroup_eq_ok (runs : Runs s r g) (active : g.status = .running)
    (done : failGroup r g s = .ok ((), s')) :
    s' = (s.putGroup { g with status := .error }).putRollout { r with status := .paused } := by
  have moves : s.moveGroup g.id [.running] .error =
      (true, s.putGroup { g with status := .error }) := by
    simp [Store.moveGroup, runs.storedGroup, active]
  -- The rollout is found as it was, since only the group has changed.
  have pauses : (s.putGroup { g with status := .error }).moveRollout r.id [.running] .paused =
      (true, (s.putGroup { g with status := .error }).putRollout { r with status := .paused }) := by
    have found : (s.putGroup { g with status := .error }).rollouts.get? r.id = some r :=
      runs.stored
    simp [Store.moveRollout, found, runs.running]
  simp only [failGroup, Transaction.moveGroup_bind_apply, moves, ↓reduceIte] at done
  -- There is no other action on failure than to pause.
  cases action : g.onFailure.getD .pause with
  | pause =>
    simp only [Transaction.moveRollout_bind_apply, pauses] at done
    exact (Transaction.state_eq done).symm

/-- The failure of a running group is a turn of the group and then one of its rollout. -/
theorem failGroup_turns (runs : Runs s r g) (active : g.status = .running)
    (done : failGroup r g s = .ok ((), s')) : Turns r.id s s' := by
  rw [failGroup_eq_ok runs active done]
  -- The group settles first, while the rollout still runs.
  have settles : Turn r.id s (s.putGroup { g with status := .error }) :=
    .settled r g .error runs rfl active rfl
  have pauses : Turn r.id (s.putGroup { g with status := .error })
      ((s.putGroup { g with status := .error }).putRollout { r with status := .paused }) :=
    .noted (.paused r runs.stored rfl runs.running)
  exact settles.turns.trans pauses.turns

/-- When a running group has finished, the next one has its turn. -/
theorem next_turn (placed : Placed s) (runs : Runs s r g)
    (first : ∀ h ∈ s.groupsOf r.id, h.position < g.position → h.status.isSettled = true)
    (next : RolloutGroup) (found : ((s.groupsOf r.id).find? fun n =>
      g.position < n.position && !n.status.isSettled) = some next) :
    Runs (s.putGroup { g with status := .finished }) r next ∧
      ∀ h ∈ (s.putGroup { g with status := .finished }).groupsOf r.id,
        h.position < next.position → h.status.isSettled = true := by
  have member := List.mem_of_find?_eq_some found
  obtain ⟨stored, own⟩ := placed.mem_groupsOf.mp member
  -- The next group is found behind the one that has finished.
  have after : g.position < next.position := by
    have passes := List.find?_some found
    simp only [Bool.and_eq_true, decide_eq_true_eq] at passes
    exact passes.1
  -- The two groups differ, as one stands behind the other.
  have other : next.id ≠ g.id := fun same => by
    rw [same, runs.storedGroup] at stored
    rw [Option.some.inj stored] at after
    omega
  refine ⟨⟨runs.stored, runs.running, ?_, own⟩, fun h listed before => ?_⟩
  · rw [get?_putGroup, if_neg other]
    exact stored
  · -- What comes before the next group is the finished one, or was settled already.
    obtain ⟨storedH, ownH⟩ := (placed.putGroup runs.storedGroup .finished).mem_groupsOf.mp listed
    rw [get?_putGroup] at storedH
    split at storedH
    · rw [← Option.some.inj storedH]
      rfl
    · have listedH := placed.mem_groupsOf.mpr ⟨storedH, ownH⟩
      have fails := find?_first (placed.groupsOf_pairwise runs.stored) found listedH before
      simp only [Bool.and_eq_false_imp, decide_eq_true_eq, Bool.not_eq_false'] at fails
      -- A group at the place of the finished one is that group.
      rcases Nat.lt_trichotomy h.position g.position with early | same | late
      · exact first h listedH early
      · have equal := placed.unique storedH runs.storedGroup (ownH.trans runs.own.symm) same
        rename_i apart
        exact absurd (by rw [equal]) apart
      · exact fails late

/-- A running group that has succeeded is settled, and then the next one starts. -/
theorem finishGroup_round (coherent : Coherent started s) (runs : Runs s r g)
    (active : g.status = .running)
    (first : ∀ h ∈ s.groupsOf r.id, h.position < g.position → h.status.isSettled = true)
    (done : finishGroup (settings.tenant r.tenant) r g (s.groupsOf r.id) now s = .ok ((), s')) :
    Round settings r.id s s' := by
  simp only [finishGroup, Transaction.moveGroup_bind_apply] at done
  rcases moveGroup_cases s g.id [.running] .finished with stays | ⟨h, found, allowed, moves⟩
  -- A group that has been settled meanwhile is not finished again.
  · rw [stays] at done
    have result := Transaction.state_eq done
    rw [← result]
    exact .quiet (.refl s)
  · rw [moves] at done
    have same : h = g := Option.some.inj (found.symm.trans runs.storedGroup)
    subst same
    have ends : Turn r.id s (s.putGroup { h with status := .finished }) :=
      .settled r h .finished runs rfl active rfl
    have turns := next_turn coherent.placed runs first
    -- What follows depends on the store after the group has finished, not on how it came about.
    generalize s.putGroup { h with status := .finished } = s₁ at done ends turns
    cases action : h.onSuccess with
    | nextGroup =>
      simp only [↓reduceIte, action] at done
      cases found : (s.groupsOf r.id).find? fun n =>
          h.position < n.position && !n.status.isSettled with
      | some next =>
        -- The next group starts at once, if there is one.
        simp only [found] at done
        obtain ⟨nextRuns, turn⟩ := turns next found
        exact ends.turns.round (startGroup_round nextRuns turn done)
      | none =>
        simp only [found] at done
        have result := Transaction.state_eq done
        rw [← result]
        exact .quiet ends.turns
    | pause =>
      simp only [↓reduceIte, action, Transaction.moveRollout_bind_apply] at done
      have result := Transaction.state_eq done
      rw [← result]
      exact .quiet (ends.turns.trans
        (moveRollout_paused (ends.step.placed coherent.placed) r.id))

/-- The check of a running group is a round. -/
theorem checkGroup_round (coherent : Coherent started s) (runs : Runs s r g)
    (active : g.status = .running)
    (first : ∀ h ∈ s.groupsOf r.id, h.position < g.position → h.status.isSettled = true)
    (done : checkGroup (settings.tenant r.tenant) r g (s.groupsOf r.id) now s = .ok ((), s')) :
    Round settings r.id s s' := by
  simp only [checkGroup, Transaction.read_bind_apply, Transaction.lift_bind_eq_ok] at done
  obtain ⟨failed, -, rest⟩ := done
  -- The failure is tested before the success.
  cases failed with
  | true => exact .quiet (failGroup_turns runs active rest)
  | false =>
    simp only [Bool.false_eq_true, ↓reduceIte, Transaction.lift_bind_eq_ok] at rest
    obtain ⟨succeeded, -, rest⟩ := rest
    cases succeeded with
    | true => exact finishGroup_round coherent runs active first rest
    | false =>
      simp only [Bool.false_eq_true, ↓reduceIte] at rest
      -- A group that can do no more has failed as well.
      split at rest
      · exact .quiet (failGroup_turns runs active rest)
      · have result := Transaction.state_eq rest
        rw [← result]
        exact .quiet (.refl s)

/-- A running rollout advances by a round. -/
theorem advance_round (coherent : Coherent started s) (stored : s.rollouts.get? r.id = some r)
    (running : r.status = .running)
    (done : advance (settings.tenant r.tenant) r now s = .ok ((), s')) :
    Round settings r.id s s' := by
  simp only [advance, Transaction.read_bind_apply] at done
  cases found : (s.groupsOf r.id).find? fun g => !g.status.isSettled with
  | none =>
    -- Nothing is left to advance.
    simp only [found] at done
    have result := Transaction.state_eq done
    rw [← result]
    exact .quiet (.refl s)
  | some g =>
    simp only [found] at done
    obtain ⟨storedGroup, own⟩ :=
      coherent.placed.mem_groupsOf.mp (List.mem_of_find?_eq_some found)
    have runs : Runs s r g := ⟨stored, running, storedGroup, own⟩
    -- The group is the first that has not settled, so it is its turn.
    have first (h : RolloutGroup) (member : h ∈ s.groupsOf r.id)
        (before : h.position < g.position) : h.status.isSettled = true := by
      simpa using find?_first (coherent.placed.groupsOf_pairwise stored) found member before
    split at done
    · rename_i active
      exact checkGroup_round coherent runs active first done
    · exact startGroup_round runs first done

/-- A rollout whose groups have all settled is completed. -/
theorem complete_notes (placed : Placed s) {id : Nat} (done : complete id s = .ok ((), s')) :
    Notes id s s' := by
  simp only [complete, Transaction.read_bind_apply] at done
  split at done
  -- All groups have settled, so a rollout that runs is completed.
  · rename_i settled
    rw [Transaction.moveRollout_bind_apply] at done
    have result := Transaction.state_eq done
    rw [← result]
    rcases moveRollout_cases s id [.running] (outcomeOf (s.groupsOf id)) with
      stays | ⟨r, found, allowed, moves⟩
    -- The rollout is not completed if it does not run.
    · exact (congrArg (Notes id s) (congrArg Prod.snd stays)).mpr Relation.ReflTransGen.refl
    · refine (congrArg (Notes id s) (congrArg Prod.snd moves)).mpr ?_
      have own := placed.own found
      subst own
      have note : Note r.id s (s.putRollout { r with status := outcomeOf (s.groupsOf r.id) }) :=
        .completed r found rfl (List.mem_singleton.mp allowed) fun g member =>
          List.all_eq_true.mp settled g member
      exact Relation.ReflTransGen.single note
  · have result := Transaction.state_eq done
    rw [← result]
    exact Relation.ReflTransGen.refl

/-- The time of an examination is noted. -/
theorem noteCheck_notes (placed : Placed s) (id : Nat) : Notes id s (noteCheck id now s) := by
  unfold noteCheck
  split
  · rename_i r found
    have own := placed.own found
    exact Relation.ReflTransGen.single (.examined r now (by rw [own]; exact found) own)
  · exact Relation.ReflTransGen.refl

/-- An evaluation advances a running rollout, then may complete it, and then notes the time. -/
theorem evaluate_parts (coherent : Coherent started s) (stored : s.rollouts.get? r.id = some r)
    (running : r.status = .running) (done : evaluate settings r.id now s = .ok ((), s')) :
    ∃ s₁ s₂, advance (settings.tenant r.tenant) r now s = .ok ((), s₁) ∧
      Round settings r.id s s₁ ∧ complete r.id s₁ = .ok ((), s₂) ∧ Notes r.id s₁ s₂ ∧
      s' = noteCheck r.id now s₂ ∧ Notes r.id s₂ s' := by
  -- The evaluation is an advance, then a completion, and a note at the end.
  simp only [evaluate, Transaction.read_bind_apply, stored, running, ↓reduceIte] at done
  obtain ⟨_, s₁, advances, rest⟩ := Transaction.bind_eq_ok.mp done
  obtain ⟨_, s₂, completes, last⟩ := Transaction.bind_eq_ok.mp rest
  -- Each part goes on in the state that the one before it has left.
  have round : Round settings r.id s s₁ := advance_round coherent stored running advances
  have after : Coherent started s₁ := (round.steps coherent).coherent coherent
  have completed : Notes r.id s₁ s₂ := complete_notes after.placed completes
  have steps : Steps settings s₁ s₂ := completed.turns.steps
  rw [Transaction.change_apply] at last
  have result := (Transaction.state_eq last).symm
  refine ⟨s₁, s₂, advances, round, completes, completed, result, ?_⟩
  rw [result]
  exact noteCheck_notes (steps.coherent after).placed r.id

/-- What an evaluation does to a running rollout is a round, and then what is noted of it. -/
theorem evaluate_evaluation (coherent : Coherent started s)
    (stored : s.rollouts.get? r.id = some r) (running : r.status = .running)
    (done : evaluate settings r.id now s = .ok ((), s')) : Evaluation settings r.id s s' := by
  obtain ⟨s₁, s₂, -, round, -, completed, -, noted⟩ :=
    evaluate_parts coherent stored running done
  exact .evaluated s₁ round (completed.trans noted)

/-- An evaluation changes nothing unless the rollout runs. -/
theorem evaluate_eq_ok (coherent : Coherent started s) {id : Nat}
    (done : evaluate settings id now s = .ok ((), s')) :
    s' = s ∨ ∃ r, s.rollouts.get? r.id = some r ∧ r.status = .running ∧
      Evaluation settings r.id s s' := by
  cases found : s.rollouts.get? id with
  | none =>
    -- A rollout that is not stored is not evaluated.
    simp only [evaluate, Transaction.read_bind_apply, found] at done
    exact Or.inl (Transaction.state_eq done).symm
  | some r =>
    have own := coherent.placed.own found
    subst own
    by_cases running : r.status = .running
    · exact Or.inr ⟨r, found, running, evaluate_evaluation coherent found running done⟩
    -- A rollout that does not run is left alone.
    · simp only [evaluate, Transaction.read_bind_apply, found, running, ↓reduceIte] at done
      exact Or.inl (Transaction.state_eq done).symm

end DeviceUpdate.Rollouts
