import DeviceUpdate.Proofs.Deployment.Closed
import DeviceUpdate.Proofs.Deployment.Origin
import DeviceUpdate.Proofs.Service.Run
import DeviceUpdate.Proofs.Service.Scheduling
import Mathlib.Data.List.Induction

/-! What a call comes to: one deed of few kinds, each with all that it may change, and with it a run
of steps, so that the invariant holds in every state of every run. -/

namespace DeviceUpdate.Service

section Deeds

/-- What a call does to targets and actions, where it does nothing else. -/
inductive Act (settings : Settings) (c : Call) (s s' : Store) : Prop
  | aside (actions : s'.actions = s.actions) (log : s'.log = s.log)
  | assigned (tenant controller : String) (q : AssignmentRequest) (result : Deployments.Assigned)
      (assigns : Deployments.Assigns (settings.tenant tenant) tenant controller q none c.now s
        result s') (own : c.operation = .assign tenant controller q)
  | cancelled (subject : Action) (stored : s.actions.get? subject.id = some subject)
      (same : s' = s.requestCancel subject c.now)
  | reported (controller : String) (a : Action) (f : Feedback) (cancel : Bool)
      (own : c.operation = .report a.tenant controller a.id f cancel)
      (stored : s.actions.get? a.id = some a)
      (room : s.countEntries a.id (some .device) < (settings.tenant a.tenant).maxEntries)
      (reporting : Deployments.Reporting a f c.now s s')

/-- What a call does that leaves a store behind. -/
inductive Deed (settings : Settings) (h : History) (c : Call) (s' : Store) : Prop
  /-- Targets and actions change, if anything does, and nothing is deployed for a group. -/
  | acted (steps : Deployments.Steps settings h.present s')
      (inherits : Deployments.Inherits h.present s')
      -- Where an action ends, there is one step only.
      (ends : Deployments.Spares h.present s' ∨ Deployments.Step settings h.present s')
      (act : Act settings c h.present s')
  | resumed (cancel subject : Action) (own : c.operation = .rejectCancel cancel.tenant cancel.id)
      (resumption : Deployments.Resumption cancel subject h.present s')
  | planned (tenant : String) (q : Rollouts.Request) (since : Nat) (members : List (List String))
      (total : Nat) (own : c.operation = .createRollout tenant q since)
      (valid : q.validate = .ok ()) (same : s' = h.present.plant tenant q members total c.now)
  | started (id : Nat) (start : Rollouts.Start id h.present s')
  /-- An administrator moves a rollout, whose deployments may be cancelled after that. -/
  | moved (r : Rollout) (status : RolloutStatus) (stored : h.present.rollouts.get? r.id = some r)
      (moves : Rollouts.Moves r.status status)
      (requests : Deployments.Requests (fun _ => True) c.now
        (h.present.putRollout { r with status := status }) s')
  | evaluated (r : Rollout) (stored : h.present.rollouts.get? r.id = some r)
      (running : r.status = .running)
      (evaluation : Rollouts.Evaluation settings r.id h.present s')
  /-- A condition could not be read in the evaluation of a rollout that runs. -/
  | failed (id since : Nat) (expression : String) (fault : Rollouts.ConditionFault)
      (fails : Rollouts.evaluate settings id c.now (h.ago since) =
        .error (.invalidCondition expression fault))
      (failure : Rollouts.Failure id h.present s')
  | removed (r : Rollout) (stored : h.present.rollouts.get? r.id = some r)
      (deleting : r.status = .deleting) (same : s' = (h.present.removeRollout r.id).2)

variable {settings : Settings} {started : Nat → Prop} {h : History} {c : Call}

/-- A call that changes nothing does nothing for groups. -/
theorem Deed.unchanged (settings : Settings) (h : History) (c : Call) :
    Deed settings h c h.present :=
  .acted Relation.ReflTransGen.refl (.refl h.present) (Or.inl (.refl h.present)) (.aside rfl rfl)

/-- A transaction does what its success does, or nothing. -/
theorem Deed.run {ε α : Type} (t : Transaction ε α)
    (succeeds : ∀ a s', t h.present = .ok (a, s') → Deed settings h c s') :
    Deed settings h c (t.run h.present).2 := by
  rcases t.run_cases h.present with same | ⟨a, done⟩
  · rw [same]
    exact .unchanged settings h c
  · exact succeeds a _ done

variable {s' : Store} {now : Instant} {tenant controller : String} {id : Nat}

/-- What leaves the actions and their logs as they are deploys nothing. -/
theorem Deed.aside (step : Deployments.Step settings h.present s')
    (same : s'.actions = h.present.actions) (log : s'.log = h.present.log) :
    Deed settings h c s' :=
  .acted step.steps (.of_found fun id => by rw [same]) (Or.inr step) (.aside same log)

/-- An assignment that is accepted ends no action. -/
theorem Deed.of_assign (coherent : Coherent started h.present) {q : AssignmentRequest}
    {result : Deployments.Assigned}
    (done : Deployments.assign (settings.tenant tenant) tenant controller q now h.present =
      .ok (result, s')) : Deed settings h ⟨now, .assign tenant controller q⟩ s' := by
  have assigns := Deployments.assignIn_eq_ok done
  exact .acted (assigns.steps coherent.indexed) (assigns.inherits coherent.indexed)
    (Or.inl (assigns.spares coherent.indexed)) (.assigned tenant controller q _ assigns rfl)

/-- A cancellation that is accepted is a request for that of one deployment. -/
theorem Deed.of_cancel (coherent : Coherent started h.present) {a : Action}
    (done : Deployments.cancel tenant id now h.present = .ok (a, s')) :
    Deed settings h ⟨now, .cancel tenant id⟩ s' := by
  obtain ⟨subject, found, -, -, same⟩ := Deployments.cancel_eq_ok done
  have stored := (coherent.indexed.action?_eq_some found).1
  have step : Deployments.Step settings _ _ := Deployments.cancel_step coherent.indexed done
  refine .acted step.steps ?_ (Or.inr step) (.cancelled subject stored same)
  -- What is new is no deployment, and all others were there before.
  rw [same]
  exact .requestCancel stored now

/-- A report that is taken is one step, and is about an action of the target. -/
theorem Deed.of_report (coherent : Coherent started h.present) {f : Feedback} {cancel : Bool}
    {reported : Deployments.Reported}
    (done : Deployments.report (settings.tenant tenant) tenant controller id f cancel now
      h.present = .ok (reported, s')) :
    Deed settings h ⟨now, .report tenant controller id f cancel⟩ s' := by
  -- The accepted report is one step, and its action is the one that was found.
  obtain ⟨a, found, -, room, -, reporting⟩ :=
    Deployments.report_reporting coherent.indexed coherent.paired done
  have step := Deployments.report_step coherent.indexed coherent.paired done
  obtain ⟨stored, rfl, rfl⟩ := coherent.indexed.action?_eq_some found
  exact .acted step.steps (reporting.inherits stored) (Or.inr step)
    (.reported controller a f cancel rfl stored room reporting)

/-- A rollout is stored as it was planned, though the plan may be older than the state. -/
theorem Deed.of_createRollout (q : Rollouts.Request) (since : Nat) :
    Deed settings h ⟨now, .createRollout tenant q since⟩
      (Call.apply settings h ⟨now, .createRollout tenant q since⟩) := by
  simp only [Call.apply]
  split
  · rename_i members total planned
    refine Deed.run _ fun _ _ done => ?_
    exact .planned tenant q since members total rfl (Rollouts.planned_valid planned)
      (Rollouts.storePlanned_eq_ok done)
  · exact .unchanged settings h _

/-- A rollout is started, or stays as it is. -/
theorem Deed.of_start (starts : s' = h.present ∨ Rollouts.Start id h.present s') :
    Deed settings h c s' := by
  rcases starts with rfl | start
  · exact .unchanged settings h c
  · exact .started id start

/-- A transition moves a rollout in a way that is allowed, and cancels nothing. -/
theorem Deed.of_transition (coherent : Coherent started h.present)
    {expected : List RolloutStatus} {status : RolloutStatus} {operation : Rollouts.Operation}
    {moved : Rollout} (allowed : ∀ old ∈ expected, Rollouts.Moves old status)
    (done : Rollouts.transition tenant id expected status operation h.present =
      .ok (moved, s')) : Deed settings h c s' := by
  obtain ⟨r, stored, moves, same⟩ := Rollouts.transition_moves coherent.placed allowed done
  rw [same]
  exact .moved r status stored moves Relation.ReflTransGen.refl

/-- A failure is marked in the rollout that runs, though the evaluation may have failed in an older
state than that of the mark. -/
theorem Deed.of_markFailed (coherent : Coherent started h.present) (id since : Nat) :
    Deed settings h ⟨now, .markFailed id since⟩
      (Call.apply settings h ⟨now, .markFailed id since⟩) := by
  simp only [Call.apply]
  cases outcome : Rollouts.evaluate settings id now (h.ago since) with
  | ok done =>
    simp only [Transaction.run, StateT.run, outcome]
    exact .unchanged settings h _
  | error e =>
    simp only [Transaction.run, StateT.run, outcome]
    -- Only a condition that cannot be read is marked, and only where the rollout runs.
    rcases Rollouts.onFailure_cases coherent.placed e with
      same | ⟨⟨expression, fault, rfl⟩, failure⟩
    · rw [same]
      exact .unchanged settings h _
    · exact .failed id since expression fault outcome failure

/-- Every call is a deed. -/
theorem Call.deed (c : Call) (h : History) (coherent : Coherent started h.present) :
    Deed settings h c (c.apply settings h) := by
  obtain ⟨now, operation⟩ := c
  cases operation with
  -- The records of sets and targets are changed beside the actions.
  | createSet tenant name version modules =>
    refine Deed.run _ fun _ _ done => .aside (Deployments.createSet_step done) ?_ ?_ <;>
      rw [(Deployments.createSet_eq_ok done).2] <;> rfl
  | createTarget tenant controller attributes =>
    refine Deed.run _ fun _ _ done => .aside (Deployments.createTarget_step done) ?_ ?_ <;>
      rw [(Deployments.createTarget_eq_ok done).2.2] <;> rfl
  | poll tenant controller address =>
    exact .aside (Deployments.touch_step settings h.present tenant controller address now) rfl rfl
  | describe tenant controller r =>
    refine Deed.run _ fun _ _ done => ?_
    obtain ⟨known, -, -, stored⟩ := Deployments.updateAttributes_eq_ok done
    refine .aside (Deployments.updateAttributes_step done) ?_ ?_ <;> rw [stored] <;> rfl
  | assign tenant controller q => exact Deed.run _ fun _ _ done => .of_assign coherent done
  | cancel tenant id => exact Deed.run _ fun _ _ done => .of_cancel coherent done
  -- A refusal is kept apart from the steps, with the call that it came from.
  | rejectCancel tenant id =>
    refine Deed.run _ fun _ _ done => ?_
    obtain ⟨cancel, subject, rfl, rfl, -, resumption⟩ :=
      Deployments.rejectCancel_resumption coherent.indexed coherent.paired done
    exact .resumed cancel subject rfl resumption
  | report tenant controller id f cancel =>
    exact Deed.run _ fun _ _ done => .of_report coherent done
  | createRollout tenant q since => exact .of_createRollout q since
  | startRollout tenant id =>
    exact Deed.run _ fun _ _ done => .of_start (Rollouts.start_eq_ok coherent.placed done)
  -- Each transition has one status to come from, but for the mark of a deletion.
  | pauseRollout tenant id =>
    exact Deed.run _ fun _ _ done => .of_transition coherent
      (fun old member => by rw [List.mem_singleton.mp member]; exact .pause) done
  | resumeRollout tenant id =>
    exact Deed.run _ fun _ _ done => .of_transition coherent
      (fun old member => by rw [List.mem_singleton.mp member]; exact .resume) done
  | markRollout tenant id =>
    exact Deed.run _ fun _ _ done => .of_transition coherent (fun _ allowed => .delete allowed) done
  | stopRollout tenant id =>
    refine Deed.run _ fun _ _ done => ?_
    obtain ⟨r, stored, -, allowed, requests⟩ := Rollouts.stop_eq_ok coherent done
    exact .moved r .stopped stored (.stop allowed) (requests.mono fun _ _ => trivial)
  | startDue id =>
    exact Deed.run _ fun _ _ done => .of_start (Rollouts.startIn_eq_ok coherent.placed done)
  | evaluate id =>
    refine Deed.run _ fun _ _ done => ?_
    rcases Rollouts.evaluate_eq_ok coherent done with rfl | ⟨r, stored, running, evaluation⟩
    · exact .unchanged settings h _
    · exact .evaluated r stored running evaluation
  | markFailed id since => exact .of_markFailed coherent id since
  | purge id =>
    refine Deed.run _ fun _ _ done => ?_
    rcases Rollouts.purge_eq_ok coherent.placed done with rfl | ⟨r, stored, deleting, same⟩
    · exact .unchanged settings h _
    · exact .removed r stored deleting same

end Deeds

section Runs

variable {settings : Settings} {started : Nat → Prop} {s s' : Store}

/-- What a call comes to. -/
inductive Effect (settings : Settings) (operation : Operation) (s s' : Store) : Prop
  | steps (steps : Steps settings s s')
  | resumed (cancel subject : Action) (own : operation = .rejectCancel cancel.tenant cancel.id)
      (resumption : Deployments.Resumption cancel subject s s')
  | started (id : Nat) (start : Rollouts.Start id s s')
  | failed (id : Nat) (failure : Rollouts.Failure id s s')

/-- Every deed is a run of steps, the refusal of a cancellation, or a start or a failure. -/
theorem Deed.effect {h : History} {c : Call} (deed : Deed settings h c s')
    (coherent : Coherent started h.present) : Effect settings c.operation h.present s' := by
  cases deed with
  -- Everything that does not concern the start of a rollout is made of steps.
  | acted steps inherits => exact .steps (.deployment steps)
  | resumed cancel subject own resumption => exact .resumed cancel subject own resumption
  | planned tenant q since members total own valid same =>
    rw [same]
    exact .steps (.rollout (.created h.present tenant q members total c.now))
  | started id start => exact .started id start
  | moved r status stored moves requests =>
    have move : Steps settings h.present (h.present.putRollout { r with status := status }) :=
      .rollout (.moved h.present r status stored moves)
    exact .steps (move.trans (.deployment requests.steps))
  | evaluated r stored running evaluation => exact .steps (evaluation.steps coherent)
  | failed id since expression fault fails failure => exact .failed id failure
  | removed r stored deleting same =>
    rw [same]
    exact .steps (.rollout (.removed h.present r stored deleting))

/-- Every call is a run of steps, the refusal of a cancellation, or a start or a failure. -/
theorem Call.effect (c : Call) (h : History) (coherent : Coherent started h.present) :
    Effect settings c.operation h.present (c.apply settings h) :=
  (c.deed h coherent).effect coherent

/-- A rollout has been started after a call if it had been before or runs now. -/
theorem started_next (h : History) (c : Call) (id : Nat) :
    (h.next settings c).started id ↔ h.started id ∨
      ∃ r, (h.next settings c).present.rollouts.get? id = some r ∧ r.status = .running := by
  constructor
  -- A rollout has been started once it has been seen running, now or earlier.
  · rintro ⟨s, member, runs⟩
    rcases List.mem_cons.mp member with rfl | earlier
    · exact Or.inr runs
    · exact Or.inl ⟨s, earlier, runs⟩
  · rintro (⟨s, member, runs⟩ | runs)
    · exact ⟨s, List.mem_cons_of_mem _ member, runs⟩
    · exact ⟨_, List.mem_cons_self, runs⟩

/-- The invariant holds for the rollouts that have been started, if it holds for the right ones. -/
theorem Coherent.next {h : History} {c : Call} {known : Nat → Prop}
    (coherent : Coherent known (h.next settings c).present)
    (kept : ∀ id, h.started id → known id)
    (only : ∀ id, known id → (h.next settings c).started id) :
    Coherent (h.next settings c).started (h.next settings c).present := by
  -- Both sides agree on every rollout, since what runs has been started.
  have same : known = (h.next settings c).started := by
    funext id
    refine propext ⟨only id, fun begun => ?_⟩
    rcases (started_next h c id).mp begun with before | ⟨r, found, running⟩
    · exact kept id before
    · exact coherent.arranged.begun found (by simp [running, Rollouts.startedStatuses])
  rw [← same]
  exact coherent

/-- A rollout runs once it has been started. -/
theorem Start.running {id : Nat} (start : Rollouts.Start id s s') :
    ∃ r, s'.rollouts.get? id = some r ∧ r.status = .running := by
  cases start with | started r stored own ready =>
  subst own
  -- Scheduling the groups does not touch the rollout.
  refine ⟨{ r with status := .running }, ?_, rfl⟩
  rw [Rollouts.scheduleGroups_frame]
  exact (Table.get?_insert s.rollouts r.id r.id _).trans (if_pos rfl)

/-- Every call keeps the invariant. -/
theorem Coherent.call {h : History} (coherent : Coherent h.started h.present) (c : Call) :
    Coherent (h.next settings c).started (h.next settings c).present := by
  -- What has been started before stays so.
  have kept (id : Nat) (begun : h.started id) : (h.next settings c).started id :=
    (started_next h c id).mpr (Or.inl begun)
  have effect : Effect settings c.operation h.present (c.apply settings h) := c.effect h coherent
  cases effect with
  | steps steps => exact Coherent.next (steps.coherent coherent) (fun _ => id) kept
  | resumed cancel subject own resumption =>
    exact Coherent.next (coherent.resumption resumption) (fun _ => id) kept
  | failed id failure => exact Coherent.next (coherent.failure failure) (fun _ begun => begun) kept
  | started id start =>
    -- A start adds its rollout to the started ones, and it runs in the state after it.
    refine Coherent.next (coherent.start start) (fun _ => Or.inl) fun other known => ?_
    rcases known with begun | rfl
    · exact kept other begun
    · exact (started_next h c other).mpr (Or.inr (Start.running start))

/-- The invariant holds in every state of every run. -/
theorem coherent_history (settings : Settings) (calls : List Call) :
    Coherent (history settings calls).started (history settings calls).present := by
  induction calls using List.reverseRecOn with
  | nil =>
    -- Nothing is stored at the start, so nothing runs.
    have none_started : (history settings []).started = fun _ => False := by
      funext id
      simp [History.started, Store.empty]
    rw [none_started]
    exact coherent_empty
  | append_singleton calls c ih =>
    rw [history_concat]
    exact ih.call c

/-- What holds at the start and is kept by every deed holds in every state of every run. -/
theorem history_holds {holds : Store → Prop} (start : holds .empty)
    (kept : ∀ (calls : List Call) (c : Call),
      Deed settings (history settings calls) c (history settings (calls ++ [c])).present →
      holds (history settings calls).present → holds (history settings (calls ++ [c])).present)
    (calls : List Call) : holds (history settings calls).present := by
  induction calls using List.reverseRecOn with
  -- The invariant is carried along the calls, each of which does its deed.
  | nil => exact start
  | append_singleton calls c ih =>
    refine kept calls c ?_ ih
    rw [history_concat]
    exact c.deed _ (coherent_history settings calls)

end Runs

end DeviceUpdate.Service
