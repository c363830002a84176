import DeviceUpdate.Http.Server
import DeviceUpdate.Proofs.Deployment.Administration
import DeviceUpdate.Proofs.Service.Coverage
import DeviceUpdate.Proofs.Service.Polling

/-! Requests that fail: whatever they have begun, the store is what it was before. -/

namespace DeviceUpdate

/-- Whether a computation that fails leaves the store as it was. -/
def Keeps {ε α : Type} (step : Store → Except ε α × Store) : Prop :=
  ∀ s e, (step s).1 = .error e → (step s).2 = s

/-- A transaction takes effect as a whole or not at all. -/
theorem Transaction.run_keeps {ε α : Type} (t : Transaction ε α) : Keeps t.run := by
  intro s e failed
  -- The writes before a failure are dropped with it.
  cases done : t s with
  | error e' => simp [Transaction.run, StateT.run, done]
  | ok r => simp [Transaction.run, StateT.run, done] at failed

/-- The deletion of a rollout fails in its first transaction only, before anything is marked. -/
theorem Rollouts.delete_keeps (tenant : String) (id : Nat) : Keeps (delete tenant id) := by
  intro s e failed
  have first := (markDeleted tenant id).run_keeps s
  unfold delete at failed ⊢
  rcases marked : (markDeleted tenant id).run s with ⟨e' | r, s₁⟩
  · rw [marked] at first
    exact first e' rfl
  · -- A rollout that has been marked is removed without fail.
    obtain ⟨done, succeeds⟩ := Service.purge_succeeds (ε := Error) id s₁
    have removes : (purge id : Transaction Error Bool).run s₁ = (.ok done.1, done.2) := by
      simp only [Transaction.run, StateT.run, succeeds]
    rw [marked] at failed
    simp [removes] at failed

/-- A poll finds an answer unless it has to compute an instant beyond the calendar, or the stored
texts of a window lead to a number that its bits cannot hold. -/
theorem Device.poll_error {settings : TenantSettings} {tenant controller : String}
    {address : Option String} {now : Instant} {s : Store} {e : Error}
    (failed : (poll settings tenant controller address now s).1 = .error e) :
    e = .deploy .outOfCalendar ∨ e = .deploy .overrun ∧ ∃ a ∈ s.actionsOf tenant controller,
      ∃ d, a.deployment? = some d ∧ d.policy = .error .overrun := by
  change answerPoll (touch s tenant controller address now).2 settings
    (touch s tenant controller address now).1.1 tenant controller now = .error e at failed
  -- The note of the poll leaves the actions as they are.
  rcases answerPoll_cases (touch s tenant controller address now).2 settings
      (touch s tenant controller address now).1.1 tenant controller now with
    ⟨answer, sleep, answered, -⟩ | ⟨fails, -⟩ | ⟨fails, a, member, -, d, deploys, overruns⟩
  · rw [answered] at failed
    cases failed
  · rw [fails] at failed
    exact .inl (Except.error.inj failed).symm
  · rw [fails] at failed
    exact .inr ⟨(Except.error.inj failed).symm, a, member, d, deploys, overruns⟩

/-- An assignment that finds the set in flight already writes nothing. -/
theorem Deployments.assign_already {settings : TenantSettings} {tenant controller : String}
    {q : AssignmentRequest} {now : Instant} {s s' : Store} {id : Nat}
    (done : assign settings tenant controller q now s = .ok (.already id, s')) : s' = s := by
  -- What writes ends with a new deployment.
  cases assignIn_eq_ok done with
  | already a current => rfl

namespace Http

/-- The response that a computation has come to, unless the program has stopped. -/
def settled? : Except Halt Response → Option Response
  | .ok r | .error (.answered r) => some r
  | .error .stopped => none

namespace Handler

variable {ε α β : Type} {settings : TenantSettings} {tenant controller id : String} {now : Instant}
  {r : Request}

/-- Whether a computation only looks at the store. -/
def Looks (h : Handler α) : Prop :=
  ∀ s, (h.run s).2 = s

/-- Whether a computation leaves the store as it was wherever it answers with an error. -/
def Careful (h : Handler Response) : Prop :=
  ∀ s response, settled? (h.run s).1 = some response → response.code.isError = true →
    (h.run s).2 = s

section Composition

/-- A computation goes on from where its first part has left the store, if that has a value. -/
theorem run_bind (h : Handler α) (f : α → Handler β) (s : Store) :
    (h >>= f).run s = match h.run s with
      | (.ok a, s') => (f a).run s'
      | (.error e, s') => (.error e, s') := by
  change ExceptT.bindCont f (h s).1 (h s).2 = _
  simp only [run, ExceptT.run, StateT.run]
  rcases h s with ⟨e | a, s'⟩ <;> rfl

theorem looks_look (halt : ε → Halt) (f : Store → Except ε α) : Looks (look halt f) :=
  run_look halt f

theorem looks_get : Looks (get : Handler Store) :=
  fun _ => rfl

theorem looks_number (kind text : String) : Looks (number kind text) := by
  intro s
  unfold number
  split <;> rfl

theorem looks_body (r : Request) (decode : Json → Option α) : Looks (body r decode) := by
  intro s
  unfold body
  split
  · rfl
  · split <;> rfl

theorem looks_history (r : Request) : Looks (DeviceApi.history r) := by
  intro s
  unfold DeviceApi.history
  split
  · rfl
  · split <;> rfl
  · rfl

/-- What only looks may answer with anything. -/
theorem Looks.careful {h : Handler Response} (looks : Looks h) : Careful h :=
  fun s _ _ _ => looks s

theorem careful_refuse (code : StatusCode) (message : String) : Careful (refuse code message) :=
  Looks.careful fun _ => rfl

theorem careful_throw (halt : Halt) : Careful (throw halt) :=
  Looks.careful fun _ => rfl

theorem careful_pure (response : Response) : Careful (pure response) :=
  Looks.careful fun _ => rfl

/-- A look at the store in front leaves a computation as careful as it is. -/
theorem Looks.bind {h : Handler α} (looks : Looks h) {f : α → Handler Response}
    (careful : ∀ a, Careful (f a)) : Careful (h >>= f) := by
  intro s response answered failed
  have same := looks s
  rw [run_bind] at answered ⊢
  -- The first part ends the computation, or the second one starts in the same store.
  rcases first : h.run s with ⟨e | a, s₁⟩
  · rw [first] at same
    exact same
  · rw [first] at same answered
    dsimp only at same answered
    subst same
    exact careful a s₁ response answered failed

/-- The last step of a computation may write, if it keeps the store on failure and then answers
with a success. -/
theorem careful_step {halt : ε → Halt} {step : Store → Except ε α × Store} (answer : α → Response)
    (keeps : ∀ s e, (step s).1 = .error e → halt e = .stopped ∨ (step s).2 = s)
    (succeeds : ∀ a, (answer a).code.isError = false) :
    Careful (do let a ← ofStep halt step; pure (answer a)) := by
  intro s response answered failed
  -- A step that fails leaves the store as it was, and one that succeeds is no failure of the
  -- response.
  have kept := keeps s
  rcases done : step s with ⟨e | a, s₁⟩
  · have ends : (do let a ← ofStep halt step; pure (answer a) : Handler Response).run s =
        (.error (halt e), s₁) := by
      rw [run_bind]
      simp only [ofStep, run, ExceptT.run, ExceptT.mk, StateT.run, done]
    rw [ends] at answered ⊢
    rw [done] at kept
    -- Without a response there is nothing to be careful about.
    rcases kept e rfl with left | same
    · simp [left, settled?] at answered
    · exact same
  · have ends : (do let a ← ofStep halt step; pure (answer a) : Handler Response).run s =
        (.ok (answer a), s₁) := by
      rw [run_bind]
      simp only [ofStep, run, ExceptT.run, ExceptT.mk, StateT.run, done]
      rfl
    rw [ends] at answered
    rw [← Option.some.inj answered, succeeds a] at failed
    cases failed

/-- The last step of a computation may be a transaction, if the answer to it is a success. -/
theorem careful_transact {halt : ε → Halt} {t : Transaction ε α} {answer : α → Response}
    (succeeds : ∀ a, (answer a).code.isError = false) :
    Careful (do let a ← transact halt t; pure (answer a)) :=
  careful_step answer (fun s e failed => Or.inr (t.run_keeps s e failed)) succeeds

end Composition

end Handler

section Routes

open Handler

variable (settings : Settings) (tenant controller id : String) (now : Instant) (r : Request)

/-- A document is sent with a success, whether in full or not. -/
theorem DeviceApi.tagged_succeeds {α : Type} (encode : α → Json) (d : Device.Tagged α) :
    (tagged r encode d).code.isError = false := by
  unfold tagged
  by_cases known : isKnown r (quoted d.tag) = true
  · simp only [known, ↓reduceIte]
    rfl
  · simp only [known]
    rfl

/-- The note of a poll stays only where the poll is answered with a document. -/
theorem DeviceApi.poll_careful (own : TenantSettings) :
    Careful (poll own tenant controller now r) := by
  refine careful_step _ (fun s e failed => Or.inl ?_)
    (tagged_succeeds r Device.PollDocument.toJson)
  rcases Device.poll_error failed with rfl | ⟨rfl, -⟩ <;> rfl

/-- Every request of a device on one of its actions is careful. -/
theorem DeviceApi.action_careful (own : TenantSettings) (part : DeviceAction) :
    Careful (action own tenant controller id now r part) := by
  -- A report is the one request on an action that writes.
  have feedback (cancel : Bool) : Careful (feedback own tenant controller id cancel now r) :=
    (looks_body r _).bind fun f => (looks_number _ _).bind fun n =>
      careful_transact fun _ => rfl
  have document (find : Nat → Option Int → Store → Except Device.Error
      (Device.Tagged Device.DeploymentDocument)) : Careful (deployment find id r) :=
    (looks_history r).bind fun requested => (looks_number _ _).bind fun n =>
      (looks_look _ _).bind fun d => careful_pure _
  cases part with
  | deployment => exact document _
  | installed => exact document _
  | cancellation =>
    exact (looks_number _ _).bind fun n => (looks_look _ _).bind fun d => careful_pure _
  | deploymentFeedback => exact feedback false
  | cancellationFeedback => exact feedback true

/-- An assignment answers with a conflict only where it has written nothing. -/
theorem ManagementApi.assign_careful (own : TenantSettings) :
    Careful (assign own tenant controller now r) := by
  refine (looks_body r _).bind fun q => ?_
  -- The assignment is answered in two ways, so its two outcomes are looked at.
  intro s response answered failed
  rw [run_bind] at answered ⊢
  simp only [transact, ofStep, run, ExceptT.run, ExceptT.mk, StateT.run, Transaction.run]
    at answered ⊢
  -- An error takes the transaction back.
  cases done : Deployments.assign own tenant controller q now s with
  | error e => rfl
  | ok result =>
    obtain ⟨assigned, s₁⟩ := result
    simp only [done] at answered ⊢
    cases assigned with
    | already n => exact Deployments.assign_already done
    -- A new deployment is answered with a success.
    | new a cancels =>
      rw [← Option.some.inj answered] at failed
      cases failed

/-- Every request on a target is careful. -/
theorem ManagementApi.target_careful (own : TenantSettings) (part : TargetPart) :
    Careful (target own tenant controller now r part) := by
  cases part with
  | record => exact (looks_look _ _).bind fun t => careful_pure _
  | assignments => exact assign_careful tenant controller now r own
  | actions => exact (looks_look _ _).bind fun actions => careful_pure _

/-- Every request of an administrator on an action is careful. -/
theorem ManagementApi.action_careful (part : ActionPart) : Careful (action tenant id now part) := by
  refine (looks_number _ _).bind fun n => ?_
  cases part with
  | record => exact (looks_look _ _).bind fun a => careful_pure _
  | history => exact (looks_look _ _).bind fun entries => careful_pure _
  | cancel => exact careful_transact fun _ => rfl
  | rejectCancel => exact careful_transact fun _ => rfl

/-- Every request on a rollout is careful. -/
theorem ManagementApi.rollout_careful (method : Method) (part : RolloutPart) :
    Careful (rollout tenant id now method part) := by
  refine (looks_number _ _).bind fun n => ?_
  -- All moves of a rollout are transactions that are answered in the same way.
  have move (step : Transaction Rollouts.Error Rollout) : Careful (move step) :=
    careful_transact fun _ => rfl
  cases part with
  | record =>
    change Careful (rolloutRecord tenant n method)
    unfold rolloutRecord
    split
    -- The deletion is not a single transaction, and keeps the store by a lemma of its own.
    · exact careful_step (fun _ => .result .ok (.string "deleted"))
        (fun s e failed => Or.inr (Rollouts.delete_keeps tenant n s e failed)) fun _ => rfl
    · exact (looks_look _ _).bind fun detail => careful_pure _
  | groups => exact (looks_look _ _).bind fun groups => careful_pure _
  | start => exact move _
  | pause => exact move _
  | resume => exact move _
  | stop => exact move _

/-- Every request on a resource that has its method is careful. -/
theorem handle_careful (route : Route) : Careful (handle settings now r route) := by
  -- Requests that write do so at their end, behind everything that can refuse them.
  cases route with
  | poll tenant controller =>
    exact DeviceApi.poll_careful tenant controller now r (settings.tenant tenant)
  | attributes tenant controller =>
    exact (looks_body r _).bind fun report => careful_transact fun _ => rfl
  | device tenant controller id part =>
    exact DeviceApi.action_careful tenant controller id now r (settings.tenant tenant) part
  | sets tenant =>
    refine (looks_body r _).bind fun q => ?_
    split
    · exact careful_refuse _ _
    · exact careful_transact fun _ => rfl
  -- A set that is asked for is only looked up.
  | set tenant id =>
    refine (looks_number _ _).bind fun n => looks_get.bind fun stored => ?_
    cases stored.set? tenant n with
    | some set => exact careful_pure _
    | none => exact careful_refuse _ _
  | targets tenant =>
    refine (looks_body r _).bind fun q => ?_
    split
    · exact careful_refuse _ _
    · exact careful_transact fun _ => rfl
  | target tenant controller part =>
    exact ManagementApi.target_careful tenant controller now r (settings.tenant tenant) part
  | action tenant id part => exact ManagementApi.action_careful tenant id now part
  -- Rollouts are created under the same address under which they are listed.
  | rollouts tenant =>
    simp only [handle]
    split
    · exact (looks_body r _).bind fun q => careful_transact fun _ => rfl
    · exact Looks.careful fun _ => rfl
  | rollout tenant id part => exact ManagementApi.rollout_careful tenant id now r.method part

/-- Every request is careful, whatever its method, path, headers and body are. -/
theorem respond_careful : Careful (respond settings now r) := by
  unfold respond
  split
  · rename_i route found
    unfold handleRoute
    -- What is refused by its method or its headers does not reach the store.
    dsimp only
    split
    · split
      · exact careful_throw _
      · unfold handleRaw
        split
        · exact handle_careful settings now r _
        · exact careful_throw _
    · exact careful_throw _
  · exact careful_throw _

end Routes

/-- No request that fails has changed anything, whether it comes over the network or not. -/
structure FailuresKeep (settings : Settings) (now : Instant) : Prop where
  response : ∀ (r : Request) (s : Store) (response : Response),
    (serve settings now r s).1 = some response → 400 ≤ response.code.number →
      (serve settings now r s).2 = s
  createTarget : ∀ (tenant controller : String) (attributes : Table String String),
    Keeps (Deployments.createTarget tenant controller attributes now).run
  updateAttributes : ∀ (tenant controller : String) (r : Deployments.AttributeReport),
    Keeps (Deployments.updateAttributes tenant controller r now).run
  assign : ∀ (tenant controller : String) (q : AssignmentRequest),
    Keeps (Deployments.assign (settings.tenant tenant) tenant controller q now).run
  cancel : ∀ (tenant : String) (id : Nat), Keeps (Deployments.cancel tenant id now).run
  rejectCancel : ∀ (tenant : String) (id : Nat),
    Keeps (Deployments.rejectCancel tenant id now).run
  report : ∀ (tenant controller : String) (id : Nat) (f : Feedback) (cancel : Bool),
    Keeps (Deployments.report (settings.tenant tenant) tenant controller id f cancel now).run
  /-- Where a poll ends without an answer the program itself stops: it leaves the calendar, or the
  texts of a stored window lead to a number that its bits cannot hold. -/
  poll : ∀ (tenant controller : String) (address : Option String) (s : Store) (e : Device.Error),
    (Device.poll (settings.tenant tenant) tenant controller address now s).1 = .error e →
      e = .deploy .outOfCalendar ∨ e = .deploy .overrun ∧ ∃ a ∈ s.actionsOf tenant controller,
        ∃ d, a.deployment? = some d ∧ d.policy = .error .overrun
  configData : ∀ (tenant controller : String) (r : Deployments.AttributeReport),
    Keeps (Device.configData tenant controller r now).run
  deviceReport : ∀ (tenant controller : String) (id : Nat) (f : Feedback) (cancel : Bool),
    Keeps (Device.report (settings.tenant tenant) tenant controller id f cancel now).run
  createRollout : ∀ (tenant : String) (q : Rollouts.Request),
    Keeps (Rollouts.create (settings.tenant tenant) tenant q now).run
  startRollout : ∀ (tenant : String) (id : Nat), Keeps (Rollouts.start tenant id).run
  pauseRollout : ∀ (tenant : String) (id : Nat), Keeps (Rollouts.pause tenant id).run
  resumeRollout : ∀ (tenant : String) (id : Nat), Keeps (Rollouts.resume tenant id).run
  stopRollout : ∀ (tenant : String) (id : Nat), Keeps (Rollouts.stop tenant id now).run
  deleteRollout : ∀ (tenant : String) (id : Nat), Keeps (Rollouts.delete tenant id)

/-- Requests that fail change nothing. -/
theorem failures_keep (settings : Settings) (now : Instant) : FailuresKeep settings now where
  response r s response answered failed := by
    have careful := respond_careful settings now r s
    have same : (serve settings now r s).2 = ((respond settings now r).run s).2 := rfl
    rw [same]
    -- A response without its body has the code of the whole one.
    obtain ⟨full, settles, code⟩ : ∃ full,
        settled? ((respond settings now r).run s).1 = some full ∧ full.code = response.code := by
      -- A response to a request for the headers alone has lost its body only.
      change (if r.method = .head then
          (settled? ((respond settings now r).run s).1).map Response.headersOnly
        else settled? ((respond settings now r).run s).1) = some response at answered
      split at answered
      · obtain ⟨full, settles, rfl⟩ := Option.map_eq_some_iff.mp answered
        exact ⟨full, settles, rfl⟩
      · exact ⟨response, answered, rfl⟩
    exact careful full settles (by simpa [StatusCode.isError, code] using failed)
  createTarget _ _ _ := Transaction.run_keeps _
  updateAttributes _ _ _ := Transaction.run_keeps _
  assign _ _ _ := Transaction.run_keeps _
  cancel _ _ := Transaction.run_keeps _
  rejectCancel _ _ := Transaction.run_keeps _
  report _ _ _ _ _ := Transaction.run_keeps _
  poll _ _ _ _ _ failed := Device.poll_error failed
  configData _ _ _ := Transaction.run_keeps _
  deviceReport _ _ _ _ _ := Transaction.run_keeps _
  createRollout _ _ := Transaction.run_keeps _
  startRollout _ _ := Transaction.run_keeps _
  pauseRollout _ _ := Transaction.run_keeps _
  resumeRollout _ _ := Transaction.run_keeps _
  stopRollout _ _ := Transaction.run_keeps _
  deleteRollout tenant id := Rollouts.delete_keeps tenant id

end Http

end DeviceUpdate
