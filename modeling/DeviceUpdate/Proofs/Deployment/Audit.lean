import DeviceUpdate.Proofs.Deployment.Closed

/-! Logs as the record of what happens to actions: one entry for every new status, in order. -/

namespace DeviceUpdate

namespace Store

/-- The position after the first so many positions is the next one. -/
theorem nextPosition_of_range {s : Store} {id n : Nat}
    (range : keysUnder s.log id = List.range n) : s.nextPosition id = n := by
  unfold nextPosition
  rw [range]
  cases n with
  | zero => rfl
  | succ last => simp [List.range_succ]

end Store

namespace Deployments

/-- Records of actions, each with an entry of its own log, among writes of other kinds. -/
inductive Writes (s : Store) : Store → Prop
  | refl : Writes s s
  | record {s' : Store} (before : Writes s s') (a : Action) (e : LogEntry)
      (own : e.action = a.id) : Writes s (s'.record a e)
  | aside {s' s'' : Store} (before : Writes s s') (actions : s''.actions = s'.actions)
      (log : s''.log = s'.log) : Writes s s''

section Writes

variable {settings : Settings} {s s' : Store} {cancel subject : Action}

/-- Every step writes actions with entries of their logs only. -/
theorem Step.writes (step : Step settings s s') : Writes s s' := by
  cases step with
  -- Sets and targets stand in tables of their own, beside the actions and their logs.
  | published => exact .aside .refl rfl rfl
  | registered => exact .aside .refl rfl rfl
  | polled => exact .aside .refl rfl rfl
  | described => exact .aside .refl rfl rfl
  -- The number of the new action is drawn before it is recorded.
  | requested subject now =>
    have drawn : Writes s (s.advance sequence) := .aside .refl rfl rfl
    exact (drawn.record _ _ rfl).record _ _ rfl
  | deployed tenant controller t d rollout now =>
    have drawn : Writes s (s.advance sequence) := .aside .refl rfl rfl
    exact (drawn.record _ _ rfl).aside rfl rfl
  | progressed a f now step stored room going reported =>
    exact .record .refl _ _ (Action.report_id reported).symm
  | closed a d t f now => exact (Writes.record .refl _ _ rfl).aside rfl rfl
  | superseded cancel a d t f now =>
    have closed : Writes s (s.close a d.distributionSet t f now) :=
      (Writes.record .refl _ _ rfl).aside rfl rfl
    exact closed.record _ _ rfl
  | confirmed cancel subject t f now =>
    exact ((Writes.record .refl _ _ rfl).record _ _ rfl).aside rfl rfl

/-- The refusal of a cancellation writes the pair with entries of its logs. -/
theorem Resumption.writes (resumption : Resumption cancel subject s s') : Writes s s' := by
  cases resumption with | resumed now pending =>
  exact (Writes.record .refl _ _ rfl).record _ _ rfl

end Writes

/-- The entries of every log are numbered from zero without gaps. -/
structure Numbered (s : Store) : Prop where
  dense : ∀ id, Store.keysUnder s.log id = List.range (s.nextPosition id)
  own : ∀ {id i : Nat} {e : LogEntry}, s.log.get? (id, i) = some e → e.action = id ∧ e.position = i
  /-- What is not stored has no log. -/
  absent : ∀ {id : Nat}, s.actions.get? id = none → s.logOf id = []

/-- Nothing is logged at the start. -/
theorem numbered_empty : Numbered .empty where
  dense _ := rfl
  own found := by simp [Store.empty] at found
  absent _ := rfl

section Numbered

variable {s s' : Store} {a : Action} {e : LogEntry}

/-- Recording an action with an entry of its own log keeps all logs numbered. -/
theorem Numbered.record (numbered : Numbered s) (own : e.action = a.id) :
    Numbered (s.record a e) := by
  constructor
  case dense =>
    -- Only the log of the action that is recorded becomes longer.
    intro id
    by_cases here : id = e.action
    -- The new entry takes the next position.
    · have range : Store.keysUnder (s.record a e).log id =
          List.range (s.nextPosition e.action + 1) := by
        rw [here, Store.keysUnder_record_own, numbered.dense, List.range_succ]
      rw [range, Store.nextPosition_of_range range]
    · have range : Store.keysUnder (s.record a e).log id = List.range (s.nextPosition id) := by
        rw [Store.keysUnder_record s a e here, numbered.dense]
      rw [range, Store.nextPosition_of_range range]
  case own =>
    intro id i entry found
    rw [show (s.record a e).log = s.log.insert (e.action, s.nextPosition e.action)
      { e with position := s.nextPosition e.action } from rfl, Table.get?_insert] at found
    split at found
    · rename_i here
      obtain ⟨first, second⟩ := Prod.mk.inj here
      rw [← Option.some.inj found]
      exact ⟨first.symm, second.symm⟩
    · exact numbered.own found
  case absent =>
    intro id none
    -- The recorded action is stored, so the log is that of another.
    rw [Store.get?_record] at none
    split at none
    · cases none
    · rename_i other
      rw [Store.logOf_record s a e (own ▸ other)]
      exact numbered.absent none

/-- What is written leaves all logs numbered. -/
theorem Numbered.writes (numbered : Numbered s) (writes : Writes s s') : Numbered s' := by
  -- The induction is on the writes, each of which starts from numbered logs.
  induction writes with
  | refl => exact numbered
  | record before a e own ih => exact ih.record own
  | aside before actions log ih =>
    constructor
    case dense =>
      intro id
      simp only [Store.nextPosition, log]
      exact ih.dense id
    case own =>
      intro id i e found
      rw [log] at found
      exact ih.own found
    case absent =>
      intro id none
      rw [actions] at none
      simp only [Store.logOf, log]
      exact ih.absent none

/-- Every entry of a log is found under the number of its action and its position. -/
theorem Numbered.found (numbered : Numbered s) {id : Nat} (member : e ∈ s.logOf id) :
    e.action = id ∧ s.log.get? (id, e.position) = some e := by
  rw [Store.logOf, Store.valuesUnder_eq] at member
  obtain ⟨i, -, found⟩ := List.mem_filterMap.mp member
  obtain ⟨action, position⟩ := numbered.own found
  exact ⟨action, by rw [position]; exact found⟩

/-- The entries of a log stand under the positions that they carry. -/
theorem Numbered.positions_eq (numbered : Numbered s) (id : Nat) :
    (s.logOf id).map (·.position) = List.range (s.nextPosition id) := by
  rw [← numbered.dense, Store.logOf, Store.valuesUnder_eq, List.map_filterMap]
  refine (List.filterMap_congr fun i member => ?_).trans List.filterMap_some
  -- What is found under a key carries its second part as its position.
  obtain ⟨entry, found⟩ := Table.contains_iff.mp (Store.mem_keysUnder.mp member)
  rw [found, Option.map_some, (numbered.own found).2]

/-- The next position of a log is the number of its entries. -/
theorem Numbered.nextPosition_eq (numbered : Numbered s) (id : Nat) :
    s.nextPosition id = (s.logOf id).length := by
  have length := congrArg List.length (numbered.positions_eq id)
  rw [List.length_map, List.length_range] at length
  exact length.symm

/-- The positions in a log are 0, 1, 2 and so on. -/
theorem Numbered.positions (numbered : Numbered s) (id : Nat) :
    (s.logOf id).map (·.position) = List.range (s.logOf id).length := by
  rw [numbered.positions_eq, numbered.nextPosition_eq]

end Numbered

/-- An action is stored with one new entry, which tells its status if that is new. -/
inductive Noted (id : Nat) (s s' : Store) : Prop
  | noted (a : Action) (e : LogEntry) (stored : s'.actions.get? id = some a)
      (logged : s'.logOf id = s.logOf id ++ [e])
      (tells : (s.actions.get? id).map (·.status) = some a.status ∨ e.status = a.status)

/-- An action deploys a set. -/
def Delivers (set : Nat) (a : Action) : Prop :=
  (a.deployment?.any fun d => d.distributionSet == set) = true

/-- Every action is as it was, or it is noted and in flight only where a test allows it. -/
def Recorded (spared : Action → Prop) (s s' : Store) : Prop :=
  ∀ id, Untouched id s s' ∨
    Noted id s s' ∧ ∀ a, s'.actions.get? id = some a → a.isInFlight = true → spared a

section Recorded

variable {settings : Settings} {spared : Action → Prop} {s s' s'' : Store} {a subject : Action}
  {e : LogEntry} {now : Instant}

theorem Recorded.refl (spared : Action → Prop) (s : Store) : Recorded spared s s :=
  fun id => Or.inl (.refl id s)

/-- What leaves actions and logs as they are adds nothing to the record. -/
theorem Recorded.aside (recorded : Recorded spared s s') (actions : s''.actions = s'.actions)
    (log : s''.log = s'.log) : Recorded spared s s'' := by
  intro id
  have same : s''.logOf id = s'.logOf id := by simp only [Store.logOf, log]
  rcases recorded id with ⟨action, untouched⟩ | ⟨⟨a, e, stored, logged, tells⟩, rests⟩
  · exact Or.inl ⟨by rw [actions]; exact action, same.trans untouched⟩
  · rw [← actions] at stored rests
    exact Or.inr ⟨⟨a, e, stored, same.trans logged, tells⟩, rests⟩

/-- What is not stored has not been touched. -/
theorem Recorded.fresh (recorded : Recorded spared s s') {id : Nat}
    (absent : s'.actions.get? id = none) : Untouched id s s' := by
  refine (recorded id).resolve_right ?_
  rintro ⟨⟨a, e, stored, -⟩, -⟩
  rw [absent] at stored
  cases stored

/-- An action that has not been touched may be recorded once. -/
theorem Recorded.record (recorded : Recorded spared s s') (untouched : Untouched a.id s s')
    (own : e.action = a.id)
    (tells : (s.actions.get? a.id).map (·.status) = some a.status ∨ e.status = a.status)
    (spares : a.isInFlight = true → spared a) : Recorded spared s (s'.record a e) := by
  intro id
  by_cases here : id = a.id
  -- The action itself has the new entry, behind those that it had at first.
  · subst here
    have stored : (s'.record a e).actions.get? a.id = some a := by
      rw [Store.get?_record, if_pos rfl]
    refine Or.inr ⟨⟨a, { e with position := s'.nextPosition e.action }, stored, ?_, tells⟩, ?_⟩
    · rw [← own, Store.logOf_record_own, own, untouched.log]
    · intro b found inFlight
      have same : b = a := Option.some.inj (found.symm.trans stored)
      subst same
      exact spares inFlight
  · have found : (s'.record a e).actions.get? id = s'.actions.get? id := by
      rw [Store.get?_record, if_neg here]
    have logged : (s'.record a e).logOf id = s'.logOf id :=
      Store.logOf_record s' a e (own.symm ▸ here)
    -- Any other action has its log as before, and so what was recorded of it.
    rcases recorded id with before | ⟨⟨b, entry, stored, extends', tells⟩, rests⟩
    · exact Or.inl (before.record own here)
    · rw [← found] at stored rests
      exact Or.inr ⟨⟨b, entry, stored, logged.trans extends', tells⟩, rests⟩

/-- A request for a cancellation records a subject that has not been touched, and a new action. -/
theorem Recorded.requestCancel (recorded : Recorded spared s s') (indexed : Indexed s')
    (stored : s'.actions.get? subject.id = some subject)
    (untouched : Untouched subject.id s s') : Recorded spared s (s'.requestCancel subject now) := by
  have below := indexed.drawn stored
  have other : s'.nextNumber sequence ≠ subject.id := by omega
  have drawn : Recorded spared s (s'.advance sequence) := recorded.aside rfl rfl
  -- The subject is not in flight any more, and what cancels never is.
  have moved := drawn.record (a := subject.moved .canceling true now)
    (e := (subject.moved .canceling true now).remark now
      ("cancellation requested by action " ++ Text.decimal (s'.nextNumber sequence)))
    (untouched.advance sequence) rfl (Or.inr rfl) (by simp [Action.isInFlight])
  refine moved.record ?_ rfl (Or.inr rfl) ?_
  · exact .record ((recorded.fresh indexed.next_absent).advance sequence) rfl other
  · simp [Action.isInFlight, Action.cancelling, Action.isCancel, Action.cancels?]

/-- A new deployment is recorded, if the test allows it to be in flight. -/
theorem Recorded.deploy (recorded : Recorded spared s s') (indexed : Indexed s') (t : Target)
    (tenant controller : String) (d : Deployment) (rollout : Option Membership) (now : Instant)
    (spares : spared (newAction (s'.nextNumber sequence) tenant controller d rollout now)) :
    Recorded spared s (s'.deploy t tenant controller d rollout now) := by
  have drawn : Recorded spared s (s'.advance sequence) := recorded.aside rfl rfl
  have fresh := (recorded.fresh indexed.next_absent).advance sequence
  exact (drawn.record fresh rfl (Or.inr rfl) fun _ => spares).aside rfl rfl

/-- Requests about deployments that the test does not allow are about untouched ones. -/
theorem Recorded.requests (recorded : Recorded spared s s') (indexed : Indexed s')
    (requests : Requests (fun a => a.isInFlight = true → ¬ spared a) now s' s'') :
    Recorded spared s s'' := by
  -- All that has been noted so far is spared, so no request is about it.
  induction requests with
  | refl => exact recorded
  | tail before request ih =>
    obtain ⟨subject, stored, inFlight, passes, same⟩ := request
    rw [same]
    refine ih.requestCancel (Requests.indexed before indexed) stored ?_
    -- What has been noted and is in flight is allowed by the test.
    exact (ih subject.id).resolve_right fun noted =>
      passes inFlight (noted.2 subject stored inFlight)

/-- A request for a set spares the deployments of this set, and records all else. -/
theorem Assigns.recorded {own : TenantSettings} {tenant controller : String}
    {q : AssignmentRequest} {rollout : Option Membership} {assigned : Assigned}
    (assigns : Assigns own tenant controller q rollout now s' assigned s'')
    (recorded : Recorded (Delivers q.distributionSet) s s') (indexed : Indexed s') :
    Recorded (Delivers q.distributionSet) s s'' := by
  cases assigns with
  | already a current => exact recorded
  | new t weight cancels between valid found known free replaces =>
    have requests :
        Requests (fun a => a.isInFlight = true → ¬ Delivers q.distributionSet a) now s' between := by
      rw [replaces]
      refine (indexed.replaced_requests own tenant controller now).mono ?_
      -- A listed deployment of the set that is in flight would have been found.
      intro a listed inFlight delivers
      have fails := List.find?_eq_none.mp free a listed
      rw [inFlight, Bool.true_and] at fails
      exact fails delivers
    refine (recorded.requests indexed requests).deploy (requests.indexed indexed) t tenant
      controller (q.deployment weight) rollout now ?_
    simp [Delivers, newAction, Action.deployment?, AssignmentRequest.deployment]

/-- The end of a deployment is recorded. -/
theorem Recorded.close (a : Action) (set : Nat) (t : Target) (f : Feedback)
    (now : Instant) : Recorded (fun _ => True) s (s.close a set t f now) := by
  have moved : Recorded (fun _ => True) s (s.record (a.moved f.outcome.status false now)
      (f.entry a.id f.outcome.status now)) :=
    (Recorded.refl _ s).record (.refl _ s) rfl (Or.inr rfl) fun _ => trivial
  exact moved.aside rfl rfl

/-- Both sides of a pair may be recorded, one after the other. -/
theorem Pending.recorded {cancel : Action} {status other : Status} {active running : Bool}
    {first second : LogEntry} (pending : Pending s cancel subject)
    (ownFirst : first.action = cancel.id) (ownSecond : second.action = subject.id)
    (tellsFirst : first.status = status) (tellsSecond : second.status = other) :
    Recorded (fun _ => True) s ((s.record (cancel.moved status active now) first).record
      (subject.moved other running now) second) := by
  -- The order to cancel and its subject are two actions, each with one new entry.
  have apart : subject.id ≠ cancel.id := Ne.symm pending.id_ne
  have ended : Recorded (fun _ => True) s (s.record (cancel.moved status active now) first) :=
    (Recorded.refl _ s).record (.refl _ s) ownFirst (Or.inr tellsFirst) fun _ => trivial
  have untouched : Untouched subject.id s (s.record (cancel.moved status active now) first) :=
    .record (.refl _ s) ownFirst apart
  exact ended.record untouched ownSecond (Or.inr tellsSecond) fun _ => trivial

/-- Every step records what it changes. -/
theorem Step.recorded (step : Step settings s s') (indexed : Indexed s) :
    Recorded (fun _ => True) s s' := by
  have start : Recorded (fun _ => True) s s := .refl _ s
  -- One step writes one entry for every action it moves.
  cases step with
  | published => exact start.aside rfl rfl
  | registered => exact start.aside rfl rfl
  | polled => exact start.aside rfl rfl
  | described => exact start.aside rfl rfl
  | requested subject now stored => exact start.requestCancel indexed stored (.refl _ s)
  | deployed tenant controller t d rollout now => exact start.deploy indexed _ _ _ _ _ _ trivial
  | progressed a f now step stored room going reported =>
    refine start.record (.refl _ s) (Action.report_id reported).symm ?_ fun _ => trivial
    -- The action stays as it is, or the entry tells where it has moved.
    rw [Action.report_id reported, stored]
    exact (Action.report_tells reported).imp (fun stays => by rw [stays, Option.map_some]) id
  | closed a d t f now stored => exact .close a _ t f now
  | superseded cancel a d t f now pending =>
    have closed : Recorded (fun _ => True) s (s.close a d.distributionSet t f now) :=
      .close a _ t f now
    exact closed.record (.close pending.id_ne) rfl (Or.inr rfl) fun _ => trivial
  | confirmed cancel subject t f now pending =>
    exact (pending.recorded rfl rfl rfl rfl).aside rfl rfl

/-- The refusal of a cancellation is recorded. -/
theorem Resumption.recorded {cancel : Action} (resumption : Resumption cancel subject s s') :
    Recorded (fun _ => True) s s' := by
  cases resumption with | resumed now pending =>
  exact pending.recorded rfl rfl rfl rfl

end Recorded

end Deployments

end DeviceUpdate
