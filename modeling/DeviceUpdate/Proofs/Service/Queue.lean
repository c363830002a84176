import DeviceUpdate.Proofs.Deployment.Quota
import DeviceUpdate.Proofs.Service.Indifference
import DeviceUpdate.Proofs.Service.Links
import DeviceUpdate.Proofs.Service.Naming
import DeviceUpdate.Proofs.Text.Digits

/-! The queue of a device that may have several deployments: which of them it works on first, and
that it works all of them off, one after another. -/

namespace DeviceUpdate

open Deployments (Indexed Untouched)

namespace Device

section Order

/-- A deployment stands before another in the queue: it weighs more, or as much and is older. -/
def Before (a b : Action) : Prop :=
  rank b < rank a ∨ rank b = rank a ∧ a.id < b.id

/-- The deployments that a device has to work on. -/
def waiting (actions : List Action) : List Action :=
  actions.filter (·.isInFlight)

variable {a b : Action} {actions : List Action}

theorem precedes_iff : precedes true a b = true ↔ Before a b := by
  by_cases even : rank a = rank b
  · simp [precedes, Before, even]
  · have apart : ¬ rank b = rank a := fun same => even same.symm
    simp [precedes, Before, even, apart]

/-- Of two deployments with different numbers one stands before the other. -/
theorem Before.of_not (other : b.id ≠ a.id) (after : ¬ Before b a) : Before a b := by
  unfold Before at *
  omega

/-- No deployment stands before the one that is chosen. -/
theorem first?_least (found : first? true actions = some a) : ∀ b ∈ actions, ¬ Before b a := by
  -- By induction on the list, for every choice: the head is held against the choice among the rest.
  induction actions generalizing a with
  | nil => cases found
  | cons head rest ih =>
    cases next : first? true rest with
    | none =>
      -- There are no others than the head.
      have alone : rest = [] := by
        rw [List.eq_nil_iff_forall_not_mem]
        intro b member
        have chosen : (first? true rest).isSome = true := first?_isSome member
        rw [next] at chosen
        cases chosen
      simp only [first?, next, Option.some.injEq] at found
      subst found alone
      simp [Before]
    | some c =>
      have least := ih next
      simp only [first?, next] at found
      intro b member
      -- The choice is between the head and the first of the others.
      by_cases lighter : precedes true c head = true
      · rw [if_pos lighter] at found
        obtain rfl := Option.some.inj found
        rw [precedes_iff] at lighter
        rcases List.mem_cons.mp member with rfl | other
        · unfold Before at *
          omega
        · exact least b other
      · rw [if_neg lighter] at found
        obtain rfl := Option.some.inj found
        rw [precedes_iff] at lighter
        rcases List.mem_cons.mp member with rfl | other
        · simp [Before]
        · have behind := least b other
          unfold Before at *
          omega

end Order

section Loop

/-- The number at the end of a link. -/
def numberOf? (link : String) : Option Nat :=
  Text.natural? (link.toList.reverse.takeWhile Text.isDigit).reverse

/-- What a device does in one round: it polls, and it reports on the deployment it is told of. -/
structure Round where
  polled : Instant
  address : Option String
  reported : Instant
  feedback : Feedback

/-- A device polls and reports on the deployment that the answer links to, over and over until
there is no such link. The result has the numbers of the deployments, and there is none if a request
fails or the rounds do not suffice. -/
def drain (own : TenantSettings) (tenant controller : String) :
    List Round → Store → Option (List Nat × Store)
  | [], _ => none
  | x :: rest, s =>
    match poll own tenant controller x.address x.polled s with
    | (.error _, _) => none
    | (.ok answer, s) =>
      match answer.body.deploymentBase with
      | none => some ([], s)
      | some link =>
        match numberOf? link with
        | none => none
        | some id =>
          match (report own tenant controller id x.feedback false x.reported).run s with
          | (.error _, _) => none
          | (.ok _, s) => (drain own tenant controller rest s).map fun r => (id :: r.1, r.2)

/-- The report of a round closes a deployment, and has no more messages than it may have. -/
structure Round.Closes (own : TenantSettings) (x : Round) : Prop where
  closing : x.feedback.execution = .closed
  brief : x.feedback.messages.length ≤ own.maxMessages

/-- A deployment has ended as a round reports, which its log tells once. -/
structure Ended (s s' : Store) (a : Action) (x : Round) : Prop where
  action : s'.actions.get? a.id = some (a.moved x.feedback.outcome.status false x.reported)
  log : ∃ position, s'.logOf a.id = s.logOf a.id ++
    [{ x.feedback.entry a.id x.feedback.outcome.status x.reported with position := position }]

/-- The window of a deployment cannot be looked for without leaving the calendar. -/
def Strays (a : Action) (now : Instant) : Prop :=
  ∃ d w, a.deployment? = some d ∧ d.policy = .ok (.within w) ∧ w.start now = .error .outOfCalendar

/-- The store after a device has polled in a round. -/
def Round.noted (x : Round) (tenant controller : String) (s : Store) : Store :=
  (touch s tenant controller x.address x.polled).2

/-- What a device relies on while it works off its deployments. -/
structure Orderly (tenant controller : String) (s : Store) : Prop where
  indexed : Indexed s
  paired : Deployments.Paired s
  keyed : Deployments.Keyed s
  legible : Deployments.Legible s
  owned : ∀ {a : Action}, a ∈ s.actionsOf tenant controller → a.tenant = tenant

/-- A device has worked all of its deployments off in this order. -/
structure Drained (own : TenantSettings) (tenant controller : String) (rounds : List Round)
    (s : Store) (order : List Action) (s' : Store) : Prop where
  all : order.Perm (waiting (s.actionsOf tenant controller))
  sorted : order.Pairwise Before
  drained : drain own tenant controller rounds s = some (order.map (·.id), s')
  /-- Each deployment has ended in the round in which it was its turn. -/
  ended : ∀ p ∈ order.zip rounds, Ended s s' p.1 p.2
  /-- Nothing has been done to any other action. -/
  others : ∀ id, (∀ a ∈ order, a.id ≠ id) → Untouched id s s'
  emptied : waiting (s'.actionsOf tenant controller) = []

variable {own : TenantSettings} {tenant controller : String} {s s' : Store} {a : Action}
  {x : Round} {rest : List Round}

/-- The link to an action ends in its number. -/
theorem numberOf?_link (front : String) (n : Nat) :
    numberOf? (front ++ "/" ++ Text.decimal n) = some n := by
  -- Read from the end, the digits go as far as the slash.
  have digits : ((front ++ "/" ++ Text.decimal n).toList.reverse.takeWhile Text.isDigit) =
      (Text.decimal n).toList.reverse := by
    have shape : (front ++ "/" ++ Text.decimal n).toList.reverse =
        (Text.decimal n).toList.reverse ++ '/' :: front.toList.reverse := by
      simp
    rw [shape]
    refine Text.takeWhile_digits (fun c member => ?_) (Text.stops_cons rfl)
    exact Text.isDigit_of_mem_decimal (List.mem_reverse.mp member)
  rw [numberOf?, digits, List.reverse_reverse, Text.natural?_decimal]

/-- The note of a poll leaves the state fit for reports. -/
theorem Orderly.noted (orderly : Orderly tenant controller s) (x : Round) :
    Orderly tenant controller (x.noted tenant controller s) := by
  -- A poll only touches the target.
  have step := Deployments.touch_step .standard s tenant controller x.address x.polled
  exact {
    indexed := step.indexed orderly.indexed
    paired := step.paired orderly.indexed orderly.paired
    keyed := step.keyed orderly.keyed
    legible := step.legible orderly.legible
    owned := orderly.owned }

/-- A report that ends one deployment leaves the state fit for reports on the others. -/
theorem Orderly.ended (orderly : Orderly tenant controller s)
    (reporting : Deployments.Reporting a x.feedback x.reported s s')
    (stored : s.actions.get? a.id = some a)
    (room : s.countEntries a.id (some .device) < own.maxEntries) (owner : a.tenant = tenant)
    (ended : Ended s s' a x) (others : ∀ id, id ≠ a.id → Untouched id s s') :
    Orderly tenant controller s' := by
  -- As far as the report is concerned, all tenants may have the same settings.
  let uniform : Settings := { Settings.standard with defaults := own }
  have step : Deployments.Step uniform s s' := reporting.step stored room
  have indexed := step.indexed orderly.indexed
  refine ⟨indexed, step.paired orderly.indexed orderly.paired, step.keyed orderly.keyed,
    step.legible orderly.legible, fun {b} listed => ?_⟩
  obtain ⟨found, key⟩ := indexed.mem_actionsOf.mp listed
  by_cases same : b.id = a.id
  · rw [same, ended.action] at found
    rw [← Option.some.inj found]
    exact owner
  · rw [(others b.id same).action] at found
    exact orderly.owned (orderly.indexed.mem_actionsOf.mpr ⟨found, key⟩)

/-- The report of a round closes the deployment that it is about, and touches no other action. -/
theorem report_ends (orderly : Orderly tenant controller s)
    (known : (s.target? tenant controller).isSome = true) (closes : x.Closes own)
    (member : a ∈ waiting (s.actionsOf tenant controller))
    -- The four invariants pass over every step, and the owner is that of the action reported for.
    (room : s.countEntries a.id (some .device) < own.maxEntries) :
    ∃ reported s', Deployments.report own tenant controller a.id x.feedback false x.reported s =
        .ok (reported, s') ∧ Orderly tenant controller s' ∧ Ended s s' a x ∧
      ∀ id, id ≠ a.id → Untouched id s s' := by
  have indexed := orderly.indexed
  have paired := orderly.paired
  obtain ⟨listed, inFlight⟩ := List.mem_filter.mp member
  obtain ⟨active, deploys, -⟩ := Action.isInFlight_iff.mp inFlight
  obtain ⟨stored, key⟩ := indexed.mem_actionsOf.mp listed
  have owner := orderly.owned listed
  -- The deployment is open and its entry is short enough, hence the report is taken.
  have arrives : Deployments.Arrives own s tenant controller x.feedback false a := {
    stored := stored
    owner := owner
    device := by rwa [Action.targetKey, owner, Target.keyOf_inj] at key
    kind := deploys
    isOpen := paired.open_of_active stored active
    brief := closes.brief }
  obtain ⟨reported, s', taken⟩ := arrives.report_succeeds known room x.reported
  refine ⟨reported, s', taken, ?_⟩
  obtain ⟨b, found, -, -, -, reporting⟩ := Deployments.report_reporting indexed paired taken
  obtain ⟨storedB, number, -⟩ := indexed.action?_eq_some found
  obtain rfl := Deployments.stored_unique storedB stored number
  -- No cancellation waits for a deployment in flight, so that only its own record is closed.
  obtain ⟨d, t, -, -, ⟨-, rfl⟩ | ⟨cancel, pending, -⟩⟩ := reporting.ends closes.closing deploys
  · have ended : Ended s (s.close b d.distributionSet t x.feedback x.reported) b x := by
      refine ⟨?_, s.nextPosition b.id, ?_⟩
      · rw [Store.get?_close, if_pos rfl]
      · exact s.logOf_record_own (b.moved _ false _) (x.feedback.entry b.id _ _)
    have others : ∀ id, id ≠ b.id →
        Untouched id s (s.close b d.distributionSet t x.feedback x.reported) :=
      fun id other => .close other
    exact ⟨orderly.ended reporting stored room owner ended others, ended, others⟩
  · exact absurd pending.canceling (Action.isInFlight_iff.mp inFlight).2.2

/-- Once a deployment has ended, the others are waiting as before. -/
theorem waiting_perm (indexed : Indexed s) (after : Indexed s')
    (member : a ∈ waiting (s.actionsOf tenant controller)) (ended : Ended s s' a x)
    (others : ∀ id, id ≠ a.id → Untouched id s s') :
    (waiting (s.actionsOf tenant controller)).Perm
      (a :: waiting (s'.actionsOf tenant controller)) := by
  -- As the numbers grow along the list, no action occurs in it twice.
  have distinct {t : Store} (indexed : Indexed t) :
      (waiting (t.actionsOf tenant controller)).Nodup :=
    ((indexed.actionsOf_pairwise tenant controller).imp fun before same => by
      simp [same] at before).filter _
  obtain ⟨listed, -⟩ := List.mem_filter.mp member
  have stored := (indexed.mem_actionsOf.mp listed).1
  have mem_waiting {t : Store} (indexed : Indexed t) {b : Action} :
      b ∈ waiting (t.actionsOf tenant controller) ↔ t.actions.get? b.id = some b ∧
        b.targetKey = Target.keyOf tenant controller ∧ b.isInFlight = true := by
    rw [waiting, List.mem_filter, indexed.mem_actionsOf, and_assoc]
  -- What has ended is not in flight any more.
  have gone {b : Action} (here : b ∈ waiting (s'.actionsOf tenant controller)) : b.id ≠ a.id := by
    intro same
    obtain ⟨found, -, inFlight⟩ := (mem_waiting after).mp here
    rw [same, ended.action] at found
    rw [← Option.some.inj found, Deployments.isInFlight_moved_inactive] at inFlight
    cases inFlight
  refine (List.perm_ext_iff_of_nodup (distinct indexed)
    (List.nodup_cons.mpr ⟨fun here => gone here rfl, distinct after⟩)).mpr fun b => ?_
  rw [List.mem_cons]
  constructor
  · intro here
    obtain ⟨found, rest⟩ := (mem_waiting indexed).mp here
    by_cases same : b.id = a.id
    · exact Or.inl (Deployments.stored_unique found stored same)
    · exact Or.inr ((mem_waiting after).mpr ⟨by rw [(others b.id same).action]; exact found, rest⟩)
  · rintro (rfl | here)
    · exact member
    · obtain ⟨found, rest⟩ := (mem_waiting after).mp here
      exact (mem_waiting indexed).mpr
        ⟨by rw [← (others b.id (gone here)).action]; exact found, rest⟩

/-- In a round the first deployment of the queue ends, and nothing else changes. -/
structure Turn (own : TenantSettings) (tenant controller : String) (x : Round) (s : Store)
    (a : Action) (s' : Store) : Prop where
  first : ∀ b ∈ waiting (s.actionsOf tenant controller), ¬ Before b a
  left : (waiting (s.actionsOf tenant controller)).Perm
    (a :: waiting (s'.actionsOf tenant controller))
  ended : Ended s s' a x
  others : ∀ id, id ≠ a.id → Untouched id s s'
  goesOn : ∀ rest, drain own tenant controller (x :: rest) s =
    (drain own tenant controller rest s').map fun r => (a.id :: r.1, r.2)

/-- What has ended stays so while nothing else is done to it, before and after. -/
theorem Ended.between {t t' : Store} (before : Untouched a.id s t) (ended : Ended t t' a x)
    (after : Untouched a.id t' s') : Ended s s' a x := by
  obtain ⟨position, log⟩ := ended.log
  exact ⟨after.action.trans ended.action, position, by rw [after.log, log, before.log]⟩

/-- What is left to do after a round is other than what has ended in it. -/
theorem Turn.apart (turn : Turn own tenant controller x s a s') (indexed : Indexed s) {b : Action}
    (member : b ∈ waiting (s'.actionsOf tenant controller)) : b.id ≠ a.id := by
  have ids : ((waiting (s.actionsOf tenant controller)).map (·.id)).Nodup :=
    List.pairwise_map.mpr
      (((indexed.actionsOf_pairwise tenant controller).imp Nat.ne_of_lt).filter _)
  have distinct := (turn.left.map (·.id)).nodup_iff.mp ids
  rw [List.map_cons, List.nodup_cons] at distinct
  exact fun same => distinct.1 (List.mem_map.mpr ⟨b, member, same⟩)

/-- What is worked off after a round follows what is worked off in it. -/
theorem Turn.drained {order : List Action} {s₁ : Store} (turn : Turn own tenant controller x s a s₁)
    (indexed : Indexed s) (drained : Drained own tenant controller rest s₁ order s') :
    Drained own tenant controller (x :: rest) s (a :: order) s' := by
  have all : (a :: order).Perm (waiting (s.actionsOf tenant controller)) :=
    (drained.all.cons a).trans turn.left.symm
  have apart : ∀ b ∈ order, b.id ≠ a.id :=
    fun b later => turn.apart indexed (drained.all.mem_iff.mp later)
  constructor
  case all => exact all
  case sorted =>
    -- What is left was behind the first one already before the round.
    refine List.pairwise_cons.mpr ⟨fun b later => ?_, drained.sorted⟩
    exact .of_not (apart b later) (turn.first b (all.mem_iff.mp (List.mem_cons_of_mem a later)))
  case drained =>
    rw [turn.goesOn, drained.drained]
    rfl
  case ended =>
    intro p here
    rw [List.zip_cons_cons, List.mem_cons] at here
    -- The later rounds leave alone what ends in this one, and this one what ends in them.
    rcases here with rfl | here
    · exact turn.ended.between (.refl a.id s) (drained.others a.id apart)
    · have later := apart p.1 (List.of_mem_zip here).1
      exact (drained.ended p here).between (turn.others p.1.id later) (.refl p.1.id s')
  case others =>
    intro id other
    have first : id ≠ a.id := Ne.symm (other a List.mem_cons_self)
    exact (turn.others id first).trans
      (drained.others id fun b later => other b (List.mem_cons_of_mem a later))
  case emptied => exact drained.emptied

/-- A device that has nothing to do is told so, and stops. -/
theorem drain_idle {answer : Tagged PollDocument}
    (answered : poll own tenant controller x.address x.polled s = (.ok answer, s'))
    (idle : answer.body.deploymentBase = none) :
    drain own tenant controller (x :: rest) s = some ([], s') := by
  simp only [drain, answered, idle]

/-- A device that is told of a deployment reports on it, and goes on. -/
theorem drain_round {answer : Tagged PollDocument} {s₁ : Store} {link : String} {id : Nat}
    {reported : Deployments.Reported}
    (answered : poll own tenant controller x.address x.polled s = (.ok answer, s₁))
    (linked : answer.body.deploymentBase = some link) (number : numberOf? link = some id)
    (taken : (report own tenant controller id x.feedback false x.reported).run s₁ =
      (.ok reported, s')) :
    drain own tenant controller (x :: rest) s =
      (drain own tenant controller rest s').map fun r => (id :: r.1, r.2) := by
  simp only [drain, answered, linked, number, taken]

/-- A poll that is not answered ends the loop. -/
theorem drain_failed {e : Error}
    (failed : poll own tenant controller x.address x.polled s = (.error e, s')) :
    drain own tenant controller (x :: rest) s = none := by
  simp only [drain, failed]

/-- What one round makes of the queue of a device. -/
inductive Happens (own : TenantSettings) (tenant controller : String) (x : Round) (s : Store) :
    Prop
  | idle (nothing : waiting (s.actionsOf tenant controller) = [])
      (stops : ∀ rest, drain own tenant controller (x :: rest) s =
        some ([], x.noted tenant controller s))
  | turn (a : Action) (s' : Store) (orderly : Orderly tenant controller s')
      (turn : Turn own tenant controller x s a s')
  | strays (a : Action) (member : a ∈ waiting (s.actionsOf tenant controller))
      (strays : Strays a x.polled)
      (fails : ∀ rest, drain own tenant controller (x :: rest) s = none)

/-- In a round nothing is left to do, or the first deployment ends, or its window leads out of the
calendar. -/
theorem round_happens (multi : own.multiAssignments = true)
    (orderly : Orderly tenant controller s) (closes : x.Closes own)
    (room : ∀ a ∈ waiting (s.actionsOf tenant controller),
      s.countEntries a.id (some .device) < own.maxEntries) :
    Happens own tenant controller x s := by
  let s₁ := x.noted tenant controller s
  -- What the device relies on still holds once the poll is noted.
  have noted : Orderly tenant controller s₁ := orderly.noted x
  have known : (s₁.target? tenant controller).isSome = true :=
    Service.known_of_poll orderly.keyed own tenant controller x.address x.polled
  -- The note of the poll changes no action, and so the queue stays the same.
  have same : s₁.actionsOf tenant controller = s.actionsOf tenant controller := rfl
  have untouched (id : Nat) : Untouched id s s₁ := ⟨rfl, rfl⟩
  have answer_eq : poll own tenant controller x.address x.polled s =
      (answerPoll s₁ own (touch s tenant controller x.address x.polled).1.1 tenant controller
        x.polled, s₁) := rfl
  rcases answerPoll_legible noted.indexed noted.legible own
      (touch s tenant controller x.address x.polled).1.1 tenant controller x.polled with
    ⟨answer, sleep, answered, body⟩ | ⟨fails, a, listed, inFlight, strays⟩
  · rw [answered] at answer_eq
    rw [multi, same] at body
    -- The poll is answered, and names a deployment exactly if one waits.
    cases chosen : current? true (s.actionsOf tenant controller) with
    | none =>
      refine .idle ?_ fun rest => drain_idle answer_eq ?_
      · rw [List.eq_nil_iff_forall_not_mem]
        intro a member
        have chosen' : (current? true (s.actionsOf tenant controller)).isSome = true :=
          first?_isSome member
        rw [chosen] at chosen'
        cases chosen'
      · rw [body, chosen]
        rfl
    | some a =>
      have member : a ∈ waiting (s.actionsOf tenant controller) := first?_mem chosen
      obtain ⟨reported, s', taken, after, ended, others⟩ :=
        report_ends noted known closes member (room a member)
      -- The device reports as it polled, under its own name, and the report is taken.
      have done : report own tenant controller a.id x.feedback false x.reported s₁ =
          .ok (reported, s') := by
        rw [report_of_known known]
        exact Transaction.mapError_eq_ok.mpr taken
      have linked : answer.body.deploymentBase = some (basePath tenant controller ++ "/" ++
          "deploymentBase" ++ "/" ++ Text.decimal a.id) := by
        rw [body, chosen]
        rfl
      have left : (waiting (s₁.actionsOf tenant controller)).Perm
          (a :: waiting (s'.actionsOf tenant controller)) :=
        waiting_perm noted.indexed after.indexed member ended others
      refine .turn a s' after {
        first := first?_least chosen
        left := left
        ended := ended.between (untouched a.id) (.refl a.id s')
        others := fun id other => (untouched id).trans (others id other)
        goesOn := fun rest => ?_ }
      exact drain_round answer_eq linked (numberOf?_link _ a.id) (Transaction.run_of_ok done)
  · refine .strays a (List.mem_filter.mpr ⟨listed, inFlight⟩) strays fun rest => ?_
    -- The poll fails, and with it the loop.
    rw [fails] at answer_eq
    exact drain_failed answer_eq

/-- From an orderly state a device works off what is waiting for it, unless a window leads out of
the calendar. -/
theorem drained_or_strays (multi : own.multiAssignments = true) {rounds : List Round}
    (closes : ∀ x ∈ rounds, x.Closes own) (orderly : Orderly tenant controller s)
    (room : ∀ a ∈ waiting (s.actionsOf tenant controller),
      s.countEntries a.id (some .device) < own.maxEntries)
    (enough : (waiting (s.actionsOf tenant controller)).length < rounds.length) :
    (∃ order s', Drained own tenant controller rounds s order s') ∨
      drain own tenant controller rounds s = none ∧
        ∃ x ∈ rounds, ∃ a ∈ waiting (s.actionsOf tenant controller), Strays a x.polled := by
  -- By induction on the rounds: each of them works off one deployment, so there are enough of them.
  induction rounds generalizing s with
  | nil => exact absurd enough (Nat.not_lt_zero _)
  | cons x rest ih =>
    cases round_happens multi orderly (closes x List.mem_cons_self) room with
    | idle nothing stops =>
      exact Or.inl ⟨[], x.noted tenant controller s, {
        all := by rw [nothing]
        sorted := .nil
        drained := stops rest
        ended := fun p here => by cases here
        others := fun id _ => ⟨rfl, rfl⟩
        emptied := nothing }⟩
    -- A stray ends the loop in this round already.
    | strays a member strays fails =>
      exact Or.inr ⟨fails rest, x, List.mem_cons_self, a, member, strays⟩
    | turn a s' after turn =>
      have later {b : Action} (member : b ∈ waiting (s'.actionsOf tenant controller)) :
          b ∈ waiting (s.actionsOf tenant controller) :=
        turn.left.mem_iff.mpr (List.mem_cons_of_mem a member)
      -- The other logs have as much room as before, and there is one deployment less.
      have room' : ∀ b ∈ waiting (s'.actionsOf tenant controller),
          s'.countEntries b.id (some .device) < own.maxEntries := by
        intro b member
        have log := (turn.others b.id (turn.apart orderly.indexed member)).log
        rw [Store.countEntries, log]
        exact room b (later member)
      have length := turn.left.length_eq
      rw [List.length_cons] at length enough
      rcases ih (fun y member => closes y (List.mem_cons_of_mem x member)) after room'
        (by omega) with ⟨order, last, drained⟩ | ⟨fails, y, member, b, waits, strays⟩
      · exact Or.inl ⟨a :: order, last, turn.drained orderly.indexed drained⟩
      · refine Or.inr ⟨?_, y, List.mem_cons_of_mem x member, b, later waits, strays⟩
        rw [turn.goesOn, fails]
        rfl

end Loop

end Device

namespace Service

open Device (Drained Orderly Round Strays drain waiting)
open Maintenance (Window)

variable {settings : Settings} {own : TenantSettings} {tenant controller : String}
  {calls : List Call} {rounds : List Round}

/-- Among tenants without slashes in their names, every state of a run is orderly. -/
theorem orderly_history (settings : Settings) (slashless : ∀ c ∈ calls, c.Slashless)
    (plain : Target.Slashless tenant) (controller : String) :
    Orderly tenant controller (history settings calls).present := by
  have coherent := coherent_history settings calls
  have keyed := keyed_history settings calls
  exact {
    indexed := coherent.indexed
    paired := coherent.paired
    keyed := keyed
    legible := legible_history settings calls
    owned := ((plain_history settings slashless).1.separate plain coherent.indexed keyed).actions }

/-- No window of what has been assigned leads out of the calendar later on. -/
theorem not_strays_history (settings : Settings) {now : Instant}
    (order : ∀ c ∈ calls, AssignsBy now c) (known : now.base ≤ lastSecond) {a : Action}
    (listed : a ∈ (history settings calls).present.actionsOf tenant controller) :
    ¬ Strays a now := by
  rintro ⟨d, w, deploys, limited, fails⟩
  have stored := ((coherent_history settings calls).indexed.mem_actionsOf.mp listed).1
  have reaches := reaching_history settings calls order known stored
    (Action.order_of_deployment deploys) limited
  rcases Window.start_cases known (w := w) with ⟨found, -⟩ | ⟨-, overreaches⟩
  · rw [found] at fails
    cases fails
  · exact reaches overreaches

/-- A device works off all of its deployments. -/
structure WorksOff (own : TenantSettings) (tenant controller : String) (calls : List Call)
    (rounds : List Round) (s : Store) : Prop where
  /-- Only a window that leads out of the calendar could keep it from that. -/
  drains : (∃ order s', Drained own tenant controller rounds s order s') ∨
    drain own tenant controller rounds s = none ∧
      ∃ x ∈ rounds, ∃ a ∈ waiting (s.actionsOf tenant controller), Strays a x.polled
  /-- No window does if the device polls after all assignments, in the years of the calendar. -/
  timely : (∀ c ∈ calls, ∀ x ∈ rounds, AssignsBy x.polled c) →
    (∀ x ∈ rounds, x.polled.base ≤ lastSecond) →
    ∃ order s', Drained own tenant controller rounds s order s'

/-- From every state of every run, a device that may have several deployments works off those that
are waiting for it, each of them once, the heaviest and then the oldest first. -/
theorem deployments_worked_off (settings : Settings) (slashless : ∀ c ∈ calls, c.Slashless)
    (plain : Target.Slashless tenant) (multi : own.multiAssignments = true)
    (closes : ∀ x ∈ rounds, x.Closes own)
    (room : ∀ a ∈ waiting ((history settings calls).present.actionsOf tenant controller),
      (history settings calls).present.countEntries a.id (some .device) < own.maxEntries)
    (enough : (waiting ((history settings calls).present.actionsOf tenant controller)).length <
      rounds.length) :
    WorksOff own tenant controller calls rounds (history settings calls).present := by
  have drains := Device.drained_or_strays multi closes
    (orderly_history settings slashless plain controller) room enough
  refine ⟨drains, fun order known => ?_⟩
  rcases drains with drained | ⟨-, x, polls, a, waits, strays⟩
  · exact drained
  · have listed := (List.mem_filter.mp waits).1
    exact absurd strays
      (not_strays_history settings (fun c member => order c member x polls) (known x polls) listed)

/-- A target declines to give anything up, so that three deployments wait for it: a light one, one
without a weight, and one of the greatest weight. -/
def declined : List Call :=
  [⟨.epoch, .createSet "t" "a" "1" []⟩,
   ⟨.epoch, .createSet "t" "b" "1" []⟩,
   ⟨.epoch, .createSet "t" "c" "1" []⟩,
   ⟨.epoch, .createTarget "t" "d" .empty⟩,
   ⟨.epoch, .assign "t" "d" ⟨1, .forced, none, some 500, none⟩⟩,
   ⟨.epoch, .assign "t" "d" ⟨2, .forced, none, none, none⟩⟩,
   ⟨.epoch, .rejectCancel "t" 2⟩,
   ⟨.epoch, .assign "t" "d" ⟨3, .forced, none, some 1000, none⟩⟩,
   ⟨.epoch, .rejectCancel "t" 4⟩,
   ⟨.epoch, .rejectCancel "t" 5⟩]

/-- A poll and the report of a success. -/
def success : Round :=
  ⟨.epoch, none, .epoch, ⟨.closed, .success, none, none, []⟩⟩

set_option maxRecDepth 10000 in
/-- Of the three deployments the device works off the light one last. -/
theorem deployments_worked_off_declined :
    WorksOff (several.tenant "t") "t" "d" declined (List.replicate 4 success)
      (history .standard declined).present ∧
    (drain (several.tenant "t") "t" "d" (List.replicate 4 success)
      (history .standard declined).present).map (·.1) = some [3, 6, 1] := by
  have plain : Target.Slashless "t" := by simp [Target.Slashless]
  have slashless : ∀ c ∈ declined, c.Slashless := by
    intro c member tenant issued
    have own : c.operation.tenant? = some "t" :=
      (by decide : ∀ c ∈ declined, c.operation.tenant? = some "t") c member
    rw [own] at issued
    exact Option.some.inj issued ▸ plain
  have closes : ∀ x ∈ List.replicate 4 success, x.Closes (several.tenant "t") := by
    intro x member
    rw [List.eq_of_mem_replicate member]
    exact ⟨rfl, by decide⟩
  exact ⟨deployments_worked_off .standard slashless plain rfl closes (by decide +kernel)
    (by decide +kernel), by decide +kernel⟩

end Service

end DeviceUpdate
