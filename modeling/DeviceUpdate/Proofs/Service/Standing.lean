import DeviceUpdate.Proofs.Deployment.Standing
import DeviceUpdate.Proofs.Service.Change
import DeviceUpdate.Proofs.Service.Installation

/-! What targets tell of the last installation, and that it is what has happened in the run. -/

namespace DeviceUpdate

open Deployments (Finishes Keyed standingUnder)

namespace Rollouts

variable {settings : Settings} {started : Nat → Prop} {s s' : Store} {own : TenantSettings}
  {r : Rollout} {group id : Nat} {now : Instant} {controller : String} {members : List String}

/-- What a launch does for a member leaves the standing of its target as it is. -/
theorem Enrols.keeps (enrols : Enrols own r group now controller s s') (keyed : Keyed s) :
    Deployments.Keeps s s' := by
  cases enrols with
  | gone absent => exact .refl s
  | assigned result assigns => exact assigns.keeps keyed

/-- A launch leaves standings as they are. -/
theorem Launch.keeps (launch : Launch (settings.tenant r.tenant) r group now members s s')
    (indexed : Deployments.Indexed s) (keyed : Keyed s) : Deployments.Keeps s s' := by
  induction launch with
  | nil s => exact .refl s
  | cons first others ih =>
    -- The others are served in the state that the first one leaves.
    have steps : Deployments.Steps settings _ _ := first.steps indexed
    exact (first.keeps keyed).trans
      (ih (steps.indexed indexed) (Service.Steps.keyed (.deployment steps) keyed))

/-- An evaluation leaves standings as they are. -/
theorem Evaluation.keeps (evaluation : Evaluation settings id s s')
    (coherent : Service.Coherent started s) (keyed : Keyed s) : Deployments.Keeps s s' := by
  cases evaluation with | evaluated between round notes =>
  -- The visits around the round touch no target, so that only the launches can.
  refine Deployments.Keeps.trans ?_ (.of_eq notes.turns.stands.frame.targets)
  cases round with
  | quiet turns => exact .of_eq turns.stands.frame.targets
  | launching before turns launches =>
    cases launches with | launched r g now runs own waits turn launch =>
    have steps : Service.Steps settings s before := turns.steps
    have indexed := (steps.coherent coherent).indexed
    have same : (before.putGroup { g with status := .running }).targets = s.targets :=
      turns.stands.frame.targets
    exact (Deployments.Keeps.of_eq same).trans
      (launch.keeps (indexed.putGroup _) (keyed.unchanged same))

end Rollouts

namespace Service

variable {settings : Settings} {started : Nat → Prop} {s s' : Store} {h : History} {c : Call}
  {key : String}

/-- A call by which attributes are accepted for the target of a key. -/
def Describes (h : History) (c : Call) (key : String) : Prop :=
  ∃ tenant controller r t s', c.operation = .describe tenant controller r ∧
    key = Target.keyOf tenant controller ∧
    Deployments.updateAttributes tenant controller r c.now h.present = .ok (t, s')

/-- Whether a call may write the standing of a target that is there. -/
def Operation.isSilent : Operation → Bool
  | .describe .. | .report .. => false
  | _ => true

/-- A transaction keeps standings if its success does. -/
theorem keeps_run {ε α : Type} (t : Transaction ε α)
    (succeeds : ∀ a s', t s = .ok (a, s') → Deployments.Keeps s s') :
    Deployments.Keeps s (t.run s).2 := by
  rcases t.run_cases s with same | ⟨a, done⟩
  · rw [same]
    exact .refl s
  · exact succeeds a _ done

section Transactions

variable {tenant controller : String} {id : Nat} {now : Instant}

/-- A target that is created has the standing of a new one, and the others keep theirs. -/
theorem keeps_createTarget {attributes : Table String String} {result : Target}
    (done : Deployments.createTarget tenant controller attributes now s = .ok (result, s')) :
    Deployments.Keeps s s' := by
  obtain ⟨absent, made, same⟩ := Deployments.createTarget_eq_ok done
  rw [same, made]
  exact .create absent rfl rfl

/-- A poll creates its target, or notes the time in it and leaves the rest as it is. -/
theorem keeps_touch (keyed : Keyed s) (tenant controller : String) (address : Option String)
    (now : Instant) : Deployments.Keeps s (Device.touch s tenant controller address now).2 := by
  show Deployments.Keeps _ (s.putTarget (Device.polled _ tenant controller address now))
  cases known : s.target? tenant controller with
  | none => exact .create known rfl rfl
  | some t => exact .replace keyed rfl known rfl rfl

/-- What becomes of cancellations is told by no target before a report. -/
theorem keeps_cancel {a : Action}
    (done : Deployments.cancel tenant id now s = .ok (a, s')) : Deployments.Keeps s s' := by
  obtain ⟨subject, -, -, -, same⟩ := Deployments.cancel_eq_ok done
  rw [same]
  exact .of_eq rfl

theorem keeps_rejectCancel (coherent : Coherent started s) {a : Action}
    (done : Deployments.rejectCancel tenant id now s = .ok (a, s')) :
    Deployments.Keeps s s' := by
  obtain ⟨cancel, subject, -, -, -, resumption⟩ :=
    Deployments.rejectCancel_resumption coherent.indexed coherent.paired done
  cases resumption with | resumed time pending =>
  exact .of_eq rfl

/-- The transition of a rollout writes nothing but the rollout. -/
theorem keeps_transition {expected : List RolloutStatus} {status : RolloutStatus}
    {operation : Rollouts.Operation} {moved : Rollout}
    (done : Rollouts.transition tenant id expected status operation s = .ok (moved, s')) :
    Deployments.Keeps s s' := by
  obtain ⟨r, -, -, -, same⟩ := Rollouts.transition_eq_ok done
  rw [same]
  exact .of_eq rfl

/-- A start schedules groups, and deploys nothing yet. -/
theorem keeps_start (starts : s' = s ∨ Rollouts.Start id s s') : Deployments.Keeps s s' := by
  rcases starts with rfl | start
  · exact .refl _
  · exact .of_eq start.frame.targets

/-- A rollout that is stopped asks for cancellations, which have not finished then. -/
theorem keeps_stop (coherent : Coherent started s) {stopped : Rollout}
    (done : Rollouts.stop tenant id now s = .ok (stopped, s')) : Deployments.Keeps s s' := by
  obtain ⟨r, -, -, -, requests⟩ := Rollouts.stop_eq_ok coherent done
  have move : Deployments.Keeps s (s.putRollout { r with status := .stopped }) := .of_eq rfl
  exact move.trans requests.keeps

theorem keeps_evaluate (coherent : Coherent started s) (keyed : Keyed s)
    (done : Rollouts.evaluate settings id now s = .ok ((), s')) : Deployments.Keeps s s' := by
  rcases Rollouts.evaluate_eq_ok coherent done with rfl | ⟨r, -, -, evaluation⟩
  · exact .refl _
  · exact evaluation.keeps coherent keyed

theorem keeps_onFailure (coherent : Coherent started s) (e : Rollouts.Error) :
    Deployments.Keeps s (Rollouts.onFailure id e s) := by
  rcases Rollouts.onFailure_cases coherent.placed e with same | ⟨-, failure⟩
  · exact .of_eq (congrArg _ same)
  · exact .of_eq failure.frame.targets

/-- With a rollout go its groups, but none of its targets. -/
theorem keeps_purge (coherent : Coherent started s) {flag : Bool}
    (done : (Rollouts.purge id : Transaction Rollouts.Error Bool) s = .ok (flag, s')) :
    Deployments.Keeps s s' := by
  rcases Rollouts.purge_eq_ok coherent.placed done with rfl | ⟨r, stored, deleting, same⟩
  · exact .refl _
  · rw [same]
    exact .of_eq (Rollouts.Step.removed s r stored deleting).frame.targets

end Transactions

/-- Calls other than attributes and reports keep standings. -/
theorem Call.keeps (c : Call) (coherent : Coherent started h.present) (keyed : Keyed h.present)
    (silent : c.operation.isSilent = true) : Deployments.Keeps h.present (c.apply settings h) := by
  obtain ⟨now, operation⟩ := c
  cases operation with
  -- The two calls that write standings are not meant here.
  | describe => cases silent
  | report => cases silent
  | createSet tenant name version modules =>
    -- A set is no part of any standing.
    refine keeps_run _ fun _ _ done => ?_
    rw [(Deployments.createSet_eq_ok done).2]
    exact .of_eq rfl
  | createTarget tenant controller attributes =>
    exact keeps_run _ fun _ _ done => keeps_createTarget done
  | poll tenant controller address => exact keeps_touch keyed tenant controller address now
  | assign tenant controller q =>
    exact keeps_run _ fun _ _ done => (Deployments.assignIn_eq_ok done).keeps keyed
  | cancel tenant id => exact keeps_run _ fun _ _ done => keeps_cancel done
  | rejectCancel tenant id => exact keeps_run _ fun _ _ done => keeps_rejectCancel coherent done
  | createRollout tenant q since =>
    simp only [Call.apply]
    split
    · refine keeps_run _ fun _ _ done => ?_
      rw [Rollouts.storePlanned_eq_ok done]
      exact .of_eq (Rollouts.Step.created h.present _ _ _ _ _).frame.targets
    · exact .refl _
  -- Of the calls about rollouts only an evaluation assigns something to targets.
  | startRollout tenant id =>
    exact keeps_run _ fun _ _ done => keeps_start (Rollouts.start_eq_ok coherent.placed done)
  | pauseRollout tenant id => exact keeps_run _ fun _ _ done => keeps_transition done
  | resumeRollout tenant id => exact keeps_run _ fun _ _ done => keeps_transition done
  | stopRollout tenant id => exact keeps_run _ fun _ _ done => keeps_stop coherent done
  | markRollout tenant id => exact keeps_run _ fun _ _ done => keeps_transition done
  | startDue id =>
    exact keeps_run _ fun _ _ done => keeps_start (Rollouts.startIn_eq_ok coherent.placed done)
  | evaluate id => exact keeps_run _ fun _ _ done => keeps_evaluate coherent keyed done
  | markFailed id since =>
    simp only [Call.apply]
    split
    · exact .refl _
    · exact keeps_onFailure coherent _
  | purge id => exact keeps_run _ fun _ _ done => keeps_purge coherent done

/-- Nothing finishes but by reports. -/
theorem Call.not_finishes (c : Call) (coherent : Coherent started h.present)
    (keyed : Keyed h.present)
    (other : ∀ tenant controller id f cancel, c.operation ≠ .report tenant controller id f cancel)
    (key : String) (a : Action) : ¬ Finishes h.present (c.apply settings h) key a := by
  have installing : Deployments.Installing h.present (c.apply settings h) :=
    c.installing coherent keyed
  have deed : Deed settings h c (c.apply settings h) := c.deed h coherent
  have spared (spares : Deployments.Spares h.present (c.apply settings h)) :
      ¬ Finishes h.present (c.apply settings h) key a :=
    Deployments.not_finishes (installing.still_of_spares spares).finished key a
  rcases deed.ends_acted coherent with
    -- A report is excluded, and a resumption reopens an action instead of ending one.
    spares | ⟨-, act⟩ | ⟨cancel, subject, -, resumption⟩
  · exact spared spares
  · cases act with
    | aside actions log =>
      exact Deployments.not_finishes (fun _ _ => Deployments.Finished.congr actions) key a
    | assigned tenant controller q result assigns own =>
      exact spared (assigns.spares coherent.indexed)
    | cancelled subject stored same =>
      refine spared ?_
      rw [same]
      exact .requestCancel h.present subject c.now
    | reported controller a f cancel own => exact absurd own (other _ _ _ _ _)
  · exact Deployments.not_finishes (resumption.still coherent.paired).finished key a

/-- What becomes of the standing under a key in a call. -/
structure Recalls (h : History) (c : Call) (s' : Store) (key : String) : Prop where
  /-- A deployment that finishes is told, with the time of the report. -/
  finished : ∀ {a : Action}, Finishes h.present s' key a →
    standingUnder s' key = some ⟨a.set?, some c.now, true⟩ ∧
    ∃ f cancel, c.operation = .report a.tenant a.controller a.id f cancel
  /-- Attributes that are accepted are not wanted any more. -/
  described : Describes h c key → ∃ t, standingUnder h.present key = some t ∧
    standingUnder s' key = some { t with wantsAttributes := false }
  /-- Otherwise the standing is kept, or is the initial one of a new target. -/
  kept : (∀ a, ¬ Finishes h.present s' key a) → ¬ Describes h c key →
    standingUnder s' key = standingUnder h.present key ∨
      standingUnder h.present key = none ∧ standingUnder s' key = some .initial

theorem Recalls.of_keeps (keeps : Deployments.Keeps h.present s')
    (none : ∀ key a, ¬ Finishes h.present s' key a) (silent : ¬ Describes h c key) :
    Recalls h c s' key where
  finished finishes := absurd finishes (none key _)
  described describes := absurd describes silent
  kept _ _ := keeps key

/-- Attributes are accepted for one target, and not at all where they are refused. -/
theorem describes_iff {tenant controller : String} {r : Deployments.AttributeReport}
    (own : c.operation = .describe tenant controller r) : Describes h c key ↔
      key = Target.keyOf tenant controller ∧ ∃ t s',
        Deployments.updateAttributes tenant controller r c.now h.present = .ok (t, s') := by
  constructor
  -- The fields are those of the call itself, so that nothing is left to choose.
  · rintro ⟨tenant', controller', r', t, s', other, here, done⟩
    rw [own] at other
    cases other
    exact ⟨here, t, s', done⟩
  · rintro ⟨here, t, s', done⟩
    exact ⟨tenant, controller, r, t, s', own, here, done⟩

/-- Attributes that are accepted are recalled by their target. -/
theorem Recalls.of_describe {tenant controller : String} {r : Deployments.AttributeReport}
    (own : c.operation = .describe tenant controller r)
    (none : ∀ key a, ¬ Finishes h.present s' key a) (keyed : Keyed h.present)
    (same : s' = ((Deployments.updateAttributes tenant controller r c.now).run h.present).2) :
    Recalls h c s' key := by
  cases outcome : Deployments.updateAttributes tenant controller r c.now h.present with
  | error e =>
    -- A refused description leaves the store alone.
    have stays : s' = h.present := by
      rw [same, Transaction.run, StateT.run, outcome]
    rw [stays] at none ⊢
    refine .of_keeps (.refl _) none fun describes => ?_
    obtain ⟨-, t, s', done⟩ := (describes_iff own).mp describes
    rw [outcome] at done
    cases done
  | ok result =>
    obtain ⟨t, s₁⟩ := result
    have stores : s' = s₁ := by
      rw [same, Transaction.run, StateT.run, outcome]
    obtain ⟨known, found, described, stored⟩ := Deployments.updateAttributes_eq_ok outcome
    -- The description replaces the standing of the one target that it names.
    have here : known.key = Target.keyOf tenant controller := keyed found
    have standing (key : String) : standingUnder s' key = if key = Target.keyOf tenant controller
        then some { known.standing with wantsAttributes := false }
        else standingUnder h.present key := by
      rw [stores, stored, Deployments.standingUnder_putTarget, described, ← here]
      rfl
    refine ⟨fun finishes => absurd finishes (none key _), fun describes => ?_, fun _ silent => ?_⟩
    · obtain ⟨rfl, -⟩ := (describes_iff own).mp describes
      refine ⟨known.standing, ?_, by rw [standing, if_pos rfl]⟩
      exact congrArg (Option.map (·.standing)) found
    · left
      rw [standing, if_neg fun same => silent ((describes_iff own).mpr ⟨same, t, s₁, outcome⟩)]

/-- A report is recalled by the target of its action. -/
theorem Recalls.of_recounting {a : Action} {f : Feedback} {cancel : Bool}
    (own : c.operation = .report a.tenant a.controller a.id f cancel)
    (recounting : Deployments.Recounting a c.now h.present s') : Recalls h c s' key := by
  -- A report is no description.
  have silent : ¬ Describes h c key := fun ⟨_, _, _, _, _, other, _⟩ => by
    rw [own] at other
    cases other
  cases recounting with
  -- A report that finishes nothing leaves every standing in place.
  | kept keeps none => exact .of_keeps keeps none silent
  | finished set named standing finishes =>
    refine ⟨fun {b} done => ?_, fun describes => absurd describes silent, fun none _ => ?_⟩
    -- Finishing writes the standing of the target of the action, and no other one.
    · obtain ⟨rfl, rfl⟩ := (finishes key b).mp done
      refine ⟨?_, f, cancel, own⟩
      rw [standing, if_pos rfl, ← named]
      rfl
    · left
      rw [standing, if_neg fun here => none _ ((finishes key _).mpr ⟨here, rfl⟩)]

/-- Every call is recalled by the targets. -/
theorem Call.recalls (c : Call) (coherent : Coherent started h.present) (keyed : Keyed h.present)
    (key : String) : Recalls h c (c.apply settings h) key := by
  -- Of all calls only a report finishes a deployment.
  have none (other) (key : String) (a : Action) : ¬ Finishes h.present (c.apply settings h) key a :=
    c.not_finishes coherent keyed other key a
  cases operation : c.operation with
  | describe tenant controller r =>
    refine .of_describe operation (none fun _ _ _ _ _ other => ?_) keyed ?_
    · rw [operation] at other
      cases other
    · rw [Call.apply, operation]
  | report tenant controller id f cancel =>
    have silent : ¬ Describes h c key := by
      rintro ⟨_, _, _, _, _, other, _⟩
      rw [operation] at other
      cases other
    rw [Call.apply, operation]
    -- A refused report leaves the store in place, a taken one is a case of the step of a report.
    rcases Transaction.run_cases (Deployments.report (settings.tenant tenant) tenant controller id f
      cancel c.now) h.present with stays | ⟨reported, done⟩
    · refine .of_keeps (.of_eq (congrArg _ stays)) (fun key a => ?_) silent
      exact Deployments.not_finishes (fun _ _ => Deployments.Finished.congr (congrArg _ stays))
        key a
    · obtain ⟨a, found, rfl, -, -, reporting⟩ :=
        Deployments.report_reporting coherent.indexed coherent.paired done
      obtain ⟨stored, rfl, rfl⟩ := coherent.indexed.action?_eq_some found
      exact .of_recounting operation (reporting.recounting coherent.paired keyed stored)
  | _ =>
    refine .of_keeps (c.keeps coherent keyed (by rw [operation]; rfl))
      (none fun _ _ _ _ _ other => ?_) ?_
    · rw [operation] at other
      cases other
    · rintro ⟨_, _, _, _, _, other, _⟩
      rw [operation] at other
      cases other

/-- A target that is there stays, and tells the same unless a deployment finishes or attributes are
accepted. -/
theorem Recalls.goes_on (recalls : Recalls h c s' key) {t : Standing}
    (known : standingUnder h.present key = some t) : ∃ t', standingUnder s' key = some t' ∧
      ((∀ a, ¬ Finishes h.present s' key a) →
        t'.installed = t.installed ∧ t'.installedAt = t.installedAt ∧
        (¬ Describes h c key → t'.wantsAttributes = t.wantsAttributes)) := by
  -- A standing goes on in three ways: it is rewritten by a finish, by a description, or kept.
  by_cases finishes : ∃ a, Finishes h.present s' key a
  · obtain ⟨a, finishes⟩ := finishes
    exact ⟨_, (recalls.finished finishes).1, fun none => absurd finishes (none a)⟩
  have unfinished (a : Action) : ¬ Finishes h.present s' key a := fun done => finishes ⟨a, done⟩
  by_cases describes : Describes h c key
  · obtain ⟨u, same, standing⟩ := recalls.described describes
    obtain rfl := Option.some.inj (same.symm.trans known)
    exact ⟨_, standing, fun _ => ⟨rfl, rfl, fun silent => absurd describes silent⟩⟩
  rcases recalls.kept unfinished describes with same | ⟨none, -⟩
  · exact ⟨t, same.trans known, fun _ => ⟨rfl, rfl, fun _ => rfl⟩⟩
  · rw [known] at none
    cases none

/-- Every call of a run is recalled by the targets. -/
theorem recalls_history (settings : Settings) (calls : List Call) (c : Call) (key : String) :
    Recalls (history settings calls) c (history settings (calls ++ [c])).present key := by
  rw [history_concat]
  exact c.recalls (coherent_history settings calls) (keyed_history settings calls) key

section Runs

variable {happens : List Call → Call → Prop} {before after calls : List Call} {d : Call}

/-- Something does not happen in the calls of a run that come after others. -/
def Never (happens : List Call → Call → Prop) (before after : List Call) : Prop :=
  ∀ first c rest, after = first ++ c :: rest → ¬ happens (before ++ first) c

/-- Something happens in a call of a run, and in none of those that come after it. -/
structure Latest (happens : List Call → Call → Prop) (calls before : List Call) (c : Call)
    (after : List Call) : Prop where
  split : calls = before ++ c :: after
  here : happens before c
  unrepeated : Never happens (before ++ [c]) after

theorem never_nil : Never happens before [] := by
  intro first c rest split
  simp at split

/-- What has not happened, and does not in one more call, has not happened then. -/
theorem never_concat : Never happens before (after ++ [d]) ↔
    Never happens before after ∧ ¬ happens (before ++ after) d := by
  constructor
  · intro never
    refine ⟨fun first c rest split => never first c (rest ++ [d]) ?_, never after d [] rfl⟩
    rw [split, List.append_assoc, List.cons_append]
  · rintro ⟨never, last⟩ first c rest split
    -- The call is the last one, or one of those before it.
    rcases List.eq_nil_or_concat rest with rfl | ⟨rest, e, rfl⟩
    · obtain ⟨rfl, same⟩ := List.append_inj' split rfl
      rw [← List.head_eq_of_cons_eq same]
      exact last
    · rw [List.concat_eq_append, ← List.cons_append, ← List.append_assoc] at split
      exact never first c rest (List.append_inj' split rfl).1

/-- What happens in the last call has happened there last. -/
theorem Latest.last (here : happens calls d) : Latest happens (calls ++ [d]) calls d [] :=
  ⟨rfl, here, never_nil⟩

/-- What does not happen in one more call has happened last where it had before. -/
theorem Latest.concat (latest : Latest happens calls before c after) (other : ¬ happens calls d) :
    Latest happens (calls ++ [d]) before c (after ++ [d]) where
  split := by rw [latest.split, List.append_assoc, List.cons_append]
  here := latest.here
  unrepeated := never_concat.mpr ⟨latest.unrepeated, by
    rwa [List.append_assoc, List.singleton_append, ← latest.split]⟩

variable (settings : Settings) (key : String)

/-- A deployment to the target of a key finishes in a call of a run. -/
def FinishesIn (before : List Call) (c : Call) : Prop :=
  ∃ a, Finishes (history settings before).present (history settings (before ++ [c])).present key a

/-- The target of a key is created in a call of a run. -/
def CreatesIn (before : List Call) (c : Call) : Prop :=
  (history settings before).present.targets.get? key = none ∧
    ((history settings (before ++ [c])).present.targets.get? key).isSome = true

/-- Attributes are accepted for the target of a key in a call of a run. -/
def DescribesIn (before : List Call) (c : Call) : Prop :=
  Describes (history settings before) c key

/-- What the standing of a target tells of the run that has led to it. -/
structure Told (calls : List Call) (t : Standing) : Prop where
  /-- What is installed, and since when, is told by the last deployment that has finished. -/
  installed : Never (FinishesIn settings key) [] calls ∧ t.installed = none ∧ t.installedAt = none ∨
    ∃ before c after a, Latest (FinishesIn settings key) calls before c after ∧
      Finishes (history settings before).present (history settings (before ++ [c])).present key a ∧
      (∃ f cancel, c.operation = .report a.tenant a.controller a.id f cancel) ∧
      t.installed = a.set? ∧ t.installedAt = some c.now
  /-- Attributes are wanted until some are accepted, from the creation of the target on and again
  from the last deployment on that has finished. -/
  attributes : ∃ before c after,
    Latest (fun before c => CreatesIn settings key before c ∨ FinishesIn settings key before c)
      calls before c after ∧
    (t.wantsAttributes = true ↔ Never (DescribesIn settings key) (before ++ [c]) after)

variable {settings key} {t u : Standing}

/-- What is told stays so while nothing finishes, but for attributes that are accepted. -/
theorem Told.concat (told : Told settings key calls t) (unfinished : ¬ FinishesIn settings key calls d)
    (known : ¬ CreatesIn settings key calls d) (installed : u.installed = t.installed)
    (since : u.installedAt = t.installedAt)
    (wants : u.wantsAttributes = true ↔
      t.wantsAttributes = true ∧ ¬ DescribesIn settings key calls d) :
    Told settings key (calls ++ [d]) u where
  installed := by
    rw [installed, since]
    -- What was told before remains the latest, since the new call neither finishes nor creates.
    refine told.installed.imp ?_ ?_
    · rintro ⟨never, rest⟩
      exact ⟨never_concat.mpr ⟨never, unfinished⟩, rest⟩
    · rintro ⟨before, c, after, a, latest, rest⟩
      exact ⟨before, c, after ++ [d], a, latest.concat unfinished, rest⟩
  attributes := by
    obtain ⟨before, c, after, latest, asked⟩ := told.attributes
    refine ⟨before, c, after ++ [d], latest.concat (not_or.mpr ⟨known, unfinished⟩), ?_⟩
    -- The descriptions since the latest creation or finish now include those of the new call.
    have split : before ++ [c] ++ after = calls := by
      rw [latest.split, List.append_assoc, List.singleton_append]
    rw [wants, asked, never_concat, split]

/-- A deployment that finishes is told by the target. -/
theorem Told.finished {a : Action} (finishes : Finishes (history settings calls).present
      (history settings (calls ++ [d])).present key a)
    (own : ∃ f cancel, d.operation = .report a.tenant a.controller a.id f cancel) :
    Told settings key (calls ++ [d]) ⟨a.set?, some d.now, true⟩ where
  installed := .inr ⟨calls, d, [], a, .last ⟨a, finishes⟩, finishes, own, rfl, rfl⟩
  attributes := ⟨calls, d, [], .last (.inr ⟨a, finishes⟩), iff_of_true rfl never_nil⟩

/-- A new target tells that nothing has finished. -/
theorem Told.created (never : Never (FinishesIn settings key) [] (calls ++ [d]))
    (creates : CreatesIn settings key calls d) :
    Told settings key (calls ++ [d]) .initial where
  installed := .inl ⟨never, rfl, rfl⟩
  attributes := ⟨calls, d, [], .last (.inl creates), iff_of_true rfl never_nil⟩

/-- Where nothing is known under a key, nothing has finished under it, and targets tell of the run. -/
theorem told_history (settings : Settings) (key : String) (calls : List Call) :
    (standingUnder (history settings calls).present key = none →
      Never (FinishesIn settings key) [] calls) ∧
    ∀ t, standingUnder (history settings calls).present key = some t →
      Told settings key calls t := by
  -- By induction on the calls from the end: what the last call does to the standing is one of the
  -- cases of its recall.
  induction calls using List.reverseRecOn with
  | nil =>
    refine ⟨fun _ => never_nil, fun t found => ?_⟩
    simp [standingUnder, Store.empty] at found
  | append_singleton calls d ih =>
    obtain ⟨absent, tells⟩ := ih
    have recalls := recalls_history settings calls d key
    by_cases finishes : FinishesIn settings key calls d
    · obtain ⟨a, finishes⟩ := finishes
      obtain ⟨standing, own⟩ := recalls.finished finishes
      rw [standing]
      refine ⟨fun none => (by cases none), fun t same => ?_⟩
      rw [← Option.some.inj same]
      exact .finished finishes own
    have unfinished (a : Action) : ¬ Finishes _ _ key a := fun done => finishes ⟨a, done⟩
    -- No finish, so that the last call describes the target, keeps its standing or creates it.
    by_cases describes : DescribesIn settings key calls d
    · obtain ⟨t, known, standing⟩ := recalls.described describes
      rw [standing]
      refine ⟨fun none => (by cases none), fun u same => ?_⟩
      rw [← Option.some.inj same]
      refine (tells t known).concat finishes ?_ rfl rfl (by simp [describes])
      rintro ⟨none, -⟩
      simp [standingUnder, none] at known
    rcases recalls.kept unfinished describes with same | ⟨none, standing⟩
    · rw [same]
      refine ⟨fun none => never_concat.mpr ⟨absent none, finishes⟩, fun t known => ?_⟩
      refine (tells t known).concat finishes ?_ rfl rfl (by simp [describes])
      rintro ⟨none, -⟩
      simp [standingUnder, none] at known
    · rw [standing]
      refine ⟨fun none => (by cases none), fun u same => ?_⟩
      rw [← Option.some.inj same]
      refine .created (never_concat.mpr ⟨absent none, finishes⟩) ⟨?_, ?_⟩
      · simpa [standingUnder] using none
      · have here := congrArg Option.isSome standing
        simpa [standingUnder] using here

/-- In every run, targets tell of the last deployment that has finished for them, and want
attributes until some are accepted after that. Any other call leaves what they tell as it is. -/
theorem targets_recall (settings : Settings) (calls : List Call) (key : String) {t : Target}
    (found : (history settings calls).present.targets.get? key = some t) :
    Told settings key calls t.standing ∧
    ∀ c, ∃ next, (history settings (calls ++ [c])).present.targets.get? key = some next ∧
      (¬ FinishesIn settings key calls c →
        next.installed = t.installed ∧ next.installedAt = t.installedAt ∧
        (¬ DescribesIn settings key calls c → next.wantsAttributes = t.wantsAttributes)) := by
  have standing : standingUnder (history settings calls).present key = some t.standing := by
    rw [standingUnder, found, Option.map_some]
  refine ⟨(told_history settings key calls).2 t.standing standing, fun c => ?_⟩
  obtain ⟨u, after, keeps⟩ := (recalls_history settings calls c key).goes_on standing
  obtain ⟨next, here, rfl⟩ := Option.map_eq_some_iff.mp after
  exact ⟨next, here, fun none => keeps fun a done => none ⟨a, done⟩⟩

end Runs

/-- After a delivery the set is told, and attributes are no longer wanted once they have come. -/
theorem targets_recall_delivery :
    let calls := delivery ++ [⟨.epoch, .describe "t" "d" ⟨.merge, .empty⟩⟩]
    ∃ t, (history .standard calls).present.targets.get? "t/d" = some t ∧
      t.standing = ⟨some 1, some .epoch, false⟩ ∧ Told .standard "t/d" calls t.standing := by
  intro calls
  have standing : standingUnder (history .standard calls).present "t/d" =
      some ⟨some 1, some .epoch, false⟩ := by
    decide +kernel
  obtain ⟨t, found, same⟩ := Option.map_eq_some_iff.mp standing
  exact ⟨t, found, same, (targets_recall .standard calls "t/d" found).1⟩

end Service

end DeviceUpdate
