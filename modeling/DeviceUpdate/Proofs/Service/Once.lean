import DeviceUpdate.Proofs.Deployment.Origin
import DeviceUpdate.Proofs.Service.Ageing
import DeviceUpdate.Proofs.Service.Conduct
import DeviceUpdate.Proofs.Service.Order
import DeviceUpdate.Proofs.Service.Step
import DeviceUpdate.Proofs.Target

/-! Every group starts once, and only its start deploys anything, once to each of its members. -/

namespace DeviceUpdate.Rollouts

open Deployments (Assigns Indexed Inherits Requests Serves)

/-- While a group is launched: what its deployments are, and where all others come from. -/
structure Manned (r : Rollout) (group : Nat) (members : List String) (s₀ s : Store) : Prop where
  own : ∀ {id : Nat} {a : Action} {m : Membership}, s.actions.get? id = some a → Serves a m →
    m.group = group → m.rollout = r.id ∧ a.tenant = r.tenant ∧ a.controller ∈ members
  /-- Nothing stops them while the launch goes on. -/
  current : ∀ {id : Nat} {a : Action} {m : Membership}, s.actions.get? id = some a → Serves a m →
    m.group = group → a.isInFlight = true ∧
      (a.deployment?.any fun d => d.distributionSet == r.distributionSet) = true
  single : ∀ {id other : Nat} {a b : Action} {m n : Membership},
    s.actions.get? id = some a → Serves a m → m.group = group →
    s.actions.get? other = some b → Serves b n → n.group = group →
    a.controller = b.controller → id = other
  others : ∀ {id : Nat} {a : Action} {m : Membership}, s.actions.get? id = some a → Serves a m →
    m.group ≠ group →
    ∃ b status active now, s₀.actions.get? id = some b ∧ a = b.moved status active now

variable {own : TenantSettings} {r : Rollout} {group : Nat} {members : List String}
  {now : Instant} {s₀ s s' : Store} {controller : String}

/-- Before the launch, nothing is deployed for the group. -/
theorem Manned.start (same : s.actions = s₀.actions) (none : ∀ {id : Nat} {a : Action}
    {m : Membership}, s.actions.get? id = some a → Serves a m → m.group ≠ group) :
    Manned r group members s₀ s where
  own stored serves here := absurd here (none stored serves)
  current stored serves here := absurd here (none stored serves)
  single stored serves here := absurd here (none stored serves)
  others {_ a _} stored _ _ :=
    ⟨a, a.status, a.active, a.modifiedAt, by rw [← same]; exact stored, rfl⟩

/-- What leaves the actions alone leaves the group manned. -/
theorem Manned.unchanged (manned : Manned r group members s₀ s) (same : s'.actions = s.actions) :
    Manned r group members s₀ s' := by
  constructor <;> rw [same]
  · exact manned.own
  · exact manned.current
  · exact manned.single
  · exact manned.others

/-- A member that has its deployment already is not free for another one. -/
theorem Manned.apart (manned : Manned r group members s₀ s) (indexed : Indexed s)
    (free : Deployments.inFlight? (s.actionsOf r.tenant controller) r.distributionSet = none)
    {id : Nat} {a : Action} {m : Membership} (stored : s.actions.get? id = some a)
    (serves : Serves a m) (here : m.group = group) : a.controller ≠ controller := by
  rintro rfl
  obtain ⟨-, owner, -⟩ := manned.own stored serves here
  obtain ⟨inFlight, same⟩ := manned.current stored serves here
  -- The deployment is listed for the member, so it would have been found.
  have listed : a ∈ s.actionsOf r.tenant a.controller := by
    refine indexed.mem_actionsOf.mpr ⟨?_, by rw [Action.targetKey, owner]⟩
    rw [indexed.own stored]
    exact stored
  have fails := List.find?_eq_none.mp free a listed
  simp [inFlight, same] at fails

/-- What is cancelled for another member leaves the deployments of the group as they are. -/
theorem Manned.requests (manned : Manned r group members s₀ s) (indexed : Indexed s)
    (free : Deployments.inFlight? (s.actionsOf r.tenant controller) r.distributionSet = none)
    (requests : Requests (· ∈ s.actionsOf r.tenant controller) now s s') {id : Nat} {a : Action}
    {m : Membership} (stored : s'.actions.get? id = some a) (serves : Serves a m)
    (here : m.group = group) : s.actions.get? id = some a := by
  -- The deployment was there before, since requests only move what is stored.
  obtain ⟨b, status, active, time, before, moved⟩ := requests.inherits.origin stored serves
  have same : Serves b m := by
    rw [moved] at serves
    exact ⟨serves.deploys, serves.member⟩
  have number := indexed.own before
  -- It is listed for its own target, which is not the one that is served now.
  have unlisted : b ∉ s.actionsOf r.tenant controller := fun listed => by
    have key := (indexed.mem_actionsOf.mp listed).2
    rw [Action.targetKey, (manned.own before same here).2.1, Target.keyOf_inj] at key
    exact manned.apart indexed free before same here key
  rw [← number] at before stored ⊢
  have equal : a = b :=
    Option.some.inj (stored.symm.trans (requests.kept indexed before unlisted))
  rw [equal]
  exact before

/-- What is cancelled for another member leaves the group manned. -/
theorem Manned.requested (manned : Manned r group members s₀ s) (indexed : Indexed s)
    (free : Deployments.inFlight? (s.actionsOf r.tenant controller) r.distributionSet = none)
    (requests : Requests (· ∈ s.actionsOf r.tenant controller) now s s') :
    Manned r group members s₀ s' := by
  have kept {id : Nat} {a : Action} {m : Membership} (stored : s'.actions.get? id = some a)
      (serves : Serves a m) (here : m.group = group) : s.actions.get? id = some a :=
    manned.requests indexed free requests stored serves here
  constructor
  case own => exact fun stored serves here => manned.own (kept stored serves here) serves here
  case current =>
    exact fun stored serves here => manned.current (kept stored serves here) serves here
  case single =>
    intro id other a b m n storedA servesA hereA storedB servesB hereB
    exact manned.single (kept storedA servesA hereA) servesA hereA
      (kept storedB servesB hereB) servesB hereB
  -- Deployments for other groups have been moved at most.
  case others =>
    intro id a m stored serves apart
    obtain ⟨b, status, active, time, before, moved⟩ := requests.inherits.origin stored serves
    subst moved
    obtain ⟨c, _, _, _, origin, same⟩ :=
      manned.others before ⟨serves.deploys, serves.member⟩ apart
    subst same
    exact ⟨c, _, _, _, origin, rfl⟩

/-- A deployment for a member that has none yet leaves the group manned. -/
theorem Manned.deploy (manned : Manned r group members s₀ s) (member : controller ∈ members)
    (none : ∀ {id : Nat} {a : Action} {m : Membership}, s.actions.get? id = some a → Serves a m →
      m.group = group → a.controller ≠ controller) (t : Target) (weight : Option Nat) :
    Manned r group members s₀ (s.deploy t r.tenant controller ((requestOf r).deployment weight)
      (some ⟨r.id, group⟩) now) := by
  constructor
  case own =>
    -- The new deployment is for this group and this member.
    intro id a m stored serves here
    rw [Store.get?_deploy] at stored
    split at stored
    · have names := serves.member
      rw [← Option.some.inj stored] at names ⊢
      rw [← Option.some.inj names]
      exact ⟨rfl, rfl, member⟩
    · exact manned.own stored serves here
  -- It is of the set of the rollout and in flight.
  case current =>
    intro id a m stored serves here
    rw [Store.get?_deploy] at stored
    split at stored
    · rw [← Option.some.inj stored]
      simp [Deployments.newAction, Action.isInFlight, Action.isCancel, Action.cancels?,
        Action.deployment?, AssignmentRequest.deployment, requestOf]
    · exact manned.current stored serves here
  case single =>
    intro id other a b m n storedA servesA hereA storedB servesB hereB same
    rw [Store.get?_deploy] at storedA storedB
    -- The new deployment is the only one for its member, and the others were so before.
    split at storedA
    · split at storedB
      · rename_i first second
        rw [first, second]
      · rw [← Option.some.inj storedA] at same
        exact absurd same.symm (none storedB servesB hereB)
    · split at storedB
      · rw [← Option.some.inj storedB] at same
        exact absurd same (none storedA servesA hereA)
      · exact manned.single storedA servesA hereA storedB servesB hereB same
  -- It is for no other group.
  case others =>
    intro id a m stored serves apart
    rw [Store.get?_deploy] at stored
    split at stored
    · have names := serves.member
      rw [← Option.some.inj stored] at names
      exact absurd (by rw [← Option.some.inj names]) apart
    · exact manned.others stored serves apart

/-- Serving one more member leaves at most one deployment for each. -/
theorem Enrols.manned (enrols : Enrols own r group now controller s s')
    (member : controller ∈ members) (indexed : Indexed s)
    (manned : Manned r group members s₀ s) : Manned r group members s₀ s' := by
  cases enrols with
  | gone absent => exact manned
  | assigned result assigns =>
    cases assigns with
    -- A member with a deployment of the set in flight gets no second one.
    | already a current => exact manned
    | new t weight cancels between valid found known free replaces =>
      have requests : Requests (· ∈ s.actionsOf r.tenant controller) now s between := by
        rw [replaces]
        exact indexed.replaced_requests own r.tenant controller now
      -- The member has no deployment of the group, since it has none of the set in flight.
      refine (manned.requested indexed free requests).deploy member (fun stored serves here => ?_)
        t weight
      exact manned.apart indexed free (manned.requests indexed free requests stored serves here)
        serves here

/-- A launch leaves at most one deployment for each member. -/
theorem Launch.manned {settings : Settings} {all : List String}
    (launch : Launch (settings.tenant r.tenant) r group now members s s')
    (part : ∀ controller ∈ members, controller ∈ all) (indexed : Indexed s)
    (manned : Manned r group all s₀ s) : Manned r group all s₀ s' := by
  induction launch with
  | nil s => exact manned
  | cons first others ih =>
    -- The others are served in the state that the first one leaves.
    have steps : Deployments.Steps settings _ _ := first.steps indexed
    exact ih (fun controller member => part controller (List.mem_cons_of_mem _ member))
      (steps.indexed indexed) (first.manned (part _ List.mem_cons_self) indexed manned)

end DeviceUpdate.Rollouts

namespace DeviceUpdate

open Deployments (Indexed Inherits Serves)

namespace Rollouts

open Service (Coherent)

/-- Only groups that have begun have deployments, and each member has one at most. -/
structure Served (s : Store) : Prop where
  drawn : ∀ {id : Nat} {a : Action} {m : Membership}, s.actions.get? id = some a → Serves a m →
    m.group < s.nextNumber groupSequence
  begun : ∀ {id : Nat} {a : Action} {m : Membership} {g : RolloutGroup},
    s.actions.get? id = some a → Serves a m → s.groups.get? m.group = some g →
    2 ≤ g.status.rank
  single : ∀ {id other : Nat} {a b : Action} {m n : Membership},
    s.actions.get? id = some a → Serves a m → s.actions.get? other = some b → Serves b n →
    m.group = n.group → a.controller = b.controller → id = other

/-- A transaction, seen as a whole, in which a group that has waited is launched. -/
structure Commences (r : Rollout) (g : RolloutGroup) (s s' : Store) : Prop where
  known : ∃ before, s.rollouts.get? r.id = some before ∧ before.tenant = r.tenant
  set : ∀ before, s.rollouts.get? r.id = some before → before.distributionSet = r.distributionSet
  waits : s.groups.get? g.id = some g ∧ g.status.rank ≤ 1
  own : g.rollout = r.id
  runs : ∃ h, s'.groups.get? g.id = some h ∧ h.status = .running
  manned : Manned r g.id (s.membersOf g.id) s s'

variable {settings : Settings} {started : Nat → Prop} {s s' : Store} {r : Rollout}
  {g : RolloutGroup} {id : Nat}

/-- Nothing is deployed at the start. -/
theorem served_empty : Served .empty := by
  constructor <;> intros <;> simp_all [Store.empty]

/-- Where no deployment is made for a group, groups can only go on. -/
theorem Served.inherits (served : Served s) (inherits : Inherits s s')
    (ages : ∀ id, id < s.nextNumber groupSequence → Ages id s s') : Served s' where
  -- Deployments of groups are inherited, and the groups grow older.
  drawn stored serves := by
    obtain ⟨a, _, _, _, before, rfl⟩ := inherits.origin stored serves
    have drawn := served.drawn before ⟨serves.deploys, serves.member⟩
    exact Nat.lt_of_lt_of_le drawn (ages _ drawn).next
  begun stored serves found := by
    obtain ⟨a, _, _, _, before, rfl⟩ := inherits.origin stored serves
    have same : Serves a _ := ⟨serves.deploys, serves.member⟩
    obtain ⟨h, here, -, up⟩ := (ages _ (served.drawn before same)).before found
    exact Nat.le_trans (served.begun before same here) up
  single storedA servesA storedB servesB group controller := by
    obtain ⟨a, _, _, _, beforeA, rfl⟩ := inherits.origin storedA servesA
    obtain ⟨b, _, _, _, beforeB, rfl⟩ := inherits.origin storedB servesB
    exact served.single beforeA ⟨servesA.deploys, servesA.member⟩ beforeB
      ⟨servesB.deploys, servesB.member⟩ group controller

/-- The launch of a group adds deployments for it alone. -/
theorem Served.commences (served : Served s) (commences : Commences r g s s')
    (drawn : g.id < s.nextNumber groupSequence)
    (ages : ∀ id, id < s.nextNumber groupSequence → Ages id s s') : Served s' where
  drawn {id a m} stored serves := by
    -- A deployment for the launched group is new, and any other is inherited.
    have next := (ages g.id drawn).next
    by_cases here : m.group = g.id
    · rw [here]
      exact Nat.lt_of_lt_of_le drawn next
    · obtain ⟨b, _, _, _, before, rfl⟩ := commences.manned.others stored serves here
      exact Nat.lt_of_lt_of_le (served.drawn before ⟨serves.deploys, serves.member⟩) next
  begun {id a m h} stored serves found := by
    by_cases here : m.group = g.id
    -- The group of the launch runs.
    · obtain ⟨f, runs, running⟩ := commences.runs
      rw [here, runs] at found
      rw [← Option.some.inj found, running]
      decide
    · obtain ⟨b, _, _, _, before, rfl⟩ := commences.manned.others stored serves here
      have same : Serves b m := ⟨serves.deploys, serves.member⟩
      obtain ⟨f, was, -, up⟩ := (ages _ (served.drawn before same)).before found
      exact Nat.le_trans (served.begun before same was) up
  single {id other a b m n} storedA servesA storedB servesB group controller := by
    by_cases here : m.group = g.id
    · exact commences.manned.single storedA servesA here storedB servesB (group ▸ here) controller
    · obtain ⟨a, _, _, _, beforeA, rfl⟩ := commences.manned.others storedA servesA here
      obtain ⟨b, _, _, _, beforeB, rfl⟩ :=
        commences.manned.others storedB servesB (group ▸ here)
      exact served.single beforeA ⟨servesA.deploys, servesA.member⟩ beforeB
        ⟨servesB.deploys, servesB.member⟩ group controller

/-- Changes of the record change no group. -/
theorem Notes.groups (notes : Notes id s s') : s'.groups = s.groups := by
  induction notes with
  | refl => rfl
  | tail _ note ih => exact note.groups.trans ih

/-- An evaluation makes no deployment for a group, or it launches one. -/
theorem Evaluation.commences (evaluation : Evaluation settings r.id s s')
    (stored : s.rollouts.get? r.id = some r) (coherent : Coherent started s) (served : Served s) :
    Inherits s s' ∨ ∃ r g, Commences r g s s' := by
  cases evaluation with | evaluated between round notes =>
  have noted : Rests between s' := notes.turns.rests
  cases round with
  -- Without a launch no action is written.
  | quiet turns =>
    refine Or.inl (.of_found fun id => ?_)
    rw [noted.actions, turns.rests.actions]
  | launching before turns launches =>
    cases launches with | launched r' g now runs own waits turn launch =>
    have rests : Rests s before := turns.rests
    have steps : Service.Steps settings s before := turns.steps
    have indexed := (steps.coherent coherent).indexed
    -- The group has waited until now, so nothing has been deployed for it.
    obtain ⟨f, found, plan, up⟩ := (turns.ages g.id).before runs.storedGroup
    have low := GroupStatus.rank_of_startable waits
    have named : f.id = g.id := by rw [plan]
    have none {id : Nat} {a : Action} {m : Membership} (here : s.actions.get? id = some a)
        (serves : Serves a m) : m.group ≠ g.id := fun same => by
      have begun := served.begun here serves (by rw [same]; exact found)
      omega
    refine Or.inr ⟨r', f, ?_⟩
    -- The group that starts is as it was before the turns, but for its status.
    constructor
    case waits => exact ⟨by rw [named]; exact found, by omega⟩
    case known =>
      obtain ⟨status, check, moved, -⟩ := turns.conducts.moved stored
      rw [← own, runs.stored] at moved
      exact ⟨r, by rw [own]; exact stored, by rw [Option.some.inj moved]⟩
    case set =>
      intro before known
      obtain ⟨status, check, moved, -⟩ := turns.conducts.moved stored
      rw [← own, runs.stored] at moved
      rw [own, stored] at known
      rw [Option.some.inj moved, Option.some.inj known]
    case own =>
      have rollout := runs.own
      rw [plan] at rollout
      exact rollout
    case runs =>
      have launched : Deployments.Steps settings _ between :=
        launch.steps (indexed.putGroup _)
      refine ⟨{ g with status := .running }, ?_, rfl⟩
      rw [named, notes.groups, launched.frame.groups, get?_putGroup, if_pos rfl]
    case manned =>
      rw [named]
      have listed : before.membersOf g.id = s.membersOf g.id := by
        rw [Store.membersOf, Store.membersOf, rests.members]
      rw [listed] at launch
      have manned : Manned r' g.id (s.membersOf g.id) s between :=
        launch.manned (fun _ member => member) (indexed.putGroup _)
          (.start rests.actions fun here serves =>
            none (by rw [← rests.actions]; exact here) serves)
      exact manned.unchanged noted.actions

end Rollouts

namespace Service

open Rollouts (Ages Commences Served groupSequence)

variable {settings : Settings} {started : Nat → Prop} {h : History} {c : Call} {s' : Store}

/-- Every deed makes no deployment for a group, or it launches one. -/
theorem Deed.commences (deed : Deed settings h c s') (coherent : Coherent started h.present)
    (served : Served h.present) :
    Inherits h.present s' ∨ ∃ r g, Commences r g h.present s' := by
  -- What belongs to the rollouts alone deploys nothing.
  have aside (frame : Rollouts.Frame h.present s') : Inherits h.present s' :=
    .of_found fun id => by rw [frame.actions]
  cases deed with
  -- The other deeds inherit what there is, and only an evaluation can launch a group.
  | acted steps inherits => exact Or.inl inherits
  | resumed cancel subject own resumption => exact Or.inl resumption.inherits
  | planned tenant q since members total own valid same =>
    have step : Rollouts.Step h.present s' := by
      rw [same]
      exact .created h.present tenant q members total c.now
    exact Or.inl (aside step.frame)
  | started id start => exact Or.inl (aside start.frame)
  | moved r status stored moves requests =>
    have move : Inherits h.present (h.present.putRollout { r with status := status }) :=
      .of_found fun _ => rfl
    exact Or.inl (move.trans requests.inherits)
  | evaluated r stored running evaluation => exact evaluation.commences stored coherent served
  | failed id since expression fault fails failure => exact Or.inl (aside failure.frame)
  | removed r stored deleting same =>
    have step : Rollouts.Step h.present s' := by
      rw [same]
      exact .removed h.present r stored deleting
    exact Or.inl (aside step.frame)

/-- Every deed deploys only for groups that begin, and once to each member. -/
theorem Deed.served (deed : Deed settings h c s') (coherent : Coherent started h.present)
    (served : Served h.present) : Served s' := by
  have ages (id : Nat) (drawn : id < h.present.nextNumber groupSequence) :
      Ages id h.present s' := deed.ages coherent drawn
  rcases deed.commences coherent served with inherits | ⟨r, g, commences⟩
  · exact served.inherits inherits ages
  · exact served.commences commences (coherent.placed.groupDrawn commences.waits.1) ages

/-- In every state of every run, only groups that have begun have deployments. -/
theorem served_history (settings : Settings) (calls : List Call) :
    Served (history settings calls).present :=
  history_holds Rollouts.served_empty
    (fun calls _ deed => deed.served (coherent_history settings calls)) calls

/-- A deployment for a group was there before, or it is made as the group is launched. -/
theorem Deed.deploys (deed : Deed settings h c s') (coherent : Coherent started h.present)
    (served : Served h.present) {id : Nat} {b : Action} {m : Membership}
    (stored : s'.actions.get? id = some b) (serves : Serves b m) :
    (∃ a status active time, h.present.actions.get? id = some a ∧
      b = a.moved status active time) ∨
      ∃ r g, Commences r g h.present s' ∧ m.group = g.id := by
  -- A deployment that is new serves the group that commences.
  rcases deed.commences coherent served with inherits | ⟨r, g, commences⟩
  · exact Or.inl (inherits.origin stored serves)
  · by_cases here : m.group = g.id
    · exact Or.inr ⟨r, g, commences, here⟩
    · exact Or.inl (commences.manned.others stored serves here)

/-- A group changes only while its rollout runs, or is scheduled when its rollout starts. -/
theorem Deed.stirs (deed : Deed settings h c s') (coherent : Coherent started h.present)
    {id : Nat} {f g : RolloutGroup} (before : h.present.groups.get? id = some f)
    (after : s'.groups.get? id = some g) (changes : g.status ≠ f.status) :
    ∃ r, h.present.rollouts.get? f.rollout = some r ∧
      (r.status = .running ∨ r.status = .ready ∧ g.status = .scheduled) := by
  cases deed.group_origin coherent after with
  -- A group that is found as it was has not changed.
  | kept same =>
    rw [before] at same
    exact absurd (by rw [Option.some.inj same]) changes
  | planted absent =>
    rw [before] at absent
    cases absent
  | scheduled r f' stored ready found same =>
    have equal : f' = f := Option.some.inj (found.symm.trans before)
    subst equal
    exact ⟨r, stored, Or.inr ⟨ready, by rw [same]⟩⟩
  | evaluated r stored running evaluation =>
    -- Groups of other rollouts do not change.
    by_cases here : f.rollout = r.id
    · rw [here]
      exact ⟨r, stored, Or.inl running⟩
    · rw [(evaluation.conducts coherent).spared before here] at after
      exact absurd (by rw [Option.some.inj after]) changes

/-- A group starts or ends only while its rollout runs. -/
theorem Deed.progress (deed : Deed settings h c s') (coherent : Coherent started h.present)
    {id : Nat} {f g : RolloutGroup} (before : h.present.groups.get? id = some f)
    (after : s'.groups.get? id = some g) (changes : g.status ≠ f.status)
    (progress : g.status = .running ∨ g.status.isSettled = true) :
    ∃ r, h.present.rollouts.get? f.rollout = some r ∧ r.status = .running := by
  -- A group that is scheduled has made no progress yet.
  obtain ⟨r, stored, running | ⟨-, scheduled⟩⟩ := deed.stirs coherent before after changes
  · exact ⟨r, stored, running⟩
  · rw [scheduled] at progress
    simp [GroupStatus.isSettled] at progress

/-- A group is stored and runs. -/
def GroupRuns (s : Store) (group : Nat) : Prop :=
  ∃ g, s.groups.get? group = some g ∧ g.status = .running

instance (s : Store) (group : Nat) : Decidable (GroupRuns s group) :=
  decidable_of_iff ((s.groups.get? group).any fun g => g.status == .running) (by
    simp only [Option.any_eq_true, GroupRuns, beq_iff_eq])

/-- A group does not run before the last call of a run, and runs after it. -/
def Enters (settings : Settings) (calls : List Call) (c : Call) (group : Nat) : Prop :=
  ¬ GroupRuns (history settings calls).present group ∧
    GroupRuns (history settings (calls ++ [c])).present group

instance (settings : Settings) (calls : List Call) (c : Call) (group : Nat) :
    Decidable (Enters settings calls c group) :=
  inferInstanceAs (Decidable (_ ∧ _))

/-- What holds of groups in all runs, whatever calls come between those of a scheduler. -/
structure GroupsStartOnce (settings : Settings) : Prop where
  once : ∀ {calls : List Call} {c : Call} {more : List Call} {d : Call} {group : Nat},
    Enters settings calls c group → ¬ Enters settings (calls ++ c :: more) d group
  /-- A deployment for a group is made by the call that starts the group, and for a member. -/
  created : ∀ {calls : List Call} {c : Call} {id : Nat} {a : Action} {m : Membership},
    (∀ b, (history settings calls).present.actions.get? id = some b → ¬ Serves b m) →
    (history settings (calls ++ [c])).present.actions.get? id = some a → Serves a m →
    Enters settings calls c m.group ∧
      a.controller ∈ (history settings calls).present.membersOf m.group ∧
      (∃ g, (history settings calls).present.groups.get? m.group = some g ∧
        g.rollout = m.rollout) ∧
      ∃ r, (history settings calls).present.rollouts.get? m.rollout = some r ∧ r.tenant = a.tenant
  single : ∀ {calls : List Call} {id other : Nat} {a b : Action} {m n : Membership},
    (history settings calls).present.actions.get? id = some a → Serves a m →
    (history settings calls).present.actions.get? other = some b → Serves b n →
    m.group = n.group → a.controller = b.controller → id = other
  /-- A group starts or ends only where its rollout runs before the call. -/
  idle : ∀ {calls : List Call} {c : Call} {id : Nat} {f g : RolloutGroup},
    (history settings calls).present.groups.get? id = some f →
    (history settings (calls ++ [c])).present.groups.get? id = some g → g.status ≠ f.status →
    (g.status = .running ∨ g.status.isSettled = true) →
    ∃ r, (history settings calls).present.rollouts.get? f.rollout = some r ∧ r.status = .running

/-- Nothing that has run before starts again. -/
theorem not_enters_again {calls more : List Call} {d : Call} {group : Nat}
    (runs : GroupRuns (history settings calls).present group) :
    ¬ Enters settings (calls ++ more) d group := by
  rintro ⟨rests, f, after, running⟩
  obtain ⟨g, found, first⟩ := runs
  have placed := (coherent_history settings calls).placed
  have ages := history_ages settings calls more (placed.groupDrawn found)
  -- The group can have come no further than to run when it enters its run.
  have drawn := Nat.lt_of_lt_of_le (placed.groupDrawn found) ages.next
  obtain ⟨b, between, -, late⟩ := (history_ages settings (calls ++ more) [d] drawn).before after
  obtain ⟨a, before, -, early⟩ := ages.before between
  rw [found] at before
  rw [← Option.some.inj before, first] at early
  rw [running] at late
  exact rests ⟨b, between, GroupStatus.rank_eq_running.mp (Nat.le_antisymm late early)⟩

/-- In every run, each group starts once, and is deployed to its members in that call alone. -/
theorem groups_start_once (settings : Settings) : GroupsStartOnce settings where
  -- A group that has run has grown too old to enter its run a second time.
  once := by
    intro calls c more d group enters
    have again : ¬ Enters settings (calls ++ [c] ++ more) d group := not_enters_again enters.2
    rwa [List.append_assoc, List.singleton_append] at again
  created := by
    intro calls c id a m new stored serves
    have coherent := coherent_history settings calls
    rw [history_concat] at stored
    have deed : Deed settings (history settings calls) c _ := c.deed _ coherent
    rcases deed.commences coherent (served_history settings calls) with
      inherits | ⟨r, g, commences⟩
    · obtain ⟨b, _, _, _, before, rfl⟩ := inherits.origin stored serves
      exact absurd ⟨serves.deploys, serves.member⟩ (new b before)
    · by_cases here : m.group = g.id
      · obtain ⟨rollout, owner, member⟩ := commences.manned.own stored serves here
        obtain ⟨known, found, tenant⟩ := commences.known
        obtain ⟨waiting, low⟩ := commences.waits
        rw [here, rollout]
        -- What waits does not run yet.
        have rests : ¬ GroupRuns (history settings calls).present g.id := by
          rintro ⟨f, before, running⟩
          rw [Option.some.inj (waiting.symm.trans before), running] at low
          exact absurd low (by decide)
        refine ⟨⟨rests, ?_⟩, member, ⟨g, waiting, commences.own⟩, known, found,
          tenant.trans owner.symm⟩
        rw [history_concat]
        exact commences.runs
      · obtain ⟨b, _, _, _, before, rfl⟩ := commences.manned.others stored serves here
        exact absurd ⟨serves.deploys, serves.member⟩ (new b before)
  -- The group of a deployment and its controller name it among all others.
  single := by
    intro calls id other a b m n storedA servesA storedB servesB
    exact (served_history settings calls).single storedA servesA storedB servesB
  idle := by
    intro calls c id f g before after changes progress
    have coherent := coherent_history settings calls
    rw [history_concat] at after
    exact (c.deed _ coherent).progress coherent before after changes progress

set_option maxRecDepth 10000 in
/-- The evaluation of a rollout starts its first group, which a second one does not do again. -/
theorem groups_start_once_launch :
    Enters .standard launch.dropLast ⟨.epoch, .evaluate 1⟩ 1 ∧
      ¬ Enters .standard launch ⟨.epoch, .evaluate 1⟩ 1 := by
  have enters : Enters .standard launch.dropLast ⟨.epoch, .evaluate 1⟩ 1 := by decide +kernel
  have never : ∀ more d, ¬ Enters .standard (launch ++ more) d 1 := fun more d =>
    (groups_start_once .standard).once enters
  exact ⟨enters, never [] ⟨.epoch, .evaluate 1⟩⟩

end Service

end DeviceUpdate
