import DeviceUpdate.Proofs.Deployment.Audit
import DeviceUpdate.Proofs.Rollout.Membership
import DeviceUpdate.Proofs.Service.Ownership
import DeviceUpdate.Proofs.Service.Persistence

/-! Members of groups that have begun: the set of their rollout has been deployed to each. -/

namespace DeviceUpdate

namespace Deployments

/-- No target is lost. -/
def Retains (s s' : Store) : Prop :=
  ∀ ⦃key : String⦄, s.targets.contains key = true → s'.targets.contains key = true

/-- A set has been deployed to a target, whatever has become of it. -/
def Supplied (set : Nat) (tenant controller : String) (s : Store) : Prop :=
  ∃ id a, s.actions.get? id = some a ∧ a.targetKey = Target.keyOf tenant controller ∧
    Delivers set a

variable {settings : Settings} {s s' s'' : Store} {cancel subject : Action} {set : Nat}
  {tenant controller : String}

theorem Retains.of_eq (same : s'.targets = s.targets) : Retains s s' := by
  intro key known
  rw [same]
  exact known

theorem Retains.trans (first : Retains s s') (second : Retains s' s'') : Retains s s'' :=
  fun _ known => second (first known)

/-- A target that is stored takes no other one away. -/
theorem Retains.putTarget (retains : Retains s s') (t : Target) : Retains s (s'.putTarget t) := by
  intro key known
  obtain ⟨before, found⟩ := Table.contains_iff.mp (retains known)
  rw [Table.contains_iff, get?_putTarget]
  split
  · exact ⟨t, rfl⟩
  · exact ⟨before, found⟩

/-- No step loses a target. -/
theorem Step.retains (step : Step settings s s') : Retains s s' := by
  -- A step may replace the record of a target, but it takes no target away.
  cases step with
  | published | requested | progressed => exact .of_eq rfl
  | registered | polled | described => exact Retains.putTarget (.of_eq rfl) _
  | deployed | closed | confirmed => exact Retains.putTarget (.of_eq rfl) _
  | superseded cancel a d t f now =>
    have closed : Retains s (s.close a d.distributionSet t f now) :=
      Retains.putTarget (.of_eq rfl) _
    exact closed.trans (.of_eq rfl)

/-- What has been deployed to a target stays so. -/
theorem Supplied.persists (supplied : Supplied set tenant controller s)
    (persists : Persists s s') : Supplied set tenant controller s' := by
  obtain ⟨id, a, stored, key, delivers⟩ := supplied
  obtain ⟨status, active, now, kept⟩ := persists.action stored
  exact ⟨id, _, kept, key, delivers⟩

end Deployments

open Deployments (Delivers Indexed Persists Retains Supplied)

namespace Service

/-- Single changes lose no target. -/
theorem accrues_retains (settings : Settings) : Accrues settings Retains where
  refl _ := .of_eq rfl
  trans := .trans
  step step _ := step.retains
  resumption resumption := by
    cases resumption with | resumed now pending =>
    exact .of_eq rfl
  stands stands := .of_eq stands.frame.targets

/-- Single changes lose no action. -/
theorem accrues_persists (settings : Settings) : Accrues settings Persists where
  refl := .refl
  trans := .trans
  step step indexed := step.persists indexed
  resumption resumption := resumption.persists
  stands stands := persists_of_frame stands.frame

end Service

namespace Rollouts

variable {settings : Settings} {started : Nat → Prop} {s s' : Store} {r : Rollout}
  {group id : Nat} {now : Instant} {controller : String} {g : RolloutGroup}

section Launches

/-- What is done for a member that is known leaves it supplied with the set of the rollout. -/
theorem Enrols.supplies {own : TenantSettings} (enrols : Enrols own r group now controller s s')
    (indexed : Indexed s) (known : s.targets.contains (Target.keyOf r.tenant controller) = true) :
    Supplied r.distributionSet r.tenant controller s' := by
  cases enrols with
  -- The target is known, so it has not gone missing in the meantime.
  | gone absent =>
    rw [Store.target?] at absent
    simp [Table.contains, absent] at known
  | assigned result assigns =>
    cases assigns with
    -- A deployment of the set that is in flight does as well as a new one.
    | already a current =>
      obtain ⟨stored, key⟩ := indexed.mem_actionsOf.mp (List.mem_of_find?_eq_some current)
      have passes := List.find?_some current
      simp only [Bool.and_eq_true] at passes
      exact ⟨a.id, a, stored, key, passes.2⟩
    | new t weight cancels between valid found known free replaces =>
      refine ⟨_, _, (Store.get?_deploy _ _ _ _ _ _ _ _).trans (if_pos rfl), rfl, ?_⟩
      simp [Delivers, Deployments.newAction, Action.deployment?, AssignmentRequest.deployment,
        requestOf]

/-- A launch supplies all members that are known. -/
theorem Launch.supplies {members : List String}
    (launch : Launch (settings.tenant r.tenant) r group now members s s') (indexed : Indexed s)
    (known : ∀ name ∈ members, s.targets.contains (Target.keyOf r.tenant name) = true) :
    ∀ name ∈ members, Supplied r.distributionSet r.tenant name s' := by
  induction launch with
  -- Serving one member keeps all the other targets and what has been deployed to them.
  | nil s => simp
  | @cons controller rest s s₁ s₂ first others ih =>
    have steps : Deployments.Steps settings s s₁ := first.steps indexed
    have between : Indexed s₁ := steps.indexed indexed
    have retains : Retains s s₁ := (Service.accrues_retains settings).steps steps indexed
    have persists : Persists s₁ s₂ :=
      (Service.accrues_persists settings).steps (others.steps between) between
    intro name member
    rcases List.mem_cons.mp member with rfl | later
    -- What the first one has got is not taken away while the others are served.
    · exact (first.supplies indexed (known name List.mem_cons_self)).persists persists
    · exact ih between (fun name member => retains (known name (List.mem_cons_of_mem _ member)))
        name later

end Launches

section Covered

/-- Every member of a group that has begun is supplied with the set of its rollout. -/
def Covered (s : Store) : Prop :=
  ∀ ⦃id : Nat⦄ ⦃g : RolloutGroup⦄ ⦃r : Rollout⦄, s.groups.get? id = some g →
    2 ≤ g.status.rank → s.rollouts.get? g.rollout = some r →
    ∀ name ∈ s.membersOf id, Supplied r.distributionSet r.tenant name s

/-- All members of the groups of a rollout are known targets of its tenant. -/
def Enlisted (r : Rollout) (s : Store) : Prop :=
  ∀ ⦃id : Nat⦄ ⦃g : RolloutGroup⦄, s.groups.get? id = some g → g.rollout = r.id →
    ∀ name ∈ s.membersOf id, s.targets.contains (Target.keyOf r.tenant name) = true

/-- Nothing is stored at the start. -/
theorem covered_empty : Covered .empty := by
  intro id g r found
  simp [Store.empty] at found

/-- Members stay covered where groups, members and plans stay the same and no action is lost. -/
theorem Covered.carried (covered : Covered s) (persists : Persists s s')
    (origin : ∀ {id : Nat} {g : RolloutGroup} {r : Rollout}, s'.groups.get? id = some g →
      2 ≤ g.status.rank → s'.rollouts.get? g.rollout = some r →
      (∃ f before, s.groups.get? id = some f ∧ 2 ≤ f.status.rank ∧
        s.rollouts.get? f.rollout = some before ∧ SamePlan before r ∧
        s'.membersOf id = s.membersOf id) ∨
      ∀ name ∈ s'.membersOf id, Supplied r.distributionSet r.tenant name s') : Covered s' := by
  intro id g r found begun stored name member
  -- What was covered before goes on being so, since no deployment is ever taken away.
  rcases origin found begun stored with ⟨f, before, was, low, known, plan, same⟩ | supplied
  · rw [same] at member
    have supplied := covered was low known name member
    rw [plan]
    exact supplied.persists persists
  · exact supplied name member

/-- What changes neither rollouts nor groups leaves members covered. -/
theorem Covered.unchanged (covered : Covered s) (persists : Persists s s')
    (rollouts : s'.rollouts = s.rollouts) (groups : s'.groups = s.groups)
    (members : s'.members = s.members) : Covered s' := by
  refine covered.carried persists fun {id g r} found begun stored => Or.inl ?_
  rw [groups] at found
  rw [rollouts] at stored
  exact ⟨g, r, found, begun, stored, rfl, by rw [Store.membersOf, Store.membersOf, members]⟩

/-- Steps of targets and actions leave members covered. -/
theorem Covered.steps (covered : Covered s) (indexed : Indexed s)
    (steps : Deployments.Steps settings s s') : Covered s' :=
  covered.unchanged ((Service.accrues_persists settings).steps steps indexed)
    steps.frame.rollouts steps.frame.groups steps.frame.members

/-- A rollout may be stored with another status or another time of its last check. -/
theorem Covered.putRollout (covered : Covered s) {r' : Rollout}
    (stored : s.rollouts.get? r.id = some r) (same : r'.id = r.id) (plan : SamePlan r r') :
    Covered (s.putRollout r') := by
  refine covered.carried (.of_eq rfl rfl) fun {id g f} found begun here => Or.inl ?_
  -- Only the record of this rollout is replaced, and its plan stays.
  have put : (s.putRollout r').rollouts.get? g.rollout =
      if g.rollout = r'.id then some r' else s.rollouts.get? g.rollout :=
    Table.get?_insert s.rollouts r'.id g.rollout r'
  rw [put] at here
  split at here
  · rename_i own
    rw [← Option.some.inj here]
    exact ⟨g, r, found, begun, by rw [own, same]; exact stored, plan, rfl⟩
  · exact ⟨g, f, found, begun, here, rfl, rfl⟩

/-- A group may take another status, if it had begun before or all its members are supplied. -/
theorem Covered.putGroup (covered : Covered s) (runs : Runs s r g) (status : GroupStatus)
    (ready : 2 ≤ g.status.rank ∨
      ∀ name ∈ s.membersOf g.id, Supplied r.distributionSet r.tenant name s) :
    Covered (s.putGroup { g with status := status }) := by
  refine covered.carried (.of_eq rfl rfl) fun {id h f} found begun stored => ?_
  rw [get?_putGroup] at found
  -- The group that is written keeps its members and its rollout.
  split at found
  · rename_i here
    have own : h.rollout = r.id := by
      rw [← Option.some.inj found]
      exact runs.own
    have same : f = r := by
      rw [own] at stored
      exact Option.some.inj (stored.symm.trans runs.stored)
    subst same here
    rcases ready with before | supplied
    · exact Or.inl ⟨g, f, runs.storedGroup, before, by rw [runs.own]; exact runs.stored, rfl, rfl⟩
    · exact Or.inr supplied
  · exact Or.inl ⟨h, f, found, begun, stored, rfl, rfl⟩

/-- Changes of the record leave members covered. -/
theorem Notes.covered (notes : Notes id s s') (covered : Covered s) : Covered s' := by
  induction notes with
  | refl => exact covered
  | tail _ note ih =>
    cases note with
    | paused r stored => exact ih.putRollout stored rfl rfl
    | completed r stored => exact ih.putRollout stored rfl rfl
    | examined r now stored => exact ih.putRollout stored rfl rfl

/-- Every turn leaves members covered. -/
theorem Turn.covered (turn : Turn id s s') (peopled : Peopled s) (covered : Covered s) :
    Covered s' := by
  cases turn with
  | noted note => exact Notes.covered (Relation.ReflTransGen.single note) covered
  | settled r g status runs own active =>
    exact covered.putGroup runs status (Or.inl (by rw [active]; decide))
  -- A group that is skipped has no members to be covered.
  | skipped r g runs own waits turn empty =>
    refine covered.putGroup runs .finished (Or.inr fun name member => ?_)
    have none := peopled.length_membersOf runs.storedGroup
    rw [empty, List.length_eq_zero_iff] at none
    rw [none] at member
    cases member

theorem Turns.covered (turns : Turns id s s') (peopled : Peopled s) (covered : Covered s) :
    Covered s' := by
  induction turns with
  | refl => exact covered
  | tail before turn ih =>
    have stands := Turns.stands before
    exact turn.covered (peopled.unchanged stands.members stands.groups) ih

/-- A launch leaves members covered, those of its own group among them. -/
theorem Launches.covered (launches : Launches settings id s s') (indexed : Indexed s)
    (enlisted : ∀ {r : Rollout}, s.rollouts.get? id = some r → Enlisted r s)
    (covered : Covered s) : Covered s' := by
  -- The group is marked as running, and only then are its members served.
  cases launches with | launched r g now runs own waits turn launch =>
  have begun : Indexed (s.putGroup { g with status := .running }) :=
    indexed.putGroup _
  have steps : Deployments.Steps settings _ s' := launch.steps begun
  have served : Persists (s.putGroup { g with status := .running }) s' :=
    (Service.accrues_persists settings).steps steps begun
  have persists : Persists s s' := ⟨served.action, served.log⟩
  have members (group : Nat) : s'.membersOf group = s.membersOf group := by
    rw [Store.membersOf, Store.membersOf, steps.frame.members]
    rfl
  have known := enlisted (r := r) (by rw [← own]; exact runs.stored) runs.storedGroup runs.own
  have supplied := launch.supplies begun known
  refine covered.carried persists fun {id h f} found later stored => ?_
  rw [steps.frame.groups, get?_putGroup] at found
  rw [steps.frame.rollouts] at stored
  -- Every member of the launched group has been supplied by the launch.
  split at found
  · rename_i here
    have same : f = r := by
      rw [← Option.some.inj found, show ({ g with status := .running } : RolloutGroup).rollout =
        r.id from runs.own] at stored
      exact Option.some.inj (stored.symm.trans runs.stored)
    subst same here
    exact Or.inr fun name member => supplied name (by rw [← members]; exact member)
  · exact Or.inl ⟨h, f, found, later, stored, rfl, members id⟩

/-- An evaluation leaves members covered, if those of its rollout are known. -/
theorem Evaluation.covered (evaluation : Evaluation settings r.id s s')
    (stored : s.rollouts.get? r.id = some r) (coherent : Service.Coherent started s)
    (peopled : Peopled s) (enlisted : Enlisted r s) (covered : Covered s) : Covered s' := by
  cases evaluation with | evaluated between round notes =>
  cases round with
  -- Without a launch no group begins, so nothing new has to be covered.
  | quiet turns => exact notes.covered (turns.covered peopled covered)
  | launching before turns launches =>
    have steps : Service.Steps settings s before := turns.steps
    have stands := turns.stands
    refine notes.covered (launches.covered (steps.coherent coherent).indexed ?_
      (turns.covered peopled covered))
    -- The turns before the launch leave tenant, members and targets as they are.
    intro r' found id g listed own name member
    obtain ⟨status, check, moved, -⟩ := turns.conducts.moved stored
    have same := Option.some.inj (found.symm.trans moved)
    obtain ⟨f, was, plan⟩ := stands.outlined listed
    have rollout : f.rollout = g.rollout := by
      rw [show f.rollout = f.outline.rollout from rfl, plan]
      rfl
    have within : f.rollout = r.id := by rw [rollout, own, same]
    have tenant : r'.tenant = r.tenant := by rw [same]
    rw [Store.membersOf, stands.members] at member
    rw [stands.frame.targets, tenant]
    exact enlisted was within name member

/-- The start of a rollout begins no group. -/
theorem Start.covered (start : Start id s s') (placed : Placed s) (covered : Covered s) :
    Covered s' := by
  have continues := start.continues
  have stands := start.stands placed
  cases start with | started r stored own ready =>
  subst own
  have running : Placed (s.putRollout { r with status := .running }) :=
    placed.putRollout stored rfl rfl
  refine covered.carried (.of_eq stands.frame.actions stands.frame.log)
    fun {id g f} found begun here => Or.inl ?_
  obtain ⟨before, known, plan⟩ := continues.origin here
  rw [running.get?_scheduleGroups] at found
  obtain ⟨h, was, same⟩ := Option.map_eq_some_iff.mp found
  -- What is scheduled has not begun.
  split at same
  · rw [← same] at begun
    exact absurd begun (by simp [GroupStatus.rank])
  · subst same
    exact ⟨h, before, was, begun, known, plan, by
      rw [Store.membersOf, Store.membersOf, stands.members]⟩

/-- A rollout that is planted has no group yet that has begun. -/
theorem Covered.plant (covered : Covered s) (placed : Placed s) (tenant : String) (q : Request)
    (members : List (List String)) (total : Nat) (now : Instant) :
    Covered (s.plant tenant q members total now) := by
  have frame := (Step.created s tenant q members total now).frame
  refine covered.carried (.of_eq frame.actions frame.log) fun {id g f} found begun here => ?_
  -- The new groups have not begun, and the old ones keep their members.
  rcases placed.plant_group found with ⟨was, other⟩ | ⟨i, -, -, same⟩
  · rw [Store.rollout_plant, if_neg other] at here
    have drawn := placed.groupDrawn was
    exact Or.inl ⟨g, f, was, begun, here, rfl,
      Store.valuesUnder_congr fun j => Store.members_plant_of_old (Or.inl drawn)⟩
  · rw [same] at begun
    exact absurd begun (by simp [Store.laid, groupOf, GroupStatus.rank])

/-- The groups that are left when a rollout is removed stay covered. -/
theorem Covered.removeRollout (covered : Covered s) (placed : Placed s) (rollout : Nat) :
    Covered (s.removeRollout rollout).2 := by
  have persists : Persists s (s.removeRollout rollout).2 := by
    -- The removal leaves the actions alone.
    simp only [Store.removeRollout]
    rw [Store.foldl_removeGroup_frame]
    exact .of_eq rfl rfl
  refine covered.carried persists fun {id g f} found begun here => Or.inl ?_
  obtain ⟨was, other⟩ := placed.group_removeRollout.mp found
  rw [rollout_removeRollout, if_neg other] at here
  refine ⟨g, f, was, begun, here, rfl, Store.valuesUnder_congr fun j => ?_⟩
  rw [placed.members_removeRollout, if_neg]
  -- A group that is left has lost none of its members, for they are removed with their group only.
  rintro ⟨h, stored, own⟩
  exact other (Option.some.inj (stored.symm.trans was) ▸ own)

end Covered

end Rollouts

namespace Service

open Rollouts (Covered Enlisted Peopled)

variable {settings : Settings} {started : Nat → Prop} {h : History} {c : Call} {s' : Store}

/-- Every deed leaves members covered, if all members of groups are known. -/
theorem Deed.covered (deed : Deed settings h c s') (coherent : Coherent started h.present)
    (peopled : Peopled h.present)
    (enlisted : ∀ {r : Rollout}, h.present.rollouts.get? r.id = some r → Enlisted r h.present)
    (covered : Covered h.present) : Covered s' := by
  -- Only an evaluation can let a group begin.
  cases deed with
  | acted steps => exact covered.steps coherent.indexed steps
  | resumed cancel subject own resumption =>
    exact covered.unchanged resumption.persists resumption.frame.rollouts
      resumption.frame.groups resumption.frame.members
  | planned tenant q since members total own valid same =>
    rw [same]
    exact covered.plant coherent.placed tenant q members total c.now
  | started id start => exact start.covered coherent.placed covered
  | moved r status stored moves requests =>
    have indexed := coherent.indexed
    have steps : Deployments.Steps settings _ s' := requests.steps
    have moved : Covered (h.present.putRollout { r with status := status }) :=
      covered.putRollout stored rfl rfl
    exact moved.steps (indexed.putRollout _) steps
  | evaluated r stored running evaluation =>
    exact evaluation.covered stored coherent peopled (enlisted stored) covered
  | failed id since expression fault fails failure =>
    cases failure with | failed r stored own running =>
    have found : h.present.rollouts.get? r.id = some r := by
      rw [own]
      exact stored
    exact covered.putRollout found rfl rfl
  | removed r stored deleting same =>
    rw [same]
    exact covered.removeRollout coherent.placed r.id

end Service

end DeviceUpdate
