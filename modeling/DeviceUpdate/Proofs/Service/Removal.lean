import DeviceUpdate.Proofs.Deployment.Registration
import DeviceUpdate.Proofs.Rollout.Membership
import DeviceUpdate.Proofs.Service.Lifecycle
import DeviceUpdate.Proofs.Service.Once
import DeviceUpdate.Proofs.Service.Persistence

/-! What removed rollouts leave behind: nothing, unless their actions are written once more. -/

namespace DeviceUpdate

open Deployments (Names Registrations Sponsored)
open Rollouts (groupSequence)

namespace Rollouts

/-- Rollouts, groups, places and members tell nothing of a rollout or of its groups. -/
structure Erased (gone : Nat) (groups : List Nat) (s : Store) : Prop where
  rollout : ∀ {id : Nat} {r : Rollout}, s.rollouts.get? id = some r → id ≠ gone ∧ r.id ≠ gone
  group : ∀ {id : Nat} {g : RolloutGroup}, s.groups.get? id = some g →
    id ∉ groups ∧ g.id ∉ groups ∧ g.rollout ≠ gone ∧ ∀ parent, g.parent = some parent →
      parent ∉ groups
  place : ∀ {rollout position id : Nat}, s.groupPositions.get? (rollout, position) = some id →
    rollout ≠ gone ∧ id ∉ groups
  member : ∀ {id index : Nat} {name : String}, s.members.get? (id, index) = some name →
    id ∉ groups

/-- Every list of actions is that of a stored group. -/
def Anchored (s : Store) : Prop :=
  ∀ ⦃group id : Nat⦄, s.groupActions.contains (group, id) = true →
    ∃ g, s.groups.get? group = some g

variable {s : Store} {rollout group id : Nat}

/-- Nothing tells of groups that are not stored, nor of a rollout that is not. -/
theorem Placed.erased (placed : Placed s) (peopled : Peopled s)
    (gone : s.rollouts.get? rollout = none) {groups : List Nat}
    (removed : ∀ id ∈ groups, s.groups.get? id = none) : Erased rollout groups s := by
  -- A stored group is none of those removed.
  have kept {id : Nat} {g : RolloutGroup} (stored : s.groups.get? id = some g) : id ∉ groups :=
    fun member => by
      rw [removed id member] at stored
      cases stored
  have placedAt {of position id : Nat} (here : s.groupPositions.get? (of, position) = some id) :
      of ≠ rollout ∧ id ∉ groups := by
    constructor
    · rintro rfl
      rw [placed.position_absent gone] at here
      cases here
    · obtain ⟨g, stored, -⟩ := placed.placed here
      exact kept stored
  constructor
  -- A rollout that is stored is not the one that is gone.
  case rollout =>
    intro id r stored
    have other : id ≠ rollout := by
      rintro rfl
      rw [gone] at stored
      cases stored
    exact ⟨other, by rw [placed.own stored]; exact other⟩
  case group =>
    intro id g stored
    have number := placed.groupOwn stored
    rw [← number] at stored
    refine ⟨by rw [← number]; exact kept stored, kept stored, ?_, fun parent named => ?_⟩
    · exact (placedAt (placed.place stored)).1
    -- The parent of a group stands at the place before it.
    · rw [placed.parent stored] at named
      split at named
      · cases named
      · exact (placedAt named).2
  case place => exact placedAt
  case member =>
    -- A member is one of a stored group.
    intro id index name found
    obtain ⟨g, stored, -⟩ := peopled.mp (Table.contains_iff.mpr ⟨name, found⟩)
    exact kept stored

/-- The lists of the removed groups, and no others, are gone. -/
theorem listed_removeGroups_iff {groups : List RolloutGroup} :
    (groups.foldl (Store.removeGroup rollout) s).groupActions.contains (group, id) = true ↔
      s.groupActions.contains (group, id) = true ∧ ¬ ∃ g ∈ groups, g.id = group := by
  -- By induction on the groups: each removal filters the rows of its own group.
  induction groups generalizing s with
  | nil => simp
  | cons g rest ih =>
    have filtered : (s.removeGroup rollout g).groupActions.get? (group, id) =
        (s.groupActions.get? (group, id)).filter fun _ => group != g.id :=
      Table.get?_filter s.groupActions _ (group, id)
    rw [List.foldl_cons, ih, Table.contains_iff, Table.contains_iff, filtered]
    cases s.groupActions.get? (group, id) with
    | none => simp
    | some row =>
      by_cases here : g.id = group
      · simp [here]
      · simp [here, Ne.symm here]

/-- The list of actions of a group goes with its rollout. -/
theorem Placed.listed_removeRollout (placed : Placed s) :
    (s.removeRollout rollout).2.groupActions.contains (group, id) = true ↔
      s.groupActions.contains (group, id) = true ∧
        ¬ ∃ g, s.groups.get? group = some g ∧ g.rollout = rollout := by
  rw [← placed.exists_mem_groupsOf]
  simp only [Store.removeRollout]
  exact listed_removeGroups_iff

end Rollouts

namespace Service

open Rollouts (Anchored Erased)

section Calls

variable {settings : Settings} {started : Nat → Prop} {h : History} {c : Call} {s s' : Store}

/-- What a call does to actions, to the groups they belong to, and to the lists of these. -/
inductive Marks (s s' : Store) : Prop
  | written (registrations : Registrations s s')
      (groups : ∀ id, (∃ g, s'.groups.get? id = some g) ↔ ∃ g, s.groups.get? id = some g)
  | planted (actions : s'.actions = s.actions) (log : s'.log = s.log)
      (listed : s'.groupActions = s.groupActions)
      -- New groups take numbers that have not been drawn yet.
      (groups : ∀ id, id < s.nextNumber groupSequence → s'.groups.get? id = s.groups.get? id)
  | removed (rollout : Nat) (same : s' = (s.removeRollout rollout).2)

/-- Single changes register what they write. -/
theorem accrues_registrations (settings : Settings) : Accrues settings Registrations where
  refl := .refl
  trans := .trans
  step step indexed := step.registrations indexed
  resumption resumption := resumption.registrations
  stands {s _} stands :=
    (Registrations.refl s).aside stands.frame.actions stands.frame.log stands.groupActions

/-- Every deed writes actions, plants new groups or removes old ones. -/
theorem Deed.marks (deed : Deed settings h c s') (coherent : Coherent started h.present) :
    Marks h.present s' := by
  -- Registrations and members accrue; otherwise a rollout is planted or removed.
  rcases deed.accrues coherent ((accrues_registrations settings).and (accrues_members settings))
    with ⟨registrations, -, groups⟩ | ⟨tenant, q, since, members, total, -, same⟩ | ⟨r, -, same⟩
  -- A group is stored exactly if it has an outline, and the outlines stay the same.
  · refine .written registrations fun id => ?_
    have stored (t : Store) : (∃ g, t.groups.get? id = some g) ↔
        ((t.groups.get? id).map (·.outline)).isSome = true := by
      rw [Option.isSome_map, Option.isSome_iff_exists]
    rw [stored, stored, groups]
  · have frame := (Rollouts.Step.created h.present tenant q members total c.now).frame
    refine .planted ?_ ?_ ?_ fun id drawn => ?_
    · rw [same, frame.actions]
    · rw [same, frame.log]
    · rw [same, Store.plant_groupActions]
    · rw [same, Store.group_plant_of_old (Or.inl drawn)]
  · exact .removed r.id same

/-- A call that writes an action leaves the groups that are stored. -/
theorem Marks.groups_of_grown (marks : Marks s s') {id group : Nat}
    (grown : s.logOf id ≠ s'.logOf id) (absent : s.groups.get? group = none) :
    s'.groups.get? group = none := by
  -- A log can only have grown by a registration, and these make no group.
  cases marks with
  | written registrations groups =>
    rw [Option.eq_none_iff_forall_ne_some]
    intro g found
    obtain ⟨f, stored⟩ := (groups group).mp ⟨g, found⟩
    rw [absent] at stored
    cases stored
  | planted actions log =>
    -- Creating a rollout writes to no log.
    exact absurd (by simp only [Store.logOf, log]) grown
  | removed rollout same =>
    refine absurd ?_ grown
    rw [same]
    simp only [Store.removeRollout, Store.logOf]
    rw [Store.foldl_removeGroup_frame]

/-- What is stored on behalf of a group leads back to a deployment, whatever a call does. -/
theorem Marks.sponsored (marks : Marks s s') (sponsored : Sponsored s) : Sponsored s' := by
  -- Registrations sponsor what they write, and the other two leave all actions as they are.
  cases marks with
  | written registrations => exact sponsored.registrations registrations
  | planted actions =>
    intro id a m
    rw [actions]
    exact fun stored => sponsored stored
  | removed rollout same =>
    rw [same]
    intro id a m
    simp only [Store.removeRollout]
    rw [Store.foldl_removeGroup_frame]
    exact fun stored => sponsored stored

end Calls

section Runs

variable (settings : Settings)

/-- In every state of every run, what belongs to groups leads back to their deployments. -/
theorem sponsored_history (calls : List Call) : Sponsored (history settings calls).present :=
  history_holds Deployments.sponsored_empty
    (fun calls _ deed => (deed.marks (coherent_history settings calls)).sponsored) calls

/-- What belongs to a group belongs to one whose number has been drawn. -/
theorem names_drawn (calls : List Call) {group id : Nat} {a : Action}
    (stored : (history settings calls).present.actions.get? id = some a)
    (names : Names group a) : group < (history settings calls).present.nextNumber groupSequence := by
  obtain ⟨m, member, rfl⟩ := names
  obtain ⟨other, b, found, serves⟩ := sponsored_history settings calls stored member
  exact (served_history settings calls).drawn found serves

/-- A call writes an action that belongs to a group which is not stored any more. -/
structure Revisits (h : History) (c : Call) (group id : Nat) : Prop where
  absent : h.present.groups.get? group = none
  written : h.present.logOf id ≠ (h.next settings c).present.logOf id
  names : ∃ a, (h.next settings c).present.actions.get? id = some a ∧ Names group a

variable {settings} in
/-- However the run goes on, the group of such an action does not come back. -/
theorem Revisits.gone {calls more : List Call} {c : Call} {group id : Nat}
    (revisits : Revisits settings (history settings calls) c group id)
    (later : calls ++ [c] <+: more) :
    (history settings more).present.groups.get? group = none := by
  obtain ⟨rest, rfl⟩ := later
  have deed : Deed settings (history settings calls) c
      ((history settings calls).next settings c).present :=
    c.deed _ (coherent_history settings calls)
  -- The group was absent when the log grew, and so it was after the call.
  have absent : (history settings (calls ++ [c])).present.groups.get? group = none := by
    rw [history_concat]
    exact (deed.marks (coherent_history settings calls)).groups_of_grown revisits.written
      revisits.absent
  obtain ⟨a, stored, names⟩ := revisits.names
  rw [← history_concat] at stored
  -- The number of the group has been drawn, so no other group takes it.
  have ages := history_ages settings (calls ++ [c]) rest
    (names_drawn settings (calls ++ [c]) stored names)
  rw [Option.eq_none_iff_forall_ne_some]
  intro g found
  obtain ⟨f, before, -⟩ := ages.before found
  rw [absent] at before
  cases before

variable {settings} in
/-- What belongs to a group still does so after any further calls. -/
theorem names_later {calls more : List Call} {group id : Nat} {a : Action}
    (stored : (history settings calls).present.actions.get? id = some a) (names : Names group a)
    (later : calls <+: more) :
    ∃ b, (history settings more).present.actions.get? id = some b ∧ Names group b := by
  obtain ⟨rest, rfl⟩ := later
  obtain ⟨status, active, now, kept⟩ := (persists_history settings calls rest).action stored
  exact ⟨_, kept, names⟩

/-- Some call of a run has written the action of a group that was not stored any more. -/
def Revisited (calls : List Call) (group id : Nat) : Prop :=
  ∃ before c, before ++ [c] <+: calls ∧ Revisits settings (history settings before) c group id

/-- A call more revisits what it revisits itself, and what the calls before it have. -/
theorem revisited_concat (calls : List Call) (c : Call) (group id : Nat) :
    Revisited settings (calls ++ [c]) group id ↔
      Revisited settings calls group id ∨ Revisits settings (history settings calls) c group id := by
  -- The last prefix is either the whole list or a prefix of the calls before.
  constructor
  · rintro ⟨before, d, initial, revisits⟩
    rcases List.prefix_concat_iff.mp initial with same | earlier
    · obtain ⟨rfl, last⟩ := List.append_inj' same rfl
      obtain rfl := List.singleton_inj.mp last
      exact Or.inr revisits
    · exact Or.inl ⟨before, d, earlier, revisits⟩
  · rintro (⟨before, d, initial, revisits⟩ | revisits)
    · exact ⟨before, d, initial.trans (List.prefix_append calls [c]), revisits⟩
    · exact ⟨calls, c, List.prefix_rfl, revisits⟩

/-- A call that writes no action revisits none. -/
theorem not_revisits {calls : List Call} {c : Call} {group id : Nat}
    (same : (history settings (calls ++ [c])).present.log =
      (history settings calls).present.log) :
    ¬ Revisits settings (history settings calls) c group id := by
  intro revisits
  refine revisits.written ?_
  rw [← history_concat]
  simp only [Store.logOf, same]

/-- After a run, an action is listed for the group that it belongs to, if the group is stored or the
action has been revisited, and not listed otherwise. -/
def Lists (calls : List Call) (group id : Nat) : Prop :=
  (history settings calls).present.groupActions.contains (group, id) = true ↔
    (∃ a, (history settings calls).present.actions.get? id = some a ∧ Names group a) ∧
      ((∃ g, (history settings calls).present.groups.get? group = some g) ∨
        Revisited settings calls group id)

section Calls

variable {settings} {calls : List Call} {c : Call} {group id : Nat}

/-- What a call writes is listed from then on, whether its group is still there or not. -/
theorem Lists.written (lists : Lists settings calls group id)
    (registrations : Registrations (history settings calls).present
      (history settings (calls ++ [c])).present)
    (groups : (∃ g, (history settings (calls ++ [c])).present.groups.get? group = some g) ↔
      ∃ g, (history settings calls).present.groups.get? group = some g) :
    Lists settings (calls ++ [c]) group id := by
  have later : calls <+: calls ++ [c] := List.prefix_append calls [c]
  unfold Lists at lists ⊢
  rw [registrations.listed, lists, revisited_concat]
  constructor
  · rintro (⟨⟨a, stored, names⟩, there | revisited⟩ | ⟨grown, a, stored, names⟩)
    -- What was listed before belongs to its group still.
    · exact ⟨names_later stored names later, Or.inl (groups.mpr there)⟩
    · exact ⟨names_later stored names later, Or.inr (Or.inl revisited)⟩
    -- What is written now is revisited, unless its group is there.
    · refine ⟨⟨a, stored, names⟩, ?_⟩
      cases there : (history settings calls).present.groups.get? group with
      | some g => exact Or.inl (groups.mpr ⟨g, there⟩)
      | none =>
        rw [history_concat] at grown stored
        exact Or.inr (Or.inr ⟨there, grown, a, stored, names⟩)
  · rintro ⟨⟨a, stored, names⟩, lingers⟩
    by_cases grown : (history settings calls).present.logOf id =
        (history settings (calls ++ [c])).present.logOf id
    -- What is not written now was stored, and is listed as it was.
    · rw [registrations.unwritten grown] at stored
      refine Or.inl ⟨⟨a, stored, names⟩, ?_⟩
      rcases lingers with there | revisited | revisits
      · exact Or.inl (groups.mp there)
      · exact Or.inr revisited
      · rw [history_concat] at grown
        exact absurd grown revisits.written
    · exact Or.inr ⟨grown, a, stored, names⟩

/-- A rollout that is planted changes no list: nothing belongs to its groups yet. -/
theorem Lists.planted (lists : Lists settings calls group id)
    (actions : (history settings (calls ++ [c])).present.actions =
      (history settings calls).present.actions)
    (log : (history settings (calls ++ [c])).present.log = (history settings calls).present.log)
    (listed : (history settings (calls ++ [c])).present.groupActions =
      (history settings calls).present.groupActions)
    (groups : ∀ id, id < (history settings calls).present.nextNumber groupSequence →
      (history settings (calls ++ [c])).present.groups.get? id =
        (history settings calls).present.groups.get? id) :
    Lists settings (calls ++ [c]) group id := by
  unfold Lists at lists ⊢
  rw [listed, lists, actions, revisited_concat]
  simp only [not_revisits settings log, or_false]
  -- A group that an action belongs to has drawn its number, so the new ones are others.
  refine and_congr_right ?_
  rintro ⟨a, stored, names⟩
  rw [groups group (names_drawn settings calls stored names)]

/-- A rollout takes with it the lists of its groups, of which none has been revisited. -/
theorem Lists.removed (lists : Lists settings calls group id) (rollout : Nat)
    (same : (history settings (calls ++ [c])).present =
      ((history settings calls).present.removeRollout rollout).2) :
    Lists settings (calls ++ [c]) group id := by
  -- Removing a rollout takes the rows of its groups, and neither actions nor their log.
  have placed := (coherent_history settings calls).placed
  have frame : (history settings (calls ++ [c])).present.actions =
        (history settings calls).present.actions ∧
      (history settings (calls ++ [c])).present.log = (history settings calls).present.log := by
    rw [same]
    simp only [Store.removeRollout]
    rw [Store.foldl_removeGroup_frame]
    exact ⟨rfl, rfl⟩
  unfold Lists at lists ⊢
  rw [frame.1, revisited_concat]
  simp only [not_revisits settings frame.2, or_false]
  rw [same, placed.listed_removeRollout, lists]
  simp only [placed.group_removeRollout]
  -- A listed action is one of a group that is kept, or of one that was revisited before.
  constructor
  · rintro ⟨⟨stored, ⟨g, there⟩ | revisited⟩, kept⟩
    · exact ⟨stored, Or.inl ⟨g, there, fun own => kept ⟨g, there, own⟩⟩⟩
    · exact ⟨stored, Or.inr revisited⟩
  · rintro ⟨stored, ⟨g, there, other⟩ | revisited⟩
    · refine ⟨⟨stored, Or.inl ⟨g, there⟩⟩, ?_⟩
      rintro ⟨f, found, own⟩
      exact other (Option.some.inj (there.symm.trans found) ▸ own)
    -- A group that has been revisited is not there to be removed again.
    · refine ⟨⟨stored, Or.inr revisited⟩, ?_⟩
      obtain ⟨before, d, initial, revisits⟩ := revisited
      rintro ⟨f, found, -⟩
      rw [revisits.gone initial] at found
      cases found

end Calls

/-- An action is listed for its group while the group is stored, and after it is revisited. -/
theorem listed_history (calls : List Call) {group id : Nat} :
    (history settings calls).present.groupActions.contains (group, id) = true ↔
      (∃ a, (history settings calls).present.actions.get? id = some a ∧ Names group a) ∧
        ((∃ g, (history settings calls).present.groups.get? group = some g) ∨
          Revisited settings calls group id) := by
  change Lists settings calls group id
  induction calls using List.reverseRecOn with
  | nil =>
    -- At the start there is neither an action nor a list.
    simp [Lists, Store.empty, Table.contains]
  | append_singleton calls c ih =>
    have coherent := coherent_history settings calls
    have deed : Deed settings (history settings calls) c
        ((history settings calls).next settings c).present := c.deed _ coherent
    have marks : Marks (history settings calls).present
        (history settings (calls ++ [c])).present := by
      rw [history_concat]
      exact deed.marks coherent
    cases marks with
    | written registrations groups => exact ih.written registrations (groups group)
    | planted actions log listed groups => exact ih.planted actions log listed groups
    | removed rollout same => exact ih.removed rollout same

/-- After a run, lists of actions belong to stored groups exactly if none has been revisited. -/
theorem anchored_iff (calls : List Call) :
    Anchored (history settings calls).present ↔
      ∀ group id, ¬ Revisited settings calls group id := by
  constructor
  · rintro anchored group id ⟨before, c, initial, revisits⟩
    obtain ⟨a, stored, names⟩ := revisits.names
    rw [← history_concat] at stored
    -- The action that was written then is listed ever since.
    have listed := (listed_history settings calls).mpr
      ⟨names_later stored names initial, Or.inr ⟨before, c, initial, revisits⟩⟩
    obtain ⟨g, found⟩ := anchored listed
    rw [revisits.gone initial] at found
    cases found
  -- The converse: whatever is listed is listed for a stored group, or was revisited.
  · intro clean group id listed
    exact ((listed_history settings calls).mp listed).2.resolve_right (clean group id)

/-- A group of a rollout that is gone is gone, too. -/
theorem group_gone {calls more : List Call} {id : Nat} {g : RolloutGroup}
    (member : g ∈ (history settings calls).present.groupsOf id)
    (gone : (history settings (calls ++ more)).present.rollouts.get? id = none) :
    (history settings (calls ++ more)).present.groups.get? g.id = none := by
  have placed := (coherent_history settings calls).placed
  have later := (coherent_history settings (calls ++ more)).placed
  -- Assume that the group is still there.
  obtain ⟨known, own⟩ := placed.mem_groupsOf.mp member
  rw [Option.eq_none_iff_forall_ne_some]
  intro f found
  -- A group that is still stored is one of the same rollout, which would be stored as well.
  obtain ⟨b, before, plan, -⟩ :=
    (history_ages settings calls more (placed.groupDrawn known)).before found
  have same : b = g := Option.some.inj (before.symm.trans known)
  have number := later.groupOwn found
  obtain ⟨r, present, -⟩ := later.within (g := f) (by rw [number]; exact found)
  rw [plan, same] at present
  rw [show ({ g with status := f.status } : RolloutGroup).rollout = id from own, gone] at present
  cases present

/-- However a run goes on, nothing but lists of actions tells of a rollout that has been removed. -/
theorem erased_history {before between : List Call} (after : List Call) {id : Nat} {r : Rollout}
    (stored : (history settings before).present.rollouts.get? id = some r)
    (gone : (history settings (before ++ between)).present.rollouts.get? id = none) :
    Erased id (((history settings before).present.groupsOf id).map (·.id))
      (history settings (before ++ between ++ after)).present := by
  -- The rollout is gone for good, its number being drawn, and each of its groups with it.
  have placed := (coherent_history settings (before ++ between ++ after)).placed
  have drawn := (coherent_history settings before).placed.drawn stored
  have absent := gone_history settings (before ++ between) after
    (Nat.lt_of_lt_of_le drawn (next_history settings before between)) gone
  refine placed.erased (peopled_history settings _) absent fun group member => ?_
  obtain ⟨g, listed, rfl⟩ := List.mem_map.mp member
  rw [List.append_assoc] at absent ⊢
  exact group_gone settings listed absent

/-- What a run has left of the rollouts that have been removed in it. -/
structure Cleared (calls : List Call) : Prop where
  /-- No table but the lists of actions tells of a removed rollout or of its groups ever again. -/
  erased : ∀ {before between after : List Call} {id : Nat} {r : Rollout},
    before ++ between ++ after = calls →
    (history settings before).present.rollouts.get? id = some r →
    (history settings (before ++ between)).present.rollouts.get? id = none →
    Erased id (((history settings before).present.groupsOf id).map (·.id))
      (history settings calls).present
  /-- A group that is gone has an action on its list once that is written again. -/
  listed : ∀ {group : Nat} (id : Nat),
    (history settings calls).present.groups.get? group = none →
    ((history settings calls).present.groupActions.contains (group, id) = true ↔
      Revisited settings calls group id)
  anchored : Anchored (history settings calls).present ↔
    ∀ group id, ¬ Revisited settings calls group id

/-- Removed rollouts leave nothing behind but the lists of those groups that are revisited. -/
theorem removal_cleared (calls : List Call) : Cleared settings calls where
  erased := by
    rintro before between after id r rfl stored gone
    exact erased_history settings after stored gone
  listed := by
    intro group id gone
    rw [listed_history]
    constructor
    -- A group that is gone is listed for nothing but what was written after its end.
    · rintro ⟨-, ⟨f, found⟩ | revisited⟩
      · rw [gone] at found
        cases found
      · exact revisited
    -- What was written then belongs to the group ever since.
    · rintro ⟨before, c, initial, revisits⟩
      obtain ⟨a, stored, names⟩ := revisits.names
      rw [← history_concat] at stored
      exact ⟨names_later stored names initial, Or.inr ⟨before, c, initial, revisits⟩⟩
  anchored := anchored_iff settings calls

end Runs

/-- A run in which a rollout is removed, and its device reports on its deployment after that. -/
def afterthought : List Call :=
  [⟨.epoch, .createSet "t" "a" "1" []⟩,
   ⟨.epoch, .createTarget "t" "d" .empty⟩,
   ⟨.epoch, .createRollout "t" ⟨"r", "*", 1, .forced, none, none, none, some 1, [], ⟨"100"⟩,
     .nextGroup, none, none⟩ 0⟩,
   ⟨.epoch, .startRollout "t" 1⟩,
   ⟨.epoch, .evaluate 1⟩,
   ⟨.epoch, .stopRollout "t" 1⟩,
   ⟨.epoch, .markRollout "t" 1⟩,
   ⟨.epoch, .purge 1⟩,
   ⟨.epoch, .report "t" "d" 1 ⟨.closed, .success, none, none, []⟩ false⟩]

set_option maxRecDepth 10000 in
/-- A group that is gone can have a list of actions again. -/
theorem afterthought_not_anchored :
    ((history .standard (afterthought.take 7)).present.rollouts.get? 1).isSome = true ∧
      (history .standard (afterthought.take 8)).present.rollouts.get? 1 = none ∧
      ¬ Anchored (history .standard afterthought).present := by
  refine ⟨by decide +kernel, by decide +kernel, fun anchored => ?_⟩
  -- The row is there although the group is gone.
  have listed : (history .standard afterthought).present.groupActions.contains (1, 1) = true := by
    decide +kernel
  obtain ⟨g, found⟩ := anchored listed
  have gone : (history .standard afterthought).present.groups.get? 1 = none := by
    decide +kernel
  rw [gone] at found
  cases found

end Service

end DeviceUpdate
