import DeviceUpdate.Proofs.Service.Coverage
import DeviceUpdate.Proofs.Service.Removal

/-! What the deletion of a rollout takes away: all of its own rows and none besides, whether it is
carried through at once or taken up again by a tick. -/

namespace DeviceUpdate

namespace Store

/-- Whether a group is stored that belongs to a rollout. -/
def owns (s : Store) (rollout group : Nat) : Bool :=
  (s.groups.get? group).any fun g => g.rollout == rollout

/-- The store without the rows of a rollout: its own, those of its groups and their places, and
those of their members and their actions. -/
def withoutRollout (s : Store) (rollout : Nat) : Store :=
  { s with
    rollouts := s.rollouts.erase rollout
    groups := s.groups.filter fun _ g => g.rollout != rollout
    groupPositions := s.groupPositions.filter fun place _ => place.1 != rollout
    members := s.members.filter fun member _ => !s.owns rollout member.1
    groupActions := s.groupActions.filter fun row _ => !s.owns rollout row.1 }

/-- A rollout owns a group if the group is stored with it. -/
theorem owns_iff {s : Store} {rollout group : Nat} :
    s.owns rollout group = true ↔ ∃ g, s.groups.get? group = some g ∧ g.rollout = rollout := by
  simp [owns, Option.any_eq_true]

end Store

namespace Rollouts

open Service (Coherent)

section Removal

variable {s : Store} {r : Rollout} {rollout : Nat}

/-- The removal of a rollout leaves all rows but its own. -/
theorem Placed.removeRollout_eq (placed : Placed s) (rollout : Nat) :
    s.removeRollout rollout = (s.rollouts.contains rollout, s.withoutRollout rollout) := by
  -- Table by table, the removal group by group comes to the same as the filters.
  have groups : (s.removeRollout rollout).2.groups = (s.withoutRollout rollout).groups := by
    refine Table.ext_get? fun id => Option.ext fun g => ?_
    rw [placed.group_removeRollout, Store.withoutRollout, Table.get?_filter,
      Option.filter_eq_some_iff, bne_iff_ne]
  have positions :
      (s.removeRollout rollout).2.groupPositions = (s.withoutRollout rollout).groupPositions := by
    refine Table.ext_get? fun place => ?_
    rw [placed.position_removeRollout, Store.withoutRollout, Table.get?_filter_keys]
    by_cases here : place.1 = rollout <;> simp [here]
  have members : (s.removeRollout rollout).2.members = (s.withoutRollout rollout).members := by
    refine Table.ext_get? fun (group, index) => ?_
    rw [placed.members_removeRollout, Store.withoutRollout, Table.get?_filter_keys]
    simp only [← Store.owns_iff]
    by_cases owned : s.owns rollout group = true <;> simp [owned]
  have actions :
      (s.removeRollout rollout).2.groupActions = (s.withoutRollout rollout).groupActions := by
    -- A row without a value is there or is not.
    have row (t : Table (Nat × Nat) Unit) (key : Nat × Nat) (u : Unit) :
        t.get? key = some u ↔ t.contains key = true := by
      rw [Table.contains_iff]
      exact ⟨fun found => ⟨u, found⟩, fun ⟨_, found⟩ => found⟩
    refine Table.ext_get? fun (group, id) => Option.ext fun u => ?_
    rw [row, placed.listed_removeRollout, ← row _ _ u, Store.withoutRollout,
      Table.get?_filter_keys]
    simp only [← Store.owns_iff]
    by_cases owned : s.owns rollout group = true <;> simp [owned]
  -- The other tables are not touched at all.
  have frame := Store.foldl_removeGroup_frame rollout (s.groupsOf rollout)
    { s with rollouts := s.rollouts.erase rollout }
  refine Prod.ext rfl ?_
  calc (s.removeRollout rollout).2
      = { s with
          rollouts := s.rollouts.erase rollout, groups := (s.removeRollout rollout).2.groups,
          groupPositions := (s.removeRollout rollout).2.groupPositions,
          members := (s.removeRollout rollout).2.members,
          groupActions := (s.removeRollout rollout).2.groupActions } := frame
    _ = s.withoutRollout rollout := by rw [groups, positions, members, actions]; rfl

/-- A rollout that is not stored has no rows. -/
theorem Placed.withoutRollout_absent (placed : Placed s) (absent : s.rollouts.get? rollout = none) :
    s.withoutRollout rollout = s := by
  -- Groups are stored with their rollout, so there is nothing to go through.
  have groups : s.groupsOf rollout = [] := by
    rw [List.eq_nil_iff_forall_not_mem]
    intro g listed
    obtain ⟨stored, own⟩ := placed.mem_groupsOf.mp listed
    obtain ⟨r, found, -⟩ := placed.within stored
    rw [own, absent] at found
    cases found
  -- There is no record either, so erasing it changes nothing.
  have erased : s.rollouts.erase rollout = s.rollouts := by
    refine Table.ext_get? fun id => ?_
    rw [Table.get?_erase]
    split
    · rename_i here
      rw [here, absent]
    · rfl
  calc s.withoutRollout rollout
      = (s.removeRollout rollout).2 := (congrArg Prod.snd (placed.removeRollout_eq rollout)).symm
    _ = { s with rollouts := s.rollouts.erase rollout } := by
      simp only [Store.removeRollout, groups, List.foldl_nil]
    _ = s := by rw [erased]

/-- What is removed does not depend on what has been written of the rollout itself. -/
theorem withoutRollout_putRollout (s : Store) (r : Rollout) :
    (s.putRollout r).withoutRollout r.id = s.withoutRollout r.id := by
  have erased : (s.rollouts.insert r.id r).erase r.id = s.rollouts.erase r.id := by
    refine Table.ext_get? fun id => ?_
    rw [Table.get?_erase, Table.get?_erase, Table.get?_insert]
    split <;> rfl
  simp only [Store.withoutRollout, Store.putRollout, erased]
  rfl

end Removal

section Transactions

variable {s : Store} {r : Rollout} {tenant : String} {id : Nat}

/-- A rollout that is found for the tenant is what the rest of a transaction is about. -/
theorem find_bind_apply {β : Type} (found : s.rollout? tenant id = some r)
    (f : Rollout → Transaction Error β) : (find tenant id >>= f) s = f r s := by
  simp only [find, bind_assoc, Transaction.read_bind_apply, found, Transaction.orElse,
    Transaction.pure_bind_apply]

/-- A rollout of the tenant moves if its status is expected. -/
theorem transition_run (found : s.rollout? tenant id = some r) {expected : List RolloutStatus}
    (allowed : r.status ∈ expected) (status : RolloutStatus) (operation : Operation) :
    (transition tenant id expected status operation).run s =
      (.ok { r with status := status }, s.putRollout { r with status := status }) := by
  have stored := (Option.filter_eq_some_iff.mp found).1
  refine Transaction.run_of_ok ?_
  rw [transition, find_bind_apply found, Transaction.moveRollout_bind_apply]
  simp [Store.moveRollout, stored, allowed]

/-- A rollout of the tenant in any other status does not move, and nothing else does. -/
theorem transition_refused (found : s.rollout? tenant id = some r) {expected : List RolloutStatus}
    (other : r.status ∉ expected) (status : RolloutStatus) (operation : Operation) :
    (transition tenant id expected status operation).run s =
      (.error (.invalidTransition id r.status operation), s) := by
  have stored := (Option.filter_eq_some_iff.mp found).1
  refine Transaction.run_of_error ?_
  rw [transition, find_bind_apply found, Transaction.moveRollout_bind_apply]
  simp [Store.moveRollout, stored, other]

/-- What the tenant does not have does not move. -/
theorem transition_absent (absent : s.rollout? tenant id = none) (expected : List RolloutStatus)
    (status : RolloutStatus) (operation : Operation) :
    (transition tenant id expected status operation).run s = (.error (.notFound id), s) := by
  refine Transaction.run_of_error ?_
  simp only [transition, find, bind_assoc, Transaction.read_bind_apply, absent,
    Transaction.orElse, Transaction.throw_bind_apply]

/-- Where a rollout is stored only with the mark, its removal takes its rows away. -/
theorem Placed.purge_marked {ε : Type} (placed : Placed s)
    (marked : ∀ r, s.rollouts.get? id = some r → r.status = .deleting) :
    (purge id : Transaction ε Bool).run s =
      (.ok (s.rollouts.contains id), s.withoutRollout id) := by
  refine Transaction.run_of_ok ?_
  rw [purge, Transaction.read_bind_apply]
  -- Whether the rollout is there or not, afterwards neither it nor its groups are.
  cases found : s.rollouts.get? id with
  | none => simp [Table.contains, found, placed.withoutRollout_absent found]
  | some r => simp [marked r found, placed.removeRollout_eq]

/-- A rollout that may be deleted goes with all of its rows, and nothing else does. -/
theorem Placed.delete_run (placed : Placed s) (found : s.rollout? tenant id = some r)
    (allowed : r.status ∈ deletable) : delete tenant id s = (.ok (), s.withoutRollout id) := by
  have stored := (Option.filter_eq_some_iff.mp found).1
  have own := placed.own stored
  subst own
  -- The two transactions run one after the other, and the second one finds the mark.
  let marked := s.putRollout { r with status := .deleting }
  have still : Placed marked := placed.putRollout stored rfl rfl
  have only : ∀ r', marked.rollouts.get? r.id = some r' → r'.status = .deleting := by
    intro r' found'
    have put : marked.rollouts.get? r.id = some { r with status := .deleting } :=
      (Table.get?_insert s.rollouts r.id r.id _).trans (if_pos rfl)
    rw [← Option.some.inj (put.symm.trans found')]
  have mark : (markDeleted tenant r.id).run s = (.ok { r with status := .deleting }, marked) :=
    transition_run found allowed .deleting .delete
  have removal := still.purge_marked (ε := Error) only
  simp only [delete, mark, removal]
  rw [show marked.withoutRollout r.id = s.withoutRollout r.id from withoutRollout_putRollout s _]

end Transactions

section Visits

/-- Among all rollouts, a stored one is listed once. -/
theorem Placed.rolloutsOf_split {s : Store} {r : Rollout} (placed : Placed s)
    (stored : s.rollouts.get? r.id = some r) :
    ∃ before after, s.rolloutsOf none = before ++ r :: after ∧ ∀ f ∈ before, r.id ≠ f.id := by
  -- Rollouts are stored by their numbers, so none of them is listed twice.
  have all : s.rolloutsOf none = s.rollouts.entries.map (·.2) := by
    simp [Store.rolloutsOf, Table.values]
  have ids : (s.rolloutsOf none).map (·.id) = s.rollouts.entries.map (·.1) := by
    rw [all, List.map_map]
    refine List.map_congr_left fun (id, f) member => ?_
    exact placed.own (Table.mem_entries_iff.mp member)
  have listed : r ∈ s.rolloutsOf none := by
    rw [all]
    exact List.mem_map.mpr ⟨(r.id, r), Table.mem_entries_iff.mpr stored, rfl⟩
  obtain ⟨before, after, split⟩ := List.append_of_mem listed
  have distinct := s.rollouts.nodup_keys
  rw [← ids, split, List.map_append, List.map_cons] at distinct
  refine ⟨before, after, split, fun f member same => ?_⟩
  have apart := (List.nodup_append.mp distinct).2.2
  exact apart f.id (List.mem_map.mpr ⟨f, member, rfl⟩) r.id List.mem_cons_self same.symm

variable {settings : Settings} {started : Nat → Prop} {s s' : Store} {r : Rollout} {id : Nat}
  {now : Instant}

/-- The start of a rollout is about that rollout only. -/
theorem Start.others {rollout : Nat} (start : Start rollout s s') (other : id ≠ rollout) :
    s'.rollouts.get? id = s.rollouts.get? id := by
  cases start with | started r stored own =>
  rw [scheduleGroups_frame]
  exact (Table.get?_insert s.rollouts r.id id _).trans (if_neg (by rw [own]; exact other))

/-- The failure of a rollout is about that rollout only. -/
theorem Failure.others {rollout : Nat} (failure : Failure rollout s s') (other : id ≠ rollout) :
    s'.rollouts.get? id = s.rollouts.get? id := by
  cases failure with | failed r stored own =>
  exact (Table.get?_insert s.rollouts r.id id _).trans (if_neg (by rw [own]; exact other))

/-- The evaluation of a rollout is about that rollout only. -/
theorem evaluate_others (coherent : Coherent started s) {rollout : Nat}
    (done : evaluate settings rollout now s = .ok ((), s')) (other : id ≠ rollout) :
    s'.rollouts.get? id = s.rollouts.get? id := by
  -- An evaluation of a rollout that does not run changes nothing.
  cases found : s.rollouts.get? rollout with
  | none =>
    simp only [evaluate, Transaction.read_bind_apply, found] at done
    rw [Transaction.state_eq done]
  | some r =>
    have own := coherent.placed.own found
    subst own
    by_cases running : r.status = .running
    · exact ((evaluate_evaluation coherent found running done).conducts coherent).others other
    · simp only [evaluate, Transaction.read_bind_apply, found, running, ↓reduceIte] at done
      rw [Transaction.state_eq done]

/-- The removal of a rollout is about that rollout only. -/
theorem purge_others {ε : Type} (s : Store) {rollout : Nat} (other : id ≠ rollout) :
    ((purge rollout : Transaction ε Bool).run s).2.rollouts.get? id = s.rollouts.get? id := by
  -- The purge removes the rollout or leaves everything as it is.
  have cases : (purge rollout : Transaction ε Bool) s = .ok (false, s) ∨
      (purge rollout : Transaction ε Bool) s = .ok (s.removeRollout rollout) := by
    rw [purge, Transaction.read_bind_apply]
    cases s.rollouts.get? rollout with
    | none => exact Or.inl rfl
    | some r => by_cases deleting : r.status = .deleting <;> simp [deleting]
  rcases cases with stays | removed
  · rw [Transaction.run_of_ok stays]
  · have kept := rollout_removeRollout s rollout id
    rw [if_neg other] at kept
    rw [Transaction.run_of_ok removed]
    exact kept

/-- What a tick does for a rollout is about that rollout only. -/
theorem visit_others (coherent : Coherent started s) (report : TickReport)
    (other : id ≠ r.id) :
    (visit settings now (report, s) r).2.rollouts.get? id = s.rollouts.get? id := by
  have placed := coherent.placed
  unfold visit
  cases needs : visit? settings r now with
  | none => rfl
  | some t =>
    -- What a visit does depends on the status in which the rollout was listed.
    unfold visit? at needs
    split at needs
    · split at needs
      · obtain rfl := Option.some.inj needs
        obtain ⟨⟨flag, s'⟩, succeeds⟩ := Service.startIn_succeeds (ε := Error) r.id s
        simp only [Transaction.run_of_ok succeeds]
        rcases startIn_eq_ok placed succeeds with same | start
        · rw [same]
        · exact start.others other
      · cases needs
    -- An evaluation that fails is answered by marking its own rollout at most.
    · obtain rfl := Option.some.inj needs
      cases evaluated : evaluate settings r.id now s with
      | ok done =>
        have ran : (do evaluate settings r.id now; pure true : Transaction Error Bool) s =
            .ok (true, done.2) :=
          Transaction.bind_eq_ok.mpr ⟨(), done.2, evaluated, rfl⟩
        simp only [Transaction.run_of_ok ran]
        exact evaluate_others coherent evaluated other
      | error e =>
        have fails := Transaction.bind_of_error evaluated fun _ =>
          (pure true : Transaction Error Bool)
        simp only [Transaction.run_of_error fails]
        rcases onFailure_cases placed e with same | ⟨-, failure⟩
        · rw [same]
        · exact failure.others other
    -- A purge is of the rollout visited.
    · obtain rfl := Option.some.inj needs
      obtain ⟨done, succeeds⟩ := Service.purge_succeeds (ε := Error) r.id s
      have kept := purge_others (ε := Error) s other
      rw [Transaction.run_of_ok succeeds] at kept
      simp only [Transaction.run_of_ok succeeds]
      exact kept
    · cases needs

end Visits

end Rollouts

namespace Service

open Rollouts (Erased)

section Runs

variable (settings : Settings) {id : Nat} {r r' : Rollout}

/-- However a run goes on, a rollout that is marked stays so while it is stored. -/
theorem marked_history (calls more : List Call)
    (stored : (history settings calls).present.rollouts.get? id = some r)
    (deleting : r.status = .deleting)
    (kept : (history settings (calls ++ more)).present.rollouts.get? id = some r') :
    r'.status = .deleting := by
  induction more using List.reverseRecOn generalizing r' with
  -- No call has been made since the mark.
  | nil =>
    rw [List.append_nil, stored] at kept
    rw [← Option.some.inj kept, deleting]
  | append_singleton more c ih =>
    have lives := lives_history settings (calls ++ more) c id
    rw [← List.append_assoc] at kept
    rw [kept] at lives
    cases between : (history settings (calls ++ more)).present.rollouts.get? id with
    | none =>
      rw [between] at lives
      -- The number has been drawn, so no new rollout takes it.
      cases lives with
      | created here ready =>
        have drawn := (coherent_history settings calls).placed.drawn stored
        have below := next_history settings calls more
        omega
    | some f =>
      have marked := ih between
      rw [between] at lives
      cases lives with
      | kept plan same => rw [same, marked]
      -- A mark is never taken back.
      | moved plan allowed =>
        rw [marked] at allowed
        cases allowed

/-- The visits of a tick to other rollouts are not about this one. -/
theorem visits_others (calls : List Call) (now : Instant) (listed : List Rollout)
    (others : ∀ f ∈ listed, id ≠ f.id) (report : Rollouts.TickReport) :
    (listed.foldl (Rollouts.visit settings now)
      (report, (history settings calls).present)).2.rollouts.get? id =
        (history settings calls).present.rollouts.get? id := by
  -- Each visit in turn leaves the rollout alone, since all of them are to others.
  induction listed generalizing calls report with
  | nil => rfl
  | cons f rest ih =>
    -- The other visits begin in the state that the first one reaches.
    obtain ⟨more, reached⟩ : Reaches settings (history settings calls) _ :=
      visit_reached (history settings calls) now report f
    rw [← history_append] at reached
    have first : (Rollouts.visit settings now (report, (history settings calls).present)
        f).2.rollouts.get? id = (history settings calls).present.rollouts.get? id :=
      Rollouts.visit_others (coherent_history settings calls) report
        (others f List.mem_cons_self)
    have rest := ih (calls ++ more) (fun g member => others g (List.mem_cons_of_mem f member))
      (Rollouts.visit settings now (report, (history settings calls).present) f).1
    rw [reached] at rest
    exact rest.trans first

/-- However a run goes on, a rollout keeps its groups until it is removed. -/
theorem groups_history (calls more : List Call)
    (stored : (history settings calls).present.rollouts.get? id = some r)
    (kept : (history settings (calls ++ more)).present.rollouts.get? id = some r') :
    ((history settings (calls ++ more)).present.groupsOf id).map (·.id) =
      ((history settings calls).present.groupsOf id).map (·.id) := by
  have ids := congrArg (List.map fun entry => entry.1.id)
    (roster_history settings calls more stored kept)
  simpa [Rollouts.roster, Function.comp_def, RolloutGroup.outline] using ids

/-- A tick comes upon a rollout with these groups that is marked: when it gets to that rollout, all
of its rows go, and nothing but lists of actions tells of it from then on. -/
structure Purges (s : Store) (r : Rollout) (groups : List Nat) (now : Instant) : Prop where
  visited : ∃ before after report t, s.rolloutsOf none = before ++ r :: after ∧
    before.foldl (Rollouts.visit settings now) (.zero, s) = (report, t) ∧
    t.rollouts.get? r.id = some r ∧ (t.groupsOf r.id).map (·.id) = groups ∧
    Rollouts.visit settings now (report, t) r =
      ({ report with purged := report.purged + 1 }, t.withoutRollout r.id)
  erased : Erased r.id groups (Rollouts.tick settings now s).2

/-- A tick removes every rollout that is marked. -/
theorem tick_purges (calls : List Call) (now : Instant)
    (stored : (history settings calls).present.rollouts.get? r.id = some r)
    (deleting : r.status = .deleting) :
    Purges settings (history settings calls).present r
      (((history settings calls).present.groupsOf r.id).map (·.id)) now := by
  let s := (history settings calls).present
  obtain ⟨before, after, split, others⟩ :=
    (coherent_history settings calls).placed.rolloutsOf_split stored
  -- The tick up to the rollout in question is a run of visits to others.
  let reached := before.foldl (Rollouts.visit settings now) (.zero, s)
  obtain ⟨first, there⟩ : Reaches settings (history settings calls) reached.2 :=
    visits_reached (history settings calls) now before .zero
  rw [← history_append] at there
  -- The visits to others leave the rollout and its groups as they are.
  have kept : reached.2.rollouts.get? r.id = some r :=
    (visits_others settings calls now before others .zero).trans stored
  have groups : (reached.2.groupsOf r.id).map (·.id) = (s.groupsOf r.id).map (·.id) := by
    have same := groups_history settings calls first stored (there ▸ kept)
    rwa [there] at same
  have removal : (Rollouts.purge r.id : Transaction Rollouts.Error Bool).run reached.2 =
      (.ok true, reached.2.withoutRollout r.id) := by
    have placed := (coherent_history settings (calls ++ first)).placed
    rw [there] at placed
    rw [placed.purge_marked fun f found => by
      rw [← Option.some.inj (kept.symm.trans found), deleting], Table.contains, kept]
    rfl
  -- The rollout was listed as marked, so its visit is the purge.
  have visit : Rollouts.visit settings now reached r =
      ({ reached.1 with purged := reached.1.purged + 1 }, reached.2.withoutRollout r.id) := by
    have needs : Rollouts.visit? settings r now = some (Rollouts.purge r.id) := by
      rw [Rollouts.visit?, deleting]
    rw [Rollouts.visit, needs]
    simp only [removal, deleting]
    rfl
  refine ⟨⟨before, after, reached.1, reached.2, split, rfl, kept, groups, visit⟩, ?_⟩
  -- After the visit the tick goes on, and nothing brings the rollout back.
  obtain ⟨second, removed⟩ : Reaches settings (history settings (calls ++ first))
      (Rollouts.visit settings now (reached.1, (history settings (calls ++ first)).present) r).2 :=
    visit_reached (history settings (calls ++ first)) now reached.1 r
  rw [there, visit, ← history_append] at removed
  obtain ⟨third, last⟩ : Reaches settings (history settings (calls ++ first ++ second))
      (after.foldl (Rollouts.visit settings now) ({ reached.1 with purged := reached.1.purged + 1 },
        (history settings (calls ++ first ++ second)).present)).2 :=
    visits_reached _ now after _
  have whole : Rollouts.tick settings now s = after.foldl (Rollouts.visit settings now)
      ({ reached.1 with purged := reached.1.purged + 1 }, reached.2.withoutRollout r.id) := by
    rw [Rollouts.tick, split, List.foldl_append, List.foldl_cons, visit]
  rw [removed, ← whole, ← history_append] at last
  have gone :
      (history settings (calls ++ (first ++ second))).present.rollouts.get? r.id = none := by
    rw [← List.append_assoc, removed]
    exact (Table.get?_erase _ r.id r.id).trans (if_pos rfl)
  have erased := erased_history settings third stored gone
  rw [← List.append_assoc, last] at erased
  exact erased

/-- Between the mark and the removal of a rollout with these groups, a run has come to this
state. -/
structure Resumes (s : Store) (id : Nat) (groups : List Nat) : Prop where
  /-- What is left to do for the rollout is to take its rows away, if that has not been done yet. -/
  purges : (Rollouts.purge id : Transaction Rollouts.Error Bool).run s =
    (.ok (s.rollouts.contains id), s.withoutRollout id)
  /-- The next tick does so. -/
  ticks : ∀ {r : Rollout}, s.rollouts.get? id = some r → ∀ now, Purges settings s r groups now
  erased : s.rollouts.get? id = none → Erased id groups s

/-- However a run goes on after the mark of a rollout, the removal can be taken up again. -/
theorem marked_resumes (calls more : List Call)
    (stored : (history settings calls).present.rollouts.get? id = some r)
    (deleting : r.status = .deleting) :
    Resumes settings (history settings (calls ++ more)).present id
      (((history settings calls).present.groupsOf id).map (·.id)) := by
  -- The mark stays for as long as there is a record.
  have only {r' : Rollout}
      (kept : (history settings (calls ++ more)).present.rollouts.get? id = some r') :
      r'.status = .deleting := marked_history settings calls more stored deleting kept
  have later := (coherent_history settings (calls ++ more)).placed
  constructor
  case purges => exact later.purge_marked fun r' kept => only kept
  case ticks =>
    intro r' kept now
    have own := later.own kept
    subst own
    have groups := groups_history settings calls more stored kept
    rw [← groups]
    exact tick_purges settings (calls ++ more) now kept (only kept)
  -- Once the rollout has gone, nothing brings its rows back.
  case erased =>
    intro gone
    have own := (coherent_history settings calls).placed.own stored
    subst own
    have erased := erased_history settings [] stored gone
    rwa [List.append_nil] at erased

/-- The mark of a rollout that may be deleted is written on it, and nothing else changes. -/
theorem mark_history (calls : List Call) {tenant : String} {mark : Call}
    (asks : mark.operation = .markRollout tenant id)
    (found : (history settings calls).present.rollout? tenant id = some r)
    (allowed : r.status ∈ Rollouts.deletable) :
    (history settings (calls ++ [mark])).present =
      (history settings calls).present.putRollout { r with status := .deleting } := by
  -- The mark is a transition, and it is allowed in the status that the rollout has.
  have moves := Rollouts.transition_run found allowed .deleting .delete
  rw [history_concat]
  show mark.apply settings (history settings calls) = _
  simp only [Call.apply, asks, Rollouts.markDeleted, moves]

/-- What becomes of a request to delete a rollout in the state that a run has reached. -/
structure Deletes (calls : List Call) (tenant : String) (id : Nat) : Prop where
  /-- A rollout that may be deleted goes with all of its rows, and no other row changes. -/
  done : ∀ {r : Rollout}, (history settings calls).present.rollout? tenant id = some r →
    r.status ∈ Rollouts.deletable →
    Rollouts.delete tenant id (history settings calls).present =
      (.ok (), (history settings calls).present.withoutRollout id)
  refused : ∀ {r : Rollout}, (history settings calls).present.rollout? tenant id = some r →
    r.status ∉ Rollouts.deletable →
    Rollouts.delete tenant id (history settings calls).present =
      (.error (.invalidTransition id r.status .delete), (history settings calls).present)
  unknown : (history settings calls).present.rollout? tenant id = none →
    Rollouts.delete tenant id (history settings calls).present =
      (.error (.notFound id), (history settings calls).present)
  /-- Once the rollout is marked, its removal comes to the same at any later time. -/
  resumed : ∀ {r : Rollout} {mark : Call} (more : List Call),
    (history settings calls).present.rollout? tenant id = some r →
    r.status ∈ Rollouts.deletable → mark.operation = .markRollout tenant id →
    (history settings (calls ++ [mark])).present.withoutRollout id =
        (history settings calls).present.withoutRollout id ∧
      Resumes settings (history settings (calls ++ [mark] ++ more)).present id
        (((history settings calls).present.groupsOf id).map (·.id))

/-- In every reachable state the deletion of a rollout takes away its own rows and no others, even
if it is only marked at first and a tick has to carry its removal through. -/
theorem deletion_exact (calls : List Call) (tenant : String) (id : Nat) :
    Deletes settings calls tenant id := by
  have placed := (coherent_history settings calls).placed
  constructor
  -- The three ways for a deletion to end are told apart by what is found.
  case done => exact fun found allowed => placed.delete_run found allowed
  case refused =>
    intro r found other
    have refusal := Rollouts.transition_refused found other .deleting .delete
    simp only [Rollouts.delete, Rollouts.markDeleted, refusal]
  case unknown =>
    intro absent
    have refusal := Rollouts.transition_absent absent Rollouts.deletable .deleting .delete
    simp only [Rollouts.delete, Rollouts.markDeleted, refusal]
  -- A deletion that was cut short after its mark is taken up again.
  case resumed =>
    intro r mark more found allowed asks
    have stored := (Option.filter_eq_some_iff.mp found).1
    have own := placed.own stored
    subst own
    have marked := mark_history settings calls asks found allowed
    have put : (history settings (calls ++ [mark])).present.rollouts.get? r.id =
        some { r with status := .deleting } := by
      rw [marked]
      exact (Table.get?_insert _ r.id r.id _).trans (if_pos rfl)
    refine ⟨?rest, ?resumes⟩
    case rest =>
      rw [marked]
      exact Rollouts.withoutRollout_putRollout _ { r with status := .deleting }
    case resumes =>
      -- The mark leaves the groups as they are.
      rw [← groups_history settings calls [mark] stored put]
      exact marked_resumes settings (calls ++ [mark]) more put rfl

end Runs

end Service

end DeviceUpdate
