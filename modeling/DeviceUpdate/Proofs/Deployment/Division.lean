import DeviceUpdate.Proofs.Deployment.Tenancy

/-! How the records of a store are divided among targets, and which stores agree on some of them. -/

namespace DeviceUpdate

/-- The store without what is about single targets. -/
def Store.common (s : Store) : Store :=
  { s with
    targets := .empty
    actions := .empty
    targetActions := .empty
    log := .empty
    groupActions := .empty }

namespace Deployments

/-- Actions are of the targets to which a division gives their numbers. -/
structure Divided (owner : Nat → Option String) (s : Store) : Prop where
  indexed : Indexed s
  keyed : Keyed s
  owned : ∀ id, (s.actions.get? id).map Action.targetKey = owner id
  /-- What an action is to cancel is of the same target. -/
  cancels : ∀ ⦃cancel : Action⦄ ⦃subject : Nat⦄, Cancels s cancel subject →
    owner subject = owner cancel.id

/-- An action that may take the place of another one of a target. -/
structure Fits (owner : Nat → Option String) (key : String) (a : Action) : Prop where
  own : a.targetKey = key
  owned : owner a.id = some key
  cancels : a.active = true → ∀ ⦃subject : Nat⦄, a.order = .cancel subject →
    owner subject = some key

/-- Two stores, divided in one way, hold the same of some targets and of what is of none. -/
structure Coincide (owner : Nat → Option String) (zone : Option String → Prop) (s u : Store) :
    Prop where
  left : Divided owner s
  right : Divided owner u
  targets : ∀ key, zone (some key) → s.targets.get? key = u.targets.get? key
  actions : ∀ id, zone (owner id) → s.actions.get? id = u.actions.get? id
  log : ∀ id i, zone (owner id) → s.log.get? (id, i) = u.log.get? (id, i)
  groupActions : ∀ group id, zone (owner id) →
    s.groupActions.get? (group, id) = u.groupActions.get? (group, id)
  common : s.common = u.common

variable {owner : Nat → Option String} {zone : Option String → Prop} {s s' u : Store}
  {a : Action} {t : Target} {e : LogEntry} {key : String} {id : Nat}

section Divisions

/-- A store that is in order is divided by the targets of its actions. -/
theorem divided_of_paired (indexed : Indexed s) (paired : Paired s) (keyed : Keyed s) :
    Divided (fun id => (s.actions.get? id).map Action.targetKey) s where
  indexed := indexed
  keyed := keyed
  owned _ := rfl
  cancels := by
    -- A cancellation and its subject belong to the same target, since they are paired.
    intro cancel subject cancels
    obtain ⟨a, same, pending, -⟩ := paired.subject cancels
    rw [← same, pending.subjectStored, cancels.stored, Option.map_some, Option.map_some,
      pending.targetKey paired]

/-- A stored action fits in its own place. -/
theorem Divided.fits (divided : Divided owner s) (stored : s.actions.get? id = some a) :
    a.id = id ∧ Fits owner a.targetKey a := by
  have number := divided.indexed.own stored
  subst number
  have owned : owner a.id = some a.targetKey := by
    rw [← divided.owned, stored, Option.map_some]
  exact ⟨rfl, rfl, owned, fun active _ names => (divided.cancels ⟨stored, active, names⟩).trans owned⟩

/-- An action that is found for a target fits in its own place among those of the target. -/
theorem Divided.fits_found (divided : Divided owner s) {tenant controller : String}
    (found : s.action? tenant id = some a) (own : a.controller = controller) :
    a.id = id ∧ Fits owner (Target.keyOf tenant controller) a := by
  obtain ⟨stored, tenancy⟩ := Option.filter_eq_some_iff.mp found
  obtain ⟨number, fits⟩ := divided.fits stored
  rw [Action.targetKey, own, beq_iff_eq.mp tenancy] at fits
  exact ⟨number, fits⟩

/-- The numbers that a division gives to a target are those that are listed for it. -/
theorem Divided.listed (divided : Divided owner s) :
    s.targetActions.contains (key, id) = true ↔ owner id = some key := by
  rw [divided.indexed.listed, ← divided.owned, Option.map_eq_some_iff]

/-- Storing a target leaves the division as it is. -/
theorem Divided.putTarget (divided : Divided owner s) (t : Target) :
    Divided owner (s.putTarget t) where
  indexed := divided.indexed.putTarget t
  keyed := divided.keyed.putTarget t
  owned := divided.owned
  cancels _ _ cancels := divided.cancels ⟨cancels.stored, cancels.active, cancels.names⟩

/-- A new entry of a log leaves the division as it is. -/
theorem Divided.append (divided : Divided owner s) (e : LogEntry) : Divided owner (s.append e) where
  indexed := ⟨divided.indexed.own, divided.indexed.drawn, divided.indexed.listed⟩
  keyed := divided.keyed
  owned := divided.owned
  cancels _ _ cancels := divided.cancels ⟨cancels.stored, cancels.active, cancels.names⟩

/-- Storing an action where it fits leaves the division as it is. -/
theorem Divided.putAction (divided : Divided owner s) (fits : Fits owner key a) :
    Divided owner (s.putAction a) where
  indexed := by
    have owned := fits.owned
    rw [← divided.owned, Option.map_eq_some_iff] at owned
    obtain ⟨b, stored, own⟩ := owned
    have drawn := divided.indexed.drawn stored
    -- What was stored in the place of the action is of the same target.
    have recorded := divided.indexed.record (e := a.remark a.modifiedAt "") drawn fun c found => by
      rw [← Option.some.inj (stored.symm.trans found), own, fits.own]
    exact ⟨recorded.own, recorded.drawn, recorded.listed⟩
  keyed := divided.keyed
  owned id := by
    -- The action is of the target to which its number is given.
    rw [Store.get?_putAction]
    split
    · rename_i here
      rw [here, fits.owned, Option.map_some, fits.own]
    · exact divided.owned id
  cancels := by
    rintro cancel subject ⟨stored, active, names⟩
    rw [Store.get?_putAction] at stored
    split at stored
    · rename_i here
      -- If the action itself cancels, it fits with what it is to cancel.
      have same := Option.some.inj stored
      subst same
      rw [fits.owned, fits.cancels active names]
    · exact divided.cancels ⟨stored, active, names⟩

/-- An action that has moved fits where it did, unless it has become active again. -/
theorem Fits.moved (fits : Fits owner key a) (status : Status) {active : Bool} (now : Instant)
    (was : active = true → a.active = true) : Fits owner key (a.moved status active now) :=
  ⟨fits.own, fits.owned, fun still => fits.cancels (was still)⟩

end Divisions

section Agreement

variable {first second : Option String → Prop} {s'' : Store}

theorem Coincide.refl (divided : Divided owner s) : Coincide owner zone s s :=
  ⟨divided, divided, fun _ _ => rfl, fun _ _ => rfl, fun _ _ _ => rfl, fun _ _ _ => rfl, rfl⟩

theorem Coincide.symm (agree : Coincide owner zone s u) : Coincide owner zone u s where
  left := agree.right
  right := agree.left
  targets key within := (agree.targets key within).symm
  actions id within := (agree.actions id within).symm
  log id i within := (agree.log id i within).symm
  groupActions group id within := (agree.groupActions group id within).symm
  common := agree.common.symm

theorem Coincide.trans (one : Coincide owner zone s s') (two : Coincide owner zone s' s'') :
    Coincide owner zone s s'' where
  left := one.left
  right := two.right
  targets key within := (one.targets key within).trans (two.targets key within)
  actions id within := (one.actions id within).trans (two.actions id within)
  log id i within := (one.log id i within).trans (two.log id i within)
  groupActions group id within :=
    (one.groupActions group id within).trans (two.groupActions group id within)
  common := one.common.trans two.common

/-- Stores that agree on some targets agree on fewer. -/
theorem Coincide.mono (agree : Coincide owner first s u) (fewer : ∀ z, second z → first z) :
    Coincide owner second s u where
  left := agree.left
  right := agree.right
  targets key within := agree.targets key (fewer _ within)
  actions id within := agree.actions id (fewer _ within)
  log id i within := agree.log id i (fewer _ within)
  groupActions group id within := agree.groupActions group id (fewer _ within)
  common := agree.common

/-- Stores that agree on some targets and on others agree on all of them. -/
theorem Coincide.or (one : Coincide owner first s u) (two : Coincide owner second s u) :
    Coincide owner (fun z => first z ∨ second z) s u where
  left := one.left
  right := one.right
  targets key within := within.elim (one.targets key) (two.targets key)
  actions id within := within.elim (one.actions id) (two.actions id)
  log id i within := within.elim (one.log id i) (two.log id i)
  groupActions group id within := within.elim (one.groupActions group id) (two.groupActions group id)
  common := one.common

/-- Stores that agree on all targets are the same. -/
theorem Coincide.eq (agree : Coincide owner zone s u) (all : ∀ z, zone z) : s = u := by
  -- Table by table, all lookups find the same.
  have targets := Table.ext_get? fun key => agree.targets key (all _)
  have actions := Table.ext_get? fun id => agree.actions id (all _)
  have log := Table.ext_get? fun row : Nat × Nat => agree.log row.1 row.2 (all _)
  have groupActions :=
    Table.ext_get? fun row : Nat × Nat => agree.groupActions row.1 row.2 (all _)
  -- What targets list is given by the division.
  have targetActions : s.targetActions = u.targetActions := by
    refine Table.ext_get? fun row => ?_
    have listed : s.targetActions.contains row = true ↔ u.targetActions.contains row = true :=
      agree.left.listed.trans agree.right.listed.symm
    simp only [Table.contains] at listed
    cases here : s.targetActions.get? row <;> cases there : u.targetActions.get? row <;>
      simp_all
  have common := agree.common
  cases s
  cases u
  simp only [Store.common, Store.mk.injEq] at *
  simp_all

end Agreement

section Reads

variable {tenant controller : String}

/-- Stores that agree on a target hold the same record of it. -/
theorem Coincide.target? (agree : Coincide owner zone s u)
    (within : zone (some (Target.keyOf tenant controller))) :
    s.target? tenant controller = u.target? tenant controller :=
  agree.targets _ within

/-- Stores that agree on the target of a number find the same action for a tenant. -/
theorem Coincide.action? (agree : Coincide owner zone s u) (within : zone (owner id)) (tenant : String) :
    s.action? tenant id = u.action? tenant id := by
  rw [Store.action?, Store.action?, agree.actions id within]

/-- Stores that agree on a target find the same actions of it, whatever numbers are asked for. -/
theorem Coincide.seen (agree : Coincide owner zone s u)
    (within : zone (some (Target.keyOf tenant controller))) {test : Action → Bool}
    (own : ∀ a, test a = true → a.controller = controller) (id : Nat) :
    (s.action? tenant id).filter test = (u.action? tenant id).filter test := by
  -- What passes the test is of the target, so its number is within the zone.
  have passes {s u : Store} (agree : Coincide owner zone s u) {a : Action}
      (found : (s.action? tenant id).filter test = some a) :
      (u.action? tenant id).filter test = some a := by
    obtain ⟨here, passes⟩ := Option.filter_eq_some_iff.mp found
    obtain ⟨rfl, fits⟩ := agree.left.fits_found here (own a passes)
    rw [← agree.action? (by rw [fits.owned]; exact within), found]
  exact Option.ext fun a => ⟨passes agree, passes agree.symm⟩

/-- Stores that agree on a target list the same actions for it. -/
theorem Coincide.actionsOf (agree : Coincide owner zone s u)
    (within : zone (some (Target.keyOf tenant controller))) :
    s.actionsOf tenant controller = u.actionsOf tenant controller := by
  -- Both list the numbers that the division gives to the target.
  have keys : Store.keysUnder s.targetActions (Target.keyOf tenant controller) =
      Store.keysUnder u.targetActions (Target.keyOf tenant controller) :=
    Store.keysUnder_congr fun _ => agree.left.listed.trans agree.right.listed.symm
  rw [Store.actionsOf, Store.actionsOf, keys]
  refine List.filterMap_congr fun id member => agree.actions id ?_
  rw [agree.right.listed.mp (Store.mem_keysUnder.mp member)]
  exact within

/-- Stores that agree on the target of an action take the same positions in its log. -/
theorem Coincide.positions (agree : Coincide owner zone s u) (within : zone (owner id)) :
    Store.keysUnder s.log id = Store.keysUnder u.log id :=
  Store.keysUnder_congr fun i => by rw [Table.contains, Table.contains, agree.log id i within]

/-- Stores that agree on the target of an action hold the same log of it. -/
theorem Coincide.logOf (agree : Coincide owner zone s u) (within : zone (owner id)) :
    s.logOf id = u.logOf id := by
  simp only [Store.logOf, Store.valuesUnder_eq, agree.positions within, agree.log id _ within]

/-- Stores that agree hold the same sets. -/
theorem Coincide.set? (agree : Coincide owner zone s u) (tenant : String) (id : Nat) :
    s.set? tenant id = u.set? tenant id := by
  have same : s.common.sets = u.common.sets := congrArg Store.sets agree.common
  have sets : s.sets = u.sets := same
  rw [Store.set?, Store.set?, sets]

end Reads

section Writes

/-- Stores that agree do so after a target has been stored in both. -/
theorem Coincide.putTarget (agree : Coincide owner zone s u) (t : Target) :
    Coincide owner zone (s.putTarget t) (u.putTarget t) where
  left := agree.left.putTarget t
  right := agree.right.putTarget t
  targets key within := by rw [get?_putTarget, get?_putTarget, agree.targets key within]
  -- Both targets tables get the same row.
  actions := agree.actions
  log := agree.log
  groupActions := agree.groupActions
  common := agree.common

/-- Stores that agree do so after an action has been stored in both. -/
theorem Coincide.putAction (agree : Coincide owner zone s u) (fits : Fits owner key a) :
    Coincide owner zone (s.putAction a) (u.putAction a) where
  left := agree.left.putAction fits
  right := agree.right.putAction fits
  targets := agree.targets
  -- Both action tables get the same row, and the row of a group only if the action has a group.
  actions id within := by rw [Store.get?_putAction, Store.get?_putAction, agree.actions id within]
  log := agree.log
  groupActions group id within := by
    -- An action without a group leaves the lists of groups alone.
    have same := agree.groupActions group id within
    simp only [Store.putAction]
    cases a.rollout with
    | none => exact same
    | some m => simp only [Table.get?_insert, same]
  common := agree.common

/-- Stores that agree on a log do so after an entry has been added in both. -/
theorem Coincide.append (agree : Coincide owner zone s u) (within : zone (owner e.action)) :
    Coincide owner zone (s.append e) (u.append e) where
  left := agree.left.append e
  right := agree.right.append e
  targets := agree.targets
  actions := agree.actions
  log id i inside := by
    -- The positions are the same in both logs, so the entry takes the same place.
    simp only [Store.append, Store.nextPosition, agree.positions within, Table.get?_insert,
      agree.log id i inside]
  groupActions := agree.groupActions
  common := agree.common

/-- A stored target leaves all others as they are. -/
theorem Divided.agree_putTarget (divided : Divided owner s) (own : t.key = key) :
    Coincide owner (· ≠ some key) s (s.putTarget t) where
  left := divided
  right := divided.putTarget t
  targets other outside := by
    -- The row that is written is the one of the key.
    rw [get?_putTarget, if_neg]
    rintro rfl
    exact outside (by rw [own])
  actions _ _ := rfl
  log _ _ _ := rfl
  groupActions _ _ _ := rfl
  common := rfl

/-- A stored action leaves what is of other targets as it is. -/
theorem Divided.agree_putAction (divided : Divided owner s) (fits : Fits owner key a) :
    Coincide owner (· ≠ some key) s (s.putAction a) where
  left := divided
  right := divided.putAction fits
  targets _ _ := rfl
  actions id outside := by
    -- The action that is written is owned by the key, and so is its row in a group.
    rw [Store.get?_putAction, if_neg]
    rintro rfl
    exact outside fits.owned
  log _ _ _ := rfl
  groupActions group id outside := by
    have other : id ≠ a.id := by
      rintro rfl
      exact outside fits.owned
    simp only [Store.putAction]
    cases a.rollout with
    | none => rfl
    | some m => simp [Table.get?_insert, other]
  common := rfl

/-- A new entry leaves the logs of what is of other targets as they are. -/
theorem Divided.agree_append (divided : Divided owner s) (owned : owner e.action = some key) :
    Coincide owner (· ≠ some key) s (s.append e) where
  left := divided
  right := divided.append e
  targets _ _ := rfl
  actions _ _ := rfl
  log id i outside := by
    -- The key of the entry starts with the number of its own action.
    have other : id ≠ e.action := by
      rintro rfl
      exact outside owned
    simp [Store.append, Table.get?_insert, other]
  groupActions _ _ _ := rfl
  common := rfl

end Writes

end Deployments

end DeviceUpdate
