import DeviceUpdate.Store.Basic

/-! Transactions: changes of the store that take effect together or not at all. -/

namespace DeviceUpdate

/-- A change of the store that may fail. -/
abbrev Transaction (ε : Type) := StateT Store (Except ε)

namespace Transaction

variable {ε α β : Type}

/-- Carries a transaction out; a failure leaves the store as it was. -/
def run (t : Transaction ε α) (s : Store) : Except ε α × Store :=
  match StateT.run t s with
  | .ok (a, s') => (.ok a, s')
  -- Whatever was written before the failure is dropped.
  | .error e => (.error e, s)

/-- What a function finds in the store. -/
def read (f : Store → α) : Transaction ε α :=
  f <$> get

/-- Replaces the store. -/
def change (f : Store → Store) : Transaction ε Unit :=
  modify f

/-- The value, or a failure when there is none. -/
def orElse (a : Option α) (e : ε) : Transaction ε α :=
  match a with
  | some a => pure a
  | none => throw e

/-- The same transaction with its failures seen as others. -/
def mapError {ε' : Type} (f : ε → ε') (t : Transaction ε α) : Transaction ε' α := fun s =>
  match StateT.run t s with
  | .ok r => .ok r
  | .error e => .error (f e)

end Transaction

namespace Store

/-- Stores a target under its key. -/
def putTarget (s : Store) (t : Target) : Store :=
  { s with targets := s.targets.insert t.key t }

/-- Stores a distribution set. -/
def putSet (s : Store) (d : DistributionSet) : Store :=
  { s with sets := s.sets.insert d.id d }

/-- Stores an action and lists it under its target and its group. -/
def putAction (s : Store) (a : Action) : Store :=
  { s with
    actions := s.actions.insert a.id a
    targetActions := s.targetActions.insert (a.targetKey, a.id) ()
    groupActions := match a.rollout with
      | some m => s.groupActions.insert (m.group, a.id) ()
      | none => s.groupActions }

/-- The position after the last entry of the log of an action. -/
def nextPosition (s : Store) (action : Nat) : Nat :=
  match (keysUnder s.log action).getLast? with
  | some last => last + 1
  | none => 0

/-- Stores an entry at the end of the log of its action. -/
def append (s : Store) (e : LogEntry) : Store :=
  let position := s.nextPosition e.action
  { s with log := s.log.insert (e.action, position) { e with position := position } }

/-- Stores a rollout. -/
def putRollout (s : Store) (r : Rollout) : Store :=
  { s with rollouts := s.rollouts.insert r.id r }

/-- Stores a group and its place in its rollout. -/
def putGroup (s : Store) (g : RolloutGroup) : Store :=
  { s with
    groups := s.groups.insert g.id g
    groupPositions := s.groupPositions.insert (g.rollout, g.position) g.id }

/-- Makes a target a member of a group. -/
def addMember (s : Store) (group index : Nat) (controller : String) : Store :=
  { s with members := s.members.insert (group, index) controller }

/-- The number that a sequence gives next. -/
def nextNumber (s : Store) (sequence : String) : Nat :=
  (s.sequences.get? sequence).getD 0 + 1

/-- Moves a rollout to a status from one of the expected ones; the flag tells whether it moved. -/
def moveRollout (s : Store) (id : Nat) (expected : List RolloutStatus) (new : RolloutStatus) :
    Bool × Store :=
  match s.rollouts.get? id with
  | some r =>
    if expected.contains r.status then (true, s.putRollout { r with status := new }) else (false, s)
  | none => (false, s)

/-- Moves a group to a status from one of the expected ones; the flag tells whether it moved. -/
def moveGroup (s : Store) (id : Nat) (expected : List GroupStatus) (new : GroupStatus) :
    Bool × Store :=
  match s.groups.get? id with
  | some g =>
    if expected.contains g.status then (true, s.putGroup { g with status := new }) else (false, s)
  | none => (false, s)

/-- Removes a group of a rollout with its members and its list of actions. -/
def removeGroup (rollout : Nat) (s : Store) (g : RolloutGroup) : Store :=
  { s with
    groups := s.groups.erase g.id
    groupPositions := s.groupPositions.erase (rollout, g.position)
    members := s.members.filter fun k _ => k.1 != g.id
    groupActions := s.groupActions.filter fun k _ => k.1 != g.id }

/-- Removes a rollout with its groups; the actions stay. The flag tells whether there was one. -/
def removeRollout (s : Store) (id : Nat) : Bool × Store :=
  let groups := s.groupsOf id
  (s.rollouts.contains id,
    groups.foldl (removeGroup id) { s with rollouts := s.rollouts.erase id })

end Store

namespace Transaction

variable {ε : Type}

/-- Draws the next number of a sequence. -/
def draw (sequence : String) : Transaction ε Nat := do
  let n ← read fun s => s.nextNumber sequence
  change fun s => { s with sequences := s.sequences.insert sequence n }
  pure n

/-- Stores an entry at the end of the log of its action and returns it as it is stored. -/
def append (e : LogEntry) : Transaction ε LogEntry := do
  let position ← read fun s => s.nextPosition e.action
  change fun s => s.append e
  pure { e with position := position }

/-- Stores an entry of the server without a code. -/
def note (action : Nat) (status : Status) (now : Instant) (message : String) :
    Transaction ε Unit :=
  change fun s => s.append ⟨action, 0, status, .system, now, none, [message]⟩

/-- Moves a rollout to a status from one of the expected ones. -/
def moveRollout (id : Nat) (expected : List RolloutStatus) (new : RolloutStatus) :
    Transaction ε Bool :=
  modifyGet fun s => s.moveRollout id expected new

/-- Moves a group to a status from one of the expected ones. -/
def moveGroup (id : Nat) (expected : List GroupStatus) (new : GroupStatus) : Transaction ε Bool :=
  modifyGet fun s => s.moveGroup id expected new

/-- Removes a rollout with its groups. -/
def removeRollout (id : Nat) : Transaction ε Bool :=
  modifyGet fun s => s.removeRollout id

end Transaction

end DeviceUpdate
