import DeviceUpdate.Deployment.Assignment
import DeviceUpdate.Rollout.Filter
import DeviceUpdate.Rollout.Request

/-! What administrators do with rollouts. -/

namespace DeviceUpdate.Rollouts

/-- A rollout with its groups. -/
structure Detail where
  rollout : Rollout
  groups : List RolloutGroup
  deriving DecidableEq

/-- The record of a rollout with its groups. -/
def Detail.toJson (d : Detail) : Json :=
  .object (d.rollout.members ++ [("groups", .ofList RolloutGroup.toJson d.groups)])

/-- The bounds that the settings of a tenant set. -/
def limitsOf (settings : TenantSettings) : Limits :=
  ⟨settings.maxGroups, settings.maxGroupTargets⟩

/-- Checks a request, and gives the members of the groups and the number of targets selected. -/
def planned (settings : TenantSettings) (tenant : String) (q : Request) (s : Store) :
    Except Error (List (List String) × Nat) := do
  q.validate
  let plan ← q.plan
  if (s.set? tenant q.distributionSet).isNone then throw (.setNotFound q.distributionSet)
  let targets ← select s tenant q.filter
  let members ← partition targets plan (limitsOf settings)
  pure (members, targets.length)

/-- The group of a request at a position. -/
def groupOf (q : Request) (id rollout position : Nat) (size : Nat) (parent : Option Nat) :
    RolloutGroup :=
  let share := q.groups[position]?
  -- Conditions of the group come before the common ones.
  let failure := (share.bind (·.failure)) <|> q.failure
  { id := id
    rollout := rollout
    position := position
    name := (share.bind (·.name)).getD ("group-" ++ Text.decimal (position + 1))
    status := .ready
    success := (share.bind (·.success)).getD q.success
    onSuccess := q.onSuccess
    failure := failure
    -- What to do on failure only counts where failure has a condition.
    onFailure := failure.map fun _ => q.onFailure.getD .pause
    totalTargets := size
    parent := parent }

/-- Stores the members of a group from an index on. -/
def storeMembers (group : Nat) : Nat → List String → Store → Store
  | _, [], s => s
  | index, controller :: rest, s =>
    storeMembers group (index + 1) rest (s.addMember group index controller)

/-- Stores the groups of a rollout from a position on. -/
def storeGroups (q : Request) (rollout : Nat) :
    Nat → Option Nat → List (List String) → Transaction Error (List RolloutGroup)
  | _, _, [] => pure []
  | position, parent, members :: rest => do
    let id ← Transaction.draw "rollout_group"
    let group := groupOf q id rollout position members.length parent
    Transaction.change fun s => s.putGroup group
    Transaction.change (storeMembers id 0 members)
    -- Each group names the one before it as its parent.
    let groups ← storeGroups q rollout (position + 1) (some id) rest
    pure (group :: groups)

/-- The rollout of a request before its groups are stored. -/
def rolloutOf (q : Request) (id : Nat) (tenant : String) (total groups : Nat) (now : Instant) :
    Rollout where
  id := id
  tenant := tenant
  name := q.name
  filter := q.filter
  distributionSet := q.distributionSet
  urgency := q.urgency
  forcedTime := q.forcedTime
  weight := q.weight
  -- A rollout becomes ready once its groups are stored.
  status := .creating
  totalTargets := total
  groupCount := groups
  startAt := q.startAt
  lastCheck := none
  createdAt := now

/-- Stores a rollout whose groups have been planned. -/
def storePlanned (tenant : String) (q : Request) (members : List (List String)) (total : Nat)
    (now : Instant) : Transaction Error Detail := do
  let id ← Transaction.draw "rollout"
  let rollout := rolloutOf q id tenant total members.length now
  Transaction.change fun s => s.putRollout rollout
  let groups ← storeGroups q id 0 none members
  -- All groups are there, so the rollout can be started.
  let _ ← Transaction.moveRollout id [.creating] .ready
  pure ⟨{ rollout with status := .ready }, groups⟩

/-- Creates a rollout with its groups. -/
def create (settings : TenantSettings) (tenant : String) (q : Request) (now : Instant) :
    Transaction Error Detail := do
  let (members, total) ← liftM (planned settings tenant q (← get))
  storePlanned tenant q members total now

/-- The rollout of a tenant. -/
def find (tenant : String) (id : Nat) : Transaction Error Rollout := do
  Transaction.orElse (← Transaction.read fun s => s.rollout? tenant id) (.notFound id)

/-- Schedules all groups that are ready. -/
def scheduleGroups : List RolloutGroup → Store → Store
  | [], s => s
  | g :: rest, s => scheduleGroups rest (s.moveGroup g.id [.ready] .scheduled).2

/-- Starts a rollout that is ready; the flag tells whether it was. -/
def startIn {ε : Type} (id : Nat) : Transaction ε Bool := do
  if ← Transaction.moveRollout id [.ready] .running then
    -- Scheduled groups wait for their turn.
    let groups ← Transaction.read fun s => s.groupsOf id
    Transaction.change (scheduleGroups groups)
    pure true
  else pure false

/-- Starts a rollout. -/
def start (tenant : String) (id : Nat) : Transaction Error Rollout := do
  let rollout ← find tenant id
  if ← startIn id then pure { rollout with status := .running }
  else throw (.invalidTransition id rollout.status .start)

/-- Moves a rollout to a status from one of the expected ones. -/
def transition (tenant : String) (id : Nat) (expected : List RolloutStatus) (new : RolloutStatus)
    (operation : Operation) : Transaction Error Rollout := do
  let rollout ← find tenant id
  if ← Transaction.moveRollout id expected new then pure { rollout with status := new }
  else throw (.invalidTransition id rollout.status operation)

/-- Pauses a rollout. -/
def pause (tenant : String) (id : Nat) : Transaction Error Rollout :=
  transition tenant id [.running] .paused .pause

/-- Resumes a rollout. -/
def resume (tenant : String) (id : Nat) : Transaction Error Rollout :=
  transition tenant id [.paused] .running .resume

/-- The statuses from which a rollout can be stopped. -/
def stoppable : List RolloutStatus :=
  [.ready, .running, .paused]

/-- Cancels the deployments in flight of a group. -/
def cancelGroup (now : Instant) (g : RolloutGroup) : Transaction DeployError Unit := do
  let actions ← Transaction.read fun s => s.actionsOfGroup g.id
  let _ ← (actions.filter (·.isInFlight)).mapM fun a => Deployments.cancelIn a now

/-- Stops a rollout and cancels its deployments in flight. -/
def stop (tenant : String) (id : Nat) (now : Instant) : Transaction Error Rollout := do
  let rollout ← transition tenant id stoppable .stopped .stop
  -- No evaluation comes in between, since all of it is one transaction.
  let groups ← Transaction.read fun s => s.groupsOf id
  let _ ← (groups.mapM (cancelGroup now)).mapError Error.deploy
  pure rollout

/-- The statuses from which a rollout can be deleted. -/
def deletable : List RolloutStatus :=
  [.creating, .ready, .stopped, .finished, .error]

/-- Marks a rollout for deletion. -/
def markDeleted (tenant : String) (id : Nat) : Transaction Error Rollout :=
  transition tenant id deletable .deleting .delete

/-- Removes a rollout that is marked for deletion; the flag tells whether it was. -/
def purge {ε : Type} (id : Nat) : Transaction ε Bool := do
  match ← Transaction.read fun s => s.rollouts.get? id with
  | some r => if r.status = .deleting then Transaction.removeRollout id else pure false
  | none => pure false

/-- Deletes a rollout, in two transactions: it is marked and then removed. -/
def delete (tenant : String) (id : Nat) (s : Store) : Except Error Unit × Store :=
  match (markDeleted tenant id).run s with
  | (.error e, s) => (.error e, s)
  | (.ok _, s) =>
    match (purge id).run s with
    | (.error e, s) => (.error e, s)
    | (.ok _, s) => (.ok (), s)

/-- A rollout with its groups. -/
def detail (s : Store) (tenant : String) (id : Nat) : Except Error Detail :=
  match s.rollout? tenant id with
  | some r => .ok ⟨r, s.groupsOf id⟩
  | none => .error (.notFound id)

/-- The rollouts of a tenant. -/
def list (s : Store) (tenant : String) : List Rollout :=
  s.rolloutsOf (some tenant)

/-- The statuses of the deployments that cover the members of a group. -/
def coverage (s : Store) (r : Rollout) (g : RolloutGroup) : List (Option Status) :=
  (s.memberActions r.tenant g.id r.distributionSet).map fun a => a.map (·.status)

/-- The counts of a group; a group that has not started has no deployments yet. -/
def tallyOf (s : Store) (tenant : String) (r : Rollout) (g : RolloutGroup) : Tally :=
  match g.status with
  | .creating | .ready | .scheduled => .ofMembers g.totalTargets []
  | _ => .ofMembers g.totalTargets
    ((s.memberActions tenant g.id r.distributionSet).map fun a => a.map (·.status))

/-- The groups of a rollout with their counts. -/
def groupCounts (s : Store) (tenant : String) (id : Nat) :
    Except Error (List (RolloutGroup × Tally)) := do
  match s.rollout? tenant id with
  | none => throw (.notFound id)
  | some r => pure ((s.groupsOf id).map fun g => (g, tallyOf s tenant r g))

end DeviceUpdate.Rollouts
