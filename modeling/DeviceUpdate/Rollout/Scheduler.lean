import DeviceUpdate.Rollout.Lifecycle

/-! The regular look at all rollouts, which starts them and moves them from group to group. -/

namespace DeviceUpdate.Rollouts

/-- The statuses from which a group can be started. -/
def startable : List GroupStatus :=
  [.creating, .ready, .scheduled]

/-- What a rollout asks for on behalf of each member. -/
def requestOf (r : Rollout) : AssignmentRequest :=
  ⟨r.distributionSet, r.urgency, r.forcedTime, r.weight, none⟩

/-- Assigns the set of a rollout to a member, unless the member no longer exists. -/
def assignMember (settings : TenantSettings) (r : Rollout) (group : Nat) (now : Instant)
    (controller : String) : Transaction DeployError Unit := do
  if ← Transaction.read fun s => (s.target? r.tenant controller).isSome then
    let _ ← Deployments.assignIn settings r.tenant controller (requestOf r)
      (some ⟨r.id, group⟩) now
  else
    -- The request is checked first, whether or not there is a target.
    let _ ← liftM ((requestOf r).validate settings now)

/-- Starts a group: a deployment for every member; a group without members finishes at once. -/
def startGroup (settings : TenantSettings) (r : Rollout) (g : RolloutGroup) (now : Instant) :
    Transaction Error Unit := do
  if g.totalTargets = 0 then
    -- Nobody is left to wait for, so the group is not even run.
    let _ ← Transaction.moveGroup g.id startable .finished
  else if ← Transaction.moveGroup g.id startable .running then
    -- Only the one evaluation that moved the group assigns to its members.
    let members ← Transaction.read fun s => s.membersOf g.id
    (members.forM (assignMember settings r g.id now)).mapError Error.deploy

/-- Fails a running group, which pauses the rollout. -/
def failGroup (r : Rollout) (g : RolloutGroup) : Transaction Error Unit := do
  if ← Transaction.moveGroup g.id [.running] .error then
    match g.onFailure.getD .pause with
    | .pause =>
      -- A rollout that was paused or stopped in between stays as it is.
      let _ ← Transaction.moveRollout r.id [.running] .paused

/-- Finishes a running group, and then starts the next one or pauses the rollout. -/
def finishGroup (settings : TenantSettings) (r : Rollout) (g : RolloutGroup)
    (groups : List RolloutGroup) (now : Instant) : Transaction Error Unit := do
  if ← Transaction.moveGroup g.id [.running] .finished then
    match g.onSuccess with
    | .nextGroup =>
      match groups.find? fun n => g.position < n.position && !n.status.isSettled with
      -- The next group starts in the same evaluation.
      | some next => startGroup settings r next now
      | none => pure ()
    | .pause =>
      let _ ← Transaction.moveRollout r.id [.running] .paused

/-- Whether the error condition of a group is reached. -/
def hasFailed (g : RolloutGroup) (t : Tally) : Except Error Bool :=
  match g.failure with
  | some c => errorReached c t
  | none => .ok false

/-- Checks a running group against its conditions. -/
def checkGroup (settings : TenantSettings) (r : Rollout) (g : RolloutGroup)
    (groups : List RolloutGroup) (now : Instant) : Transaction Error Unit := do
  let statuses ← Transaction.read fun s => coverage s r g
  let tally := Tally.ofMembers g.totalTargets statuses
  -- Failure is looked for first, so that a group that reaches both conditions fails.
  if ← liftM (hasFailed g tally) then failGroup r g
  else if ← liftM (successReached g.success tally) then finishGroup settings r g groups now
  -- Nothing is in flight any more, so the group cannot reach its condition.
  else if tally.isComplete then failGroup r g

/-- Ends a rollout whose groups have all settled. -/
def complete (id : Nat) : Transaction Error Unit := do
  let groups ← Transaction.read fun s => s.groupsOf id
  if groups.all (·.status.isSettled) then
    -- One failed group is enough for the rollout to count as failed.
    let status : RolloutStatus :=
      if groups.any fun g => g.status = .error then .error else .finished
    let _ ← Transaction.moveRollout id [.running] status

/-- Notes when a rollout was examined. -/
def noteCheck (id : Nat) (now : Instant) (s : Store) : Store :=
  match s.rollouts.get? id with
  | some r => s.putRollout { r with lastCheck := some now }
  | none => s

/-- Moves the first group of a running rollout that has not settled. -/
def advance (settings : TenantSettings) (r : Rollout) (now : Instant) :
    Transaction Error Unit := do
  let groups ← Transaction.read fun s => s.groupsOf r.id
  match groups.find? fun g => !g.status.isSettled with
  | none => pure ()
  | some g =>
    -- A group waits here after the start, after an empty group, and after a pause.
    if g.status = .running then checkGroup settings r g groups now
    else startGroup settings r g now

/-- Evaluates a rollout, if it is running. -/
def evaluate (settings : Settings) (id : Nat) (now : Instant) : Transaction Error Unit := do
  match ← Transaction.read fun s => s.rollouts.get? id with
  | none => pure ()
  | some r =>
    if r.status = .running then
      advance (settings.tenant r.tenant) r now
      complete id
      Transaction.change (noteCheck id now)

/-- What one look at all rollouts did. -/
structure TickReport where
  started : Nat
  evaluated : Nat
  failed : Nat
  purged : Nat
  deriving DecidableEq, Repr

/-- Nothing was done. -/
def TickReport.zero : TickReport :=
  ⟨0, 0, 0, 0⟩

/-- Marks a running rollout as failed when one of its conditions cannot be read. -/
def onFailure (id : Nat) (e : Error) (s : Store) : Store :=
  match e with
  | .invalidCondition _ _ => (s.moveRollout id [.running] .error).2
  -- Any other failure may pass, and the next look tries again.
  | _ => s

/-- What a visit adds to the report, once it has succeeded. -/
def TickReport.count (t : TickReport) (status : RolloutStatus) (flag : Bool) : TickReport :=
  match status with
  | .ready => { t with started := t.started + flag.toNat }
  | .running => { t with evaluated := t.evaluated + 1 }
  | .deleting => { t with purged := t.purged + flag.toNat }
  | _ => t

/-- What a rollout needs, by its status when it was listed. -/
def visit? (settings : Settings) (r : Rollout) (now : Instant) : Option (Transaction Error Bool) :=
  match r.status with
  | .ready => if r.startAt.any (·.notAfter now) then some (startIn r.id) else none
  | .running => some (do evaluate settings r.id now; pure true)
  | .deleting => some (purge r.id)
  | _ => none

/-- Looks at one rollout as it was listed. -/
def visit (settings : Settings) (now : Instant) (state : TickReport × Store) (r : Rollout) :
    TickReport × Store :=
  match visit? settings r now with
  -- Rollouts that are paused or have ended are passed over.
  | none => state
  | some t =>
    match t.run state.2 with
    | (.ok flag, s) => (state.1.count r.status flag, s)
    | (.error e, s) => ({ state.1 with failed := state.1.failed + 1 }, onFailure r.id e s)

/-- Looks at all rollouts in the order of their numbers. -/
def tick (settings : Settings) (now : Instant) (s : Store) : TickReport × Store :=
  (s.rolloutsOf none).foldl (visit settings now) (.zero, s)

end DeviceUpdate.Rollouts
