import DeviceUpdate.Action.Log
import DeviceUpdate.DistributionSet
import DeviceUpdate.Rollout.Record

/-! The store: the tables that hold all records, and what can be read from them. -/

namespace DeviceUpdate

/-- All records, with the tables that lead to them. -/
structure Store where
  /-- Targets by their keys. -/
  targets : Table String Target
  sets : Table Nat DistributionSet
  actions : Table Nat Action
  /-- The actions of targets: the key of a target and the number of an action. -/
  targetActions : Table (String × Nat) Unit
  /-- Log entries by action and position. -/
  log : Table (Nat × Nat) LogEntry
  rollouts : Table Nat Rollout
  groups : Table Nat RolloutGroup
  /-- The groups of rollouts by rollout and position. -/
  groupPositions : Table (Nat × Nat) Nat
  /-- The names of the members of groups by group and index. -/
  members : Table (Nat × Nat) String
  /-- The actions of groups: the number of a group and that of an action. -/
  groupActions : Table (Nat × Nat) Unit
  /-- The last numbers that were drawn, by the name of the sequence. -/
  sequences : Table String Nat
  deriving DecidableEq

namespace Store

/-- Nothing is stored. -/
def empty : Store :=
  ⟨.empty, .empty, .empty, .empty, .empty, .empty, .empty, .empty, .empty, .empty, .empty⟩

instance : Inhabited Store := ⟨empty⟩

/-- The second parts of the keys whose first part is given, in ascending order. -/
def keysUnder {κ α : Type} [Ord κ] [BEq κ] (t : Table (κ × Nat) α) (first : κ) : List Nat :=
  (t.keys.filter fun k => k.1 == first).map (·.2)

/-- The values of the keys whose first part is given, in ascending order of the second. -/
def valuesUnder {κ α : Type} [Ord κ] [BEq κ] (t : Table (κ × Nat) α) (first : κ) : List α :=
  (t.entries.filter fun e => e.1.1 == first).map (·.2)

/-- The target that is stored under the key of a tenant and a name. -/
def target? (s : Store) (tenant controller : String) : Option Target :=
  s.targets.get? (Target.keyOf tenant controller)

/-- The targets whose keys start with the name of a tenant and a slash. -/
def targetsOf (s : Store) (tenant : String) : List Target :=
  let start := (Target.keyOf tenant "").toList
  (s.targets.entries.filter fun e => start.isPrefixOf e.1.toList).map (·.2)

/-- A distribution set of a tenant. -/
def set? (s : Store) (tenant : String) (id : Nat) : Option DistributionSet :=
  (s.sets.get? id).filter fun d => d.tenant == tenant

/-- An action of a tenant. -/
def action? (s : Store) (tenant : String) (id : Nat) : Option Action :=
  (s.actions.get? id).filter fun a => a.tenant == tenant

/-- The actions that are listed under the key of a tenant and a name, oldest first. -/
def actionsOf (s : Store) (tenant controller : String) : List Action :=
  (keysUnder s.targetActions (Target.keyOf tenant controller)).filterMap s.actions.get?

/-- The log of an action, oldest first. -/
def logOf (s : Store) (action : Nat) : List LogEntry :=
  valuesUnder s.log action

/-- The number of log entries of an action from a source, or from all. -/
def countEntries (s : Store) (action : Nat) (source : Option Source) : Nat :=
  (s.logOf action).countP fun e => source.all (· == e.source)

/-- A rollout of a tenant. -/
def rollout? (s : Store) (tenant : String) (id : Nat) : Option Rollout :=
  (s.rollouts.get? id).filter fun r => r.tenant == tenant

/-- The rollouts of a tenant, or of all tenants. -/
def rolloutsOf (s : Store) (tenant : Option String) : List Rollout :=
  s.rollouts.values.filter fun r => tenant.all (· == r.tenant)

/-- The groups of a rollout in the order of their positions. -/
def groupsOf (s : Store) (rollout : Nat) : List RolloutGroup :=
  (valuesUnder s.groupPositions rollout).filterMap s.groups.get?

/-- The names of the members of a group. -/
def membersOf (s : Store) (group : Nat) : List String :=
  valuesUnder s.members group

/-- The actions of a group, oldest first. -/
def actionsOfGroup (s : Store) (group : Nat) : List Action :=
  (keysUnder s.groupActions group).filterMap s.actions.get?

/-- The latest deployment of a distribution set to a target. -/
def latestDeployment? (s : Store) (tenant controller : String) (set : Nat) : Option Action :=
  ((s.actionsOf tenant controller).filter fun a =>
    a.deployment?.any fun d => d.distributionSet == set).getLast?

/-- The covering deployments of members, given the group's own deployments not yet used. -/
def coverMembers (s : Store) (tenant : String) (set : Nat) :
    List String → List Action → List (Option Action)
  | [], _ => []
  | controller :: rest, own =>
    -- Of several deployments of the group to one member the latest counts.
    match (own.filter fun a => a.controller == controller).getLast? with
    | some a =>
      some a :: coverMembers s tenant set rest (own.filter fun a => a.controller != controller)
    -- The set may have come to the member by another way.
    | none => s.latestDeployment? tenant controller set :: coverMembers s tenant set rest own

/-- The deployment that covers each member of a group: its own, or else the latest of the set. -/
def memberActions (s : Store) (tenant : String) (group set : Nat) : List (Option Action) :=
  coverMembers s tenant set (s.membersOf group)
    ((s.actionsOfGroup group).filter fun a => !a.isCancel)

end Store

end DeviceUpdate
