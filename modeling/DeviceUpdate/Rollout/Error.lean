import DeviceUpdate.Decimal.Written
import DeviceUpdate.Deployment.Error
import DeviceUpdate.Rollout.Record

/-! Why rollouts cannot be created or moved on. -/

namespace DeviceUpdate.Rollouts

/-- What is wrong with the definition of a rollout. -/
inductive DefinitionFault where
  | emptyName
  | noForcedTime
  | weight (given limit : Nat)
  /-- Both a number of groups and a list of groups are given. -/
  | amountAndGroups
  /-- Neither a number of groups nor a list of groups is given. -/
  | noPlan
  | tooManyGroups (count limit : Nat)
  | zeroAmount
  | noGroups
  | percentage (index : Nat) (given : Float)
  | groupTooLarge (size limit : Nat)
  deriving Repr

/-- The wording of a fault in a definition. -/
def DefinitionFault.message : DefinitionFault → String
  | emptyName => "name must not be empty"
  | noForcedTime => "time_forced requires forced_time"
  | weight given limit =>
    "weight " ++ Text.decimal given ++ " outside 0..=" ++ Text.decimal limit
  | amountAndGroups => "amount_groups and groups are mutually exclusive"
  | noPlan => "either amount_groups or groups is required"
  | tooManyGroups count limit =>
    Text.decimal count ++ " groups exceed the limit of " ++ Text.decimal limit
  | zeroAmount => "amount_groups must be positive"
  | noGroups => "at least one group is required"
  | percentage index given =>
    "group " ++ Text.decimal index ++ ": target_percentage " ++ Decimal.positional given ++
      " outside (0, 100]"
  | groupTooLarge size limit =>
    "group of " ++ Text.decimal size ++ " targets exceeds the limit of " ++ Text.decimal limit

/-- What is wrong with a target filter. -/
inductive FilterFault where
  | emptyFilter
  | emptyTerm
  /-- A term on an attribute has no value. -/
  | noValue (term : String)
  /-- A term on an attribute does not name it. -/
  | noKey (term : String)
  | noPatterns (term : String)
  deriving DecidableEq, Repr

/-- The wording of a fault in a filter. -/
def FilterFault.message : FilterFault → String
  | emptyFilter => "empty filter"
  | emptyTerm => "empty term"
  | noValue term => "expected attribute.<key>==<value> in '" ++ term ++ "'"
  | noKey term => "missing attribute key in '" ++ term ++ "'"
  | noPatterns term => "no patterns in '" ++ term ++ "'"

/-- What is wrong with a condition. -/
inductive ConditionFault where
  | notPercentage
  | above100
  deriving DecidableEq, Repr

/-- The wording of a fault in a condition. -/
def ConditionFault.message : ConditionFault → String
  | notPercentage => "not an integer percentage"
  | above100 => "percentage above 100"

/-- What an administrator does with a rollout. -/
inductive Operation where
  | start
  | pause
  | resume
  | stop
  | delete
  deriving DecidableEq, Repr

/-- The verb for an operation. -/
def Operation.name : Operation → String
  | start => "start"
  | pause => "pause"
  | resume => "resume"
  | stop => "stop"
  | delete => "delete"

/-- Why a rollout cannot be created or moved on. -/
inductive Error where
  | notFound (id : Nat)
  | setNotFound (id : Nat)
  | invalidDefinition (fault : DefinitionFault)
  | invalidFilter (filter : String) (fault : FilterFault)
  | invalidCondition (expression : String) (fault : ConditionFault)
  | invalidTransition (id : Nat) (status : RolloutStatus) (operation : Operation)
  | deploy (e : DeployError)
  deriving Repr

namespace Error

/-- The wording of an error. -/
def message : Error → String
  | notFound id => "rollout not found: " ++ Text.decimal id
  | setNotFound id => "distribution set not found: " ++ Text.decimal id
  | invalidDefinition fault => "invalid rollout definition: " ++ fault.message
  | invalidFilter filter fault =>
    "invalid target filter '" ++ filter ++ "': " ++ fault.message
  | invalidCondition expression fault =>
    "invalid condition expression '" ++ expression ++ "': " ++ fault.message
  | invalidTransition id status operation =>
    "cannot " ++ operation.name ++ " rollout " ++ Text.decimal id ++ " in status " ++ status.word
  | deploy e => e.message

/-- The category of an error. -/
def failure : Error → Failure
  | notFound _ | setNotFound _ => .notFound
  | invalidDefinition _ | invalidFilter _ _ | invalidCondition _ _ => .malformed
  | invalidTransition _ _ _ => .conflict
  | deploy e => e.failure

end Error

end DeviceUpdate.Rollouts
