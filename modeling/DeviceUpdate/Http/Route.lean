import DeviceUpdate.Http.Message
import DeviceUpdate.Text.Percent

/-! The resources of the server: the paths under which they are found, and their methods. -/

namespace DeviceUpdate.Http

/-- What a device asks about one of its actions. -/
inductive DeviceAction where
  | deployment
  | deploymentFeedback
  | installed
  | cancellation
  | cancellationFeedback
  deriving DecidableEq, Repr

/-- What an administrator asks about a target. -/
inductive TargetPart where
  | record
  | assignments
  | actions
  deriving DecidableEq, Repr

/-- What an administrator asks about an action. -/
inductive ActionPart where
  | record
  | history
  | cancel
  | rejectCancel
  deriving DecidableEq, Repr

/-- What an administrator asks about a rollout. -/
inductive RolloutPart where
  | record
  | groups
  | start
  | pause
  | resume
  | stop
  deriving DecidableEq, Repr

/-- A resource; the names and numbers in it are texts. -/
inductive Route where
  /-- What a device is to do. -/
  | poll (tenant controller : String)
  /-- What a device says of itself. -/
  | attributes (tenant controller : String)
  | device (tenant controller id : String) (part : DeviceAction)
  | sets (tenant : String)
  | set (tenant id : String)
  | targets (tenant : String)
  | target (tenant controller : String) (part : TargetPart)
  | action (tenant id : String) (part : ActionPart)
  | rollouts (tenant : String)
  | rollout (tenant id : String) (part : RolloutPart)
  deriving DecidableEq, Repr

namespace Route

/-- The resource of a device under the name of a device and these segments. -/
def ofDeviceSegments? (tenant controller : String) : List String → Option Route
  | [] => some (poll tenant controller)
  | ["configData"] => some (attributes tenant controller)
  | ["deploymentBase", id] => some (device tenant controller id .deployment)
  | ["deploymentBase", id, "feedback"] => some (device tenant controller id .deploymentFeedback)
  | ["installedBase", id] => some (device tenant controller id .installed)
  | ["cancelAction", id] => some (device tenant controller id .cancellation)
  | ["cancelAction", id, "feedback"] => some (device tenant controller id .cancellationFeedback)
  | _ => none

/-- The resource of an administrator under the name of a tenant and these segments. -/
def ofTenantSegments? (tenant : String) : List String → Option Route
  | ["distributionsets"] => some (sets tenant)
  | ["distributionsets", id] => some (set tenant id)
  | ["targets"] => some (targets tenant)
  | ["targets", controller] => some (target tenant controller .record)
  | ["targets", controller, "assignments"] => some (target tenant controller .assignments)
  | ["targets", controller, "actions"] => some (target tenant controller .actions)
  | ["actions", id] => some (action tenant id .record)
  | ["actions", id, "status"] => some (action tenant id .history)
  | ["actions", id, "cancel"] => some (action tenant id .cancel)
  | ["actions", id, "rejectCancel"] => some (action tenant id .rejectCancel)
  | ["rollouts"] => some (rollouts tenant)
  | ["rollouts", id] => some (rollout tenant id .record)
  | ["rollouts", id, "groups"] => some (rollout tenant id .groups)
  | ["rollouts", id, "start"] => some (rollout tenant id .start)
  | ["rollouts", id, "pause"] => some (rollout tenant id .pause)
  | ["rollouts", id, "resume"] => some (rollout tenant id .resume)
  | ["rollouts", id, "stop"] => some (rollout tenant id .stop)
  | _ => none

/-- The resource under these segments. -/
def ofSegments? : List String → Option Route
  | tenant :: "controller" :: "v1" :: controller :: rest =>
    ofDeviceSegments? tenant controller rest
  | "rest" :: "v1" :: tenant :: rest => ofTenantSegments? tenant rest
  | _ => none

/-- The segments of a path, which starts with a slash and does not end with one. -/
def segments? (path : String) : Option (List String) :=
  match (Text.splitOn '/' path.toList).map String.ofList with
  | "" :: segments => if segments.getLast? = some "" then none else some segments
  | _ => none

/-- The resource under a path, with the names in it as they stand there. -/
def ofPath? (path : String) : Option Route :=
  (segments? path).bind ofSegments?

/-- Whether a resource is for devices. -/
def isForDevices : Route → Bool
  | poll .. | attributes .. | device .. => true
  | _ => false

/-- The methods of a resource. -/
def methods : Route → List Method
  | poll .. => [.get, .head]
  | attributes .. => [.put]
  | device _ _ _ part =>
    match part with
    | .deployment | .installed | .cancellation => [.get, .head]
    | .deploymentFeedback | .cancellationFeedback => [.post]
  | sets _ | targets _ => [.post]
  | set .. => [.get, .head]
  | target _ _ part =>
    match part with
    | .record | .actions => [.get, .head]
    | .assignments => [.post]
  | action _ _ part =>
    match part with
    | .record | .history => [.get, .head]
    | .cancel | .rejectCancel => [.post]
  | rollouts _ => [.get, .head, .post]
  | rollout _ _ part =>
    match part with
    | .record => [.get, .head, .delete]
    | .groups => [.get, .head]
    | .start | .pause | .resume | .stop => [.post]

/-- The text that a name in a path spells, or the name of the part that spells no text. -/
def decodeSegment (part raw : String) : Except String String :=
  match Text.percentDecoded? raw.toList with
  | some text => .ok text
  | none => .error part

/-- The same resource with the texts that the names in its path spell, read from left to right. -/
def decode : Route → Except String Route
  -- Segments are decoded from the left, and the first one that is no text is the answer.
  | poll tenant controller => do
    pure (poll (← decodeSegment "tenant" tenant) (← decodeSegment "controller_id" controller))
  | attributes tenant controller => do
    pure (attributes (← decodeSegment "tenant" tenant)
      (← decodeSegment "controller_id" controller))
  | device tenant controller id part => do
    pure (device (← decodeSegment "tenant" tenant) (← decodeSegment "controller_id" controller)
      (← decodeSegment "action_id" id) part)
  | sets tenant => return sets (← decodeSegment "tenant" tenant)
  | set tenant id => do
    pure (set (← decodeSegment "tenant" tenant) (← decodeSegment "id" id))
  | targets tenant => return targets (← decodeSegment "tenant" tenant)
  | target tenant controller part => do
    pure (target (← decodeSegment "tenant" tenant) (← decodeSegment "controller_id" controller)
      part)
  | action tenant id part => do
    pure (action (← decodeSegment "tenant" tenant) (← decodeSegment "id" id) part)
  | rollouts tenant => return rollouts (← decodeSegment "tenant" tenant)
  | rollout tenant id part => do
    pure (rollout (← decodeSegment "tenant" tenant) (← decodeSegment "id" id) part)

theorem methods_ne_nil (r : Route) : r.methods ≠ [] := by
  -- Every resource has a method, whatever its part.
  cases r with
  | device _ _ _ part => cases part <;> simp [methods]
  | target _ _ part => cases part <;> simp [methods]
  | action _ _ part => cases part <;> simp [methods]
  | rollout _ _ part => cases part <;> simp [methods]
  | _ => simp [methods]

end Route

end DeviceUpdate.Http
