/-! The stable categories of failures, by which callers decide what to do next. -/

namespace DeviceUpdate

/-- A category of failures. -/
inductive Failure where
  /-- A target, action, rollout or distribution set does not exist. -/
  | notFound
  /-- The action is closed. -/
  | gone
  /-- The input cannot be read or is out of range. -/
  | malformed
  /-- A limit against abuse was reached. -/
  | quotaExceeded
  /-- The request contradicts the current state. -/
  | conflict
  /-- The fault lies with the server. -/
  | internal
  deriving DecidableEq, Repr

namespace Failure

/-- The name of a category. -/
def name : Failure → String
  | notFound => "not_found"
  | gone => "gone"
  | malformed => "malformed"
  | quotaExceeded => "quota_exceeded"
  | conflict => "conflict"
  | internal => "internal"

/-- Whether the same request can succeed later. -/
def isRetryable : Failure → Bool
  | quotaExceeded | internal | conflict => true
  | _ => false

end Failure

end DeviceUpdate
