import DeviceUpdate.Action.Status
import DeviceUpdate.Json.Record

/-! Counts of the members of groups by the state of their deployments. -/

namespace DeviceUpdate.Rollouts

/-- The coarse state of a member. -/
inductive MemberState where
  /-- No deployment covers the member. -/
  | notStarted
  | scheduled
  | running
  | finished
  | error
  | cancelled
  deriving DecidableEq, Repr

namespace MemberState

/-- Every state. -/
def all : List MemberState :=
  [notStarted, scheduled, running, finished, error, cancelled]

/-- The name of a state in documents. -/
def name : MemberState → String
  | notStarted => "not_started"
  | scheduled => "scheduled"
  | running => "running"
  | finished => "finished"
  | error => "error"
  | cancelled => "cancelled"

/-- The state of a member whose deployment has a status. -/
def ofStatus : Status → MemberState
  | .finished => finished
  | .error => error
  | .canceled => cancelled
  | .scheduled => scheduled
  -- Whatever is on its way counts as running, and so does a pending cancellation.
  | _ => running

end MemberState

/-- One more than the largest count. -/
def countLimit : Nat := Nat.pow 2 64

/-- The counts of some members; a state without an entry does not occur. -/
structure Tally where
  total : Nat
  entry : MemberState → Option Nat

namespace Tally

/-- No members. -/
def empty : Tally :=
  ⟨0, fun _ => none⟩

/-- The entry of a state that occurs so many times. -/
def entryOf (n : Nat) : Option Nat :=
  if n = 0 then none else some n

/-- Counts members by the statuses of the deployments that cover them; the rest is not started. -/
def ofMembers (total : Nat) (members : List (Option Status)) : Tally where
  total := total
  entry state :=
    let states := (members.filterMap id).map MemberState.ofStatus
    -- Members without a deployment are counted as what the others leave.
    if state = .notStarted then entryOf (total - states.length) else entryOf (states.count state)

/-- The number of members in a state. -/
def count (t : Tally) (state : MemberState) : Nat :=
  (t.entry state).getD 0

/-- Whether no deployment is in flight; members that were never started do not count. -/
def isComplete (t : Tally) : Bool :=
  t.count .scheduled == 0 && t.count .running == 0

/-- The sum of two entries, counted in 64 bits. It is assumed not to outgrow them, as no count of
stored targets does; a larger sum would stop the program, which is not told apart here. -/
def addEntries : Option Nat → Option Nat → Option Nat
  | a, none => a
  | none, some n => some n
  | some m, some n => some ((m + n) % countLimit)

/-- The counts of the members of both, where all sums are assumed to have 64 bits, as for entries. -/
def merge (a b : Tally) : Tally where
  total := (a.total + b.total) % countLimit
  entry state := addEntries (a.entry state) (b.entry state)

/-- The record of the counts. -/
def toJson (t : Tally) : Json :=
  .object [("total", .natural t.total),
    ("counts", .object (MemberState.all.filterMap fun state =>
      (t.entry state).map fun n => (state.name, .natural n)))]

end Tally

end DeviceUpdate.Rollouts
