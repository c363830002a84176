import DeviceUpdate.Rollout.Error
import DeviceUpdate.Rollout.Tally

/-! Conditions: shares of the members of a group that must be reached. -/

namespace DeviceUpdate.Rollouts

/-- The percentage of a condition, which may be followed by a percent sign. -/
def percentage (c : Threshold) : Except Error Nat :=
  let raw := Text.trim c.expression.toList
  let digits := if raw.getLast? = some '%' then raw.dropLast else raw
  match Text.unsigned? (Nat.pow 2 64) (Text.trim digits) with
  | none => .error (.invalidCondition c.expression .notPercentage)
  | some percent =>
    if 100 < percent then .error (.invalidCondition c.expression .above100) else .ok percent

/-- Whether a count is at least a percentage of a total, multiplied out in 64 bits. It is assumed that
neither product outgrows them, as none does for numbers of 32 bits and percentages up to 100; a larger
product would stop the program, which is not told apart here. -/
def ratioReached (count total percent : Nat) : Bool :=
  percent * total % countLimit ≤ count * 100 % countLimit

/-- Whether enough members have finished. -/
def successReached (c : Threshold) (t : Tally) : Except Error Bool := do
  pure (ratioReached (t.count .finished) t.total (← percentage c))

/-- Whether enough members have failed, and at least one. -/
def errorReached (c : Threshold) (t : Tally) : Except Error Bool := do
  let percent ← percentage c
  let errors := t.count .error
  pure (0 < errors && ratioReached errors t.total percent)

end DeviceUpdate.Rollouts
