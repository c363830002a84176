import DeviceUpdate.Rollout.Error

/-! Division of the targets of a rollout into groups. -/

namespace DeviceUpdate.Rollouts

/-- A group of a given size. -/
structure GroupShare where
  name : Option String
  /-- The share of the targets that no group before has taken. -/
  percentage : Float
  /-- The condition in place of the common one of the rollout. -/
  success : Option Threshold
  failure : Option Threshold
  deriving Repr

namespace GroupShare

/-- The record of a group. -/
def toJson (g : GroupShare) : Json :=
  .object [("name", .ofText? g.name), ("target_percentage", .float g.percentage),
    ("success_condition", .ofOption Threshold.toJson g.success),
    ("error_condition", .ofOption Threshold.toJson g.failure)]

/-- Reads the record of a group. -/
def ofJson? (j : Json) : Option GroupShare := do
  let r ← Json.Record.read?
    ["name", "target_percentage", "success_condition", "error_condition"] j
  pure {
    name := ← r.defaulted "name" (Json.nullable Json.text?) none
    percentage := ← r.required "target_percentage" Json.number?
    success := ← r.defaulted "success_condition" (Json.nullable Threshold.ofJson?) none
    failure := ← r.defaulted "error_condition" (Json.nullable Threshold.ofJson?) none }

end GroupShare

/-- How targets are divided. -/
inductive Plan where
  /-- So many groups, whose sizes differ by at most one. -/
  | amount (n : Nat)
  /-- These groups, of which the last takes what is left. -/
  | shares (groups : List GroupShare)

/-- The number of groups of a plan. -/
def Plan.groupCount : Plan → Nat
  | amount n => n
  | shares groups => groups.length

/-- The bounds of a division. -/
structure Limits where
  maxGroups : Nat
  maxTargets : Nat
  deriving DecidableEq, Repr

/-- The targets in ascending order, each once. -/
def distinct (targets : List String) : List String :=
  (targets.mergeSort fun a b => decide (a ≤ b)).eraseReps

/-- Sizes that differ by at most one, the larger first. -/
def evenSizes (total groups : Nat) : List Nat :=
  (List.range groups).map fun i => total / groups + if i < total % groups then 1 else 0

/-- The size of a group that takes a percentage of what is left, rounded up. -/
def shareSize (percentage : Float) (left : Nat) : Nat :=
  min (percentage * left.toUInt64.toFloat / 100).ceil.toUInt64.toNat left

/-- The sizes of groups from a position on, given how many targets are left. -/
def shareSizes (left position : Nat) : List GroupShare → Except Error (List Nat)
  | [] => .ok []
  | g :: rest =>
    -- A share that is not a number fails both comparisons.
    if 0 < g.percentage && g.percentage ≤ 100 then do
      -- Rounding leaves nothing behind, since the last group takes all.
      let size := if rest.isEmpty then left else shareSize g.percentage left
      let sizes ← shareSizes (left - size) (position + 1) rest
      pure (size :: sizes)
    else .error (.invalidDefinition (.percentage position g.percentage))

/-- The sizes of the groups of a plan. -/
def Plan.sizes (total : Nat) : Plan → Except Error (List Nat)
  | amount 0 => .error (.invalidDefinition .zeroAmount)
  | amount n => .ok (evenSizes total n)
  | shares [] => .error (.invalidDefinition .noGroups)
  | shares groups => shareSizes total 0 groups

/-- Consecutive pieces of a list with the given sizes. -/
def pieces {α : Type} : List Nat → List α → List (List α)
  | [], _ => []
  | size :: sizes, items => items.take size :: pieces sizes (items.drop size)

/-- Divides targets into groups. -/
def partition (targets : List String) (plan : Plan) (limits : Limits) :
    Except Error (List (List String)) := do
  if limits.maxGroups < plan.groupCount then
    throw (.invalidDefinition (.tooManyGroups plan.groupCount limits.maxGroups))
  -- Duplicates would be members of two groups.
  let targets := distinct targets
  let sizes ← plan.sizes targets.length
  match sizes.find? fun size => limits.maxTargets < size with
  | some size => throw (.invalidDefinition (.groupTooLarge size limits.maxTargets))
  | none => pure (pieces sizes targets)

end DeviceUpdate.Rollouts
