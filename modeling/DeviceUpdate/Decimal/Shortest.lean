/-! The decimal number with the fewest digits that stands for a floating-point value. -/

namespace DeviceUpdate.Decimal

/-- The number `significand * 2 ^ exponent`. -/
structure Binary where
  significand : Nat
  exponent : Int
  deriving DecidableEq, Repr

/-- The number `digits * 10 ^ exponent`. -/
structure Scaled where
  digits : Nat
  exponent : Int
  deriving DecidableEq, Repr

/-- The magnitude of a finite value, exactly. -/
def magnitude (x : Float) : Binary :=
  let bits : Nat := x.toBits.toNat
  let biased : Nat := bits / Nat.pow 2 52 % Nat.pow 2 11
  let fraction : Nat := bits % Nat.pow 2 52
  -- The lowest exponent is shared with the values below the normal range.
  if biased = 0 then ⟨fraction, -1074⟩ else ⟨fraction + Nat.pow 2 52, (biased : Int) - 1075⟩

/-- Whether the sign of a value is set, that of zero included. -/
def isNegative (x : Float) : Bool :=
  x.toBits.toNat / Nat.pow 2 63 == 1

/-- The quotient of two exponentials: `2 ^ two / 10 ^ ten` as a numerator and a denominator. -/
def ratio (two ten : Int) : Nat × Nat :=
  (Nat.pow 2 two.toNat * Nat.pow 10 (-ten).toNat, Nat.pow 2 (-two).toNat * Nat.pow 10 ten.toNat)

/-- The multiple of `10 ^ ten` that reads back as the value and is nearest to it, if any is. -/
def onGrid? (b : Binary) (ten : Int) : Option Nat :=
  -- In quarters of the last binary place, the value and the midpoints to its neighbours are whole.
  let value := 4 * b.significand
  let high := value + 2
  -- Below a power of two the neighbour is only half as far away.
  let low := if b.significand = Nat.pow 2 52 ∧ -1074 < b.exponent then value - 1 else value - 2
  let (num, den) := ratio (b.exponent - 2) ten
  let inside (c : Nat) : Bool :=
    -- A midpoint reads back as the neighbour whose significand is even.
    if b.significand % 2 = 0 then low * num ≤ c * den && c * den ≤ high * num
    else low * num < c * den && c * den < high * num
  let below := value * num / den
  match decide (0 < below) && inside below, inside (below + 1) with
  | true, true =>
    -- Both candidates read back, so the nearer one is taken.
    let twice := 2 * value * num
    let middle := (2 * below + 1) * den
    if twice < middle || (twice == middle && below % 2 == 0) then some below else some (below + 1)
  | true, false => some below
  | false, true => some (below + 1)
  | false, false => none

/-- The first grid with a hit, from `10 ^ ten` to finer ones. -/
def search (b : Binary) (ten : Int) : Nat → Scaled
  | 0 => ⟨0, 0⟩
  | tries + 1 =>
    match onGrid? b ten with
    | some digits => ⟨digits, ten⟩
    | none => search b (ten - 1) tries

/-- The shortest decimal number that reads back as the magnitude of a finite value. -/
def shortest (x : Float) : Scaled :=
  let b := magnitude x
  if b.significand = 0 then ⟨0, 0⟩
  else
    -- Seventeen digits always suffice, and the first guess is at most two places too coarse.
    let guess := ((b.significand.log2 : Int) + b.exponent) * 30103 / 100000 + 1
    search b guess 21

end DeviceUpdate.Decimal
