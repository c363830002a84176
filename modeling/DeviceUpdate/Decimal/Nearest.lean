import DeviceUpdate.Decimal.Reading

/-! The floating-point value nearest to a decimal number, found exactly. -/

namespace DeviceUpdate.Decimal

/-- The whole number nearest to a quotient; a tie goes to the even one. -/
def nearestWhole (num den : Nat) : Nat :=
  let floor := num / den
  let rest := 2 * (num % den)
  if rest < den || (rest == den && floor % 2 == 0) then floor else floor + 1

/-- The greatest `e` with `2 ^ e` at most a quotient. -/
def binaryOrder (num den : Nat) : Int :=
  -- The lengths of both numbers leave two candidates, of which the higher is tried.
  let guess : Int := (num.log2 : Int) - den.log2
  if num * Nat.pow 2 (-guess).toNat < den * Nat.pow 2 guess.toNat then guess - 1 else guess

/-- The exponent of the last binary place of the values around a quotient. -/
def lastPlace (num den : Nat) : Int :=
  max (binaryOrder num den - 52) (-1074)

/-- The bits of the value nearest to a positive quotient, as if there were no greatest value. -/
def nearestBits (num den : Nat) : Nat :=
  let place := lastPlace num den
  -- The leading binary digit of a normal value adds one to the exponent that stands above it.
  (place + 1074).toNat * Nat.pow 2 52 +
    nearestWhole (num * Nat.pow 2 (-place).toNat) (den * Nat.pow 2 place.toNat)

/-- The bits from which on a value is infinite. -/
def infiniteBits : Nat :=
  2047 * Nat.pow 2 52

/-- The value nearest to `digits * 10 ^ exponent`; none when it would be infinite. -/
def nearest? (digits : Nat) (exponent : Int) : Option Float :=
  -- The number is below `10 ^ order` and not below a tenth of that.
  let order : Int := (Nat.toDigits 10 digits).length + exponent
  -- So small a number is below half of the least value, and so large a one infinite.
  if digits = 0 || order < -330 then some 0
  else if 310 < order then none
  else
    let bits := nearestBits (digits * Nat.pow 10 exponent.toNat) (Nat.pow 10 (-exponent).toNat)
    if bits < infiniteBits then some (Float.ofBits bits.toUInt64) else none

/-- The value nearest to a number; none when it would be infinite. -/
def Parts.nearest? (p : Parts) : Option Float :=
  let fraction := p.fraction.getD []
  let magnitude := Decimal.nearest? (Text.numeralValue (p.whole ++ fraction))
    (p.writtenExponent - fraction.length)
  magnitude.map fun x => if p.negative then -x else x

end DeviceUpdate.Decimal
