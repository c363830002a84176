import DeviceUpdate.Text.Numeral

/-! Numbers in JSON notation: their grammar, and the value that a text stands for. -/

namespace DeviceUpdate.Decimal

/-- The parts of a number as they are written. -/
structure Parts where
  /-- Whether a minus sign stands in front. -/
  negative : Bool
  /-- The digits before the point. -/
  whole : List Char
  /-- The digits after the point, if there is one. -/
  fraction : Option (List Char)
  /-- The sign and the digits of the exponent, if there is one. -/
  exponent : Option (Bool × List Char)
  deriving DecidableEq, Repr

/-- What a number stands for. -/
inductive Value where
  /-- A whole number of 64 bits, signed or unsigned. -/
  | integer (n : Int)
  /-- Any other number in range. -/
  | float (x : Float)
  deriving Repr

/-- The exponent at the start of a text, and the rest. -/
def readExponent? : List Char → Option (Option (Bool × List Char) × List Char)
  | c :: rest =>
    if c == 'e' || c == 'E' then
      let (negative, rest) := match rest with
        | '-' :: tail => (true, tail)
        | '+' :: tail => (false, tail)
        | _ => (false, rest)
      match Text.spanDigits rest with
      -- An exponent without digits makes the whole no number.
      | ([], _) => none
      | (digits, tail) => some (some (negative, digits), tail)
    else some (none, c :: rest)
  | [] => some (none, [])

/-- Takes a whole text apart; a leading zero stands alone before the point. -/
def Parts.read? (cs : List Char) : Option Parts :=
  let (negative, rest) := match cs with
    | '-' :: tail => (true, tail)
    | _ => (false, cs)
  match Text.spanDigits rest with
  -- A number has a digit before its point, and no zero in front of others.
  | ([], _) | ('0' :: _ :: _, _) => none
  | (whole, rest) => do
    let (fraction, rest) ← match rest with
      | '.' :: tail =>
        match Text.spanDigits tail with
        | ([], _) => none
        | (digits, tail) => some (some digits, tail)
      | _ => some (none, rest)
    match ← readExponent? rest with
    | (exponent, []) => some ⟨negative, whole, fraction, exponent⟩
    | _ => none

/-- The exponent as it is written. -/
def Parts.writtenExponent (p : Parts) : Int :=
  match p.exponent with
  | none => 0
  | some (negative, digits) =>
    let n : Int := Text.numeralValue digits
    if negative then -n else n

/-- Takes in digits while the value fits 64 bits; the digits left over are returned. -/
def accumulate (value : Nat) : List Char → Nat × List Char
  | [] => (value, [])
  | c :: rest =>
    let next := value * 10 + Text.digitValue c
    if next < Nat.pow 2 64 then accumulate next rest else (value, c :: rest)

/-- A power of ten, rounded to the nearest value. -/
def powerOfTen (n : Nat) : Float :=
  Float.ofScientific 1 false n

/-- `significand * 10 ^ exponent` in at most a few rounded steps; none when it is out of range. -/
def scale? (significand : Nat) (exponent : Int) : Option Float :=
  let x := significand.toUInt64.toFloat
  if 0 ≤ exponent then
    if 308 < exponent then (if significand = 0 then some x else none)
    else
      -- The product is rounded once more, and it may be infinite.
      let scaled := x * powerOfTen exponent.toNat
      if scaled.isInf then none else some scaled
  else
    let places := (-exponent).toNat
    -- Every full step divides by the largest table entry, and three of them leave nothing.
    let steps := (places - 1) / 308
    let shrunk := (List.range (min steps 3)).foldl (fun y _ => y / powerOfTen 308) x
    some (shrunk / powerOfTen (places - 308 * steps))

/-- The value of a number with a point, an exponent, or more than 64 bits. -/
def Parts.float? (p : Parts) : Option Float :=
  let (whole, ignored) := accumulate 0 p.whole
  -- Digits of the whole part that no longer fit count as places; those of the fraction do not.
  let (significand, places) := match p.fraction with
    | none => (whole, (ignored.length : Int))
    | some digits =>
      let (all, rest) := accumulate whole digits
      (all, (ignored.length : Int) - (digits.length - rest.length : Nat))
  (scale? significand (places + p.writtenExponent)).map fun x => if p.negative then -x else x

/-- The value of a number; negative zero is a float. -/
def Parts.value? (p : Parts) : Option Value :=
  match p.fraction, p.exponent with
  | none, none =>
    let n := Text.numeralValue p.whole
    -- The signed numbers reach further down than zero, the unsigned ones further up.
    if p.negative && 0 < n && n ≤ Nat.pow 2 63 then some (.integer (-(n : Int)))
    else if !p.negative && n < Nat.pow 2 64 then some (.integer n)
    else p.float?.map .float
  | _, _ => p.float?.map .float

end DeviceUpdate.Decimal
