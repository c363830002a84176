import DeviceUpdate.Decimal.Shortest

/-! The two ways in which shortest decimal numbers are written. -/

namespace DeviceUpdate.Decimal

/-- A text of zeros. -/
def zeros (n : Nat) : List Char :=
  List.replicate n '0'

/-- The sign of a value, written only when it is negative. -/
def sign (x : Float) : List Char :=
  if isNegative x then ['-'] else []

/-- The digits with a point after the first `whole` of them, padded with zeros on either side. -/
def pointed (digits : List Char) (whole : Int) : List Char :=
  if whole ≤ 0 then '0' :: '.' :: (zeros (-whole).toNat ++ digits)
  else
    let n := whole.toNat
    if digits.length ≤ n then digits ++ zeros (n - digits.length)
    else digits.take n ++ '.' :: digits.drop n

/-- All digits in positional notation, without a point when the value is whole. -/
def positional (x : Float) : String :=
  let s := shortest x
  let digits := Nat.toDigits 10 s.digits
  String.ofList (sign x ++ pointed digits (digits.length + s.exponent))

/-- Positional with a point from `1e-5` up to below `1e16`, and with an exponent elsewhere. -/
def balanced (x : Float) : String :=
  let s := shortest x
  let digits := Nat.toDigits 10 s.digits
  let whole : Int := digits.length + s.exponent
  let body :=
    if s.digits = 0 then ['0', '.', '0']
    -- Numbers of up to sixteen places before the point are written without an exponent.
    else if 0 ≤ s.exponent && whole ≤ 16 then pointed digits whole ++ ['.', '0']
    else if -5 < whole && whole ≤ 16 then pointed digits whole
    else
      -- The exponent counts the places behind the first digit.
      let exponent := 'e' :: (toString (whole - 1)).toList
      match digits with
      | [d] => d :: exponent
      | d :: rest => d :: '.' :: (rest ++ exponent)
      | [] => exponent
  String.ofList (sign x ++ body)

end DeviceUpdate.Decimal
