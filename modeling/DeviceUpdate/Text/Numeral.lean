/-! Decimal numerals: what counts as a number in a text, how numbers are written, and how the reading
of numbers can end. -/

namespace DeviceUpdate.Text

/-- A number was to be computed that its bits cannot hold. -/
inductive Overrun where
  | overrun
  deriving DecidableEq, Repr

/-- Why a text is not read. -/
inductive Unread (ε : Type) where
  /-- It is refused. -/
  | refused (e : ε)
  /-- A number in it leads to one that its bits cannot hold. -/
  | overrun
  deriving DecidableEq, Repr

/-- The same end, where it is told in another way why a text is refused. -/
def Unread.map {ε δ : Type} (f : ε → δ) : Unread ε → Unread δ
  | refused e => refused (f e)
  | overrun => overrun

/-- The reading of a text whose numbers have led to others. -/
def Unread.ofOverrun {ε α : Type} : Except Overrun α → Except (Unread ε) α
  | .ok a => .ok a
  | .error _ => .error .overrun

/-- One of the ten ASCII digits. -/
def isDigit (c : Char) : Bool :=
  '0' ≤ c && c ≤ '9'

/-- The value of an ASCII digit. -/
def digitValue (c : Char) : Nat :=
  c.toNat - '0'.toNat

/-- The value of a run of digits, leading zeros allowed. -/
def numeralValue (digits : List Char) : Nat :=
  digits.foldl (fun value c => value * 10 + digitValue c) 0

/-- A nonempty run of digits. -/
def isNumeral (cs : List Char) : Bool :=
  !cs.isEmpty && cs.all isDigit

/-- The value of a nonempty run of digits, of any length. -/
def natural? (cs : List Char) : Option Nat :=
  if isNumeral cs then some (numeralValue cs) else none

/-- A natural number below the limit, with at most one plus sign before its digits. -/
def unsigned? (limit : Nat) (cs : List Char) : Option Nat :=
  let digits := match cs with
    | '+' :: rest => rest
    | _ => cs
  (natural? digits).filter (· < limit)

/-- A whole number of at least `-limit` and below `limit`, with at most one sign. -/
def signed? (limit : Nat) (cs : List Char) : Option Int :=
  match cs with
  | '-' :: digits => ((natural? digits).filter (· ≤ limit)).map fun n => -(n : Int)
  | _ => (unsigned? limit cs).map Int.ofNat

/-- The decimal digits of a number. -/
def decimal (n : Nat) : String :=
  toString n

/-- The decimal digits of a number, with zeros in front up to the width. -/
def padded (width n : Nat) : String :=
  let digits := decimal n
  String.ofList (List.replicate (width - digits.length) '0') ++ digits

/-- The run of digits at the start of a text, and the rest. -/
def spanDigits (cs : List Char) : List Char × List Char :=
  (cs.takeWhile isDigit, cs.dropWhile isDigit)

/-- The value of a hexadecimal digit in either case. -/
def hexValue? (c : Char) : Option Nat :=
  if isDigit c then some (digitValue c)
  else if 'a' ≤ c && c ≤ 'f' then some (c.toNat - 'a'.toNat + 10)
  else if 'A' ≤ c && c ≤ 'F' then some (c.toNat - 'A'.toNat + 10)
  else none

/-- The value of a nonempty run of hexadecimal digits. -/
def hexNatural? (cs : List Char) : Option Nat :=
  if cs.isEmpty then none
  else cs.foldlM (fun value c => (hexValue? c).map (value * 16 + ·)) 0

/-- The hexadecimal digits of a number, with zeros in front up to the width. -/
def hexPadded (upper : Bool) (width n : Nat) : String :=
  let digits := (Nat.toDigits 16 n).map fun c => if upper then c.toUpper else c
  String.ofList (List.replicate (width - digits.length) '0' ++ digits)

end DeviceUpdate.Text
