/-! Recurring times: the values that each part of a date and a time may take. -/

namespace DeviceUpdate.Maintenance

/-- A part of a date and a time with the values it can take. -/
structure Part where
  /-- The smallest value. -/
  least : Nat
  /-- The largest value. -/
  greatest : Nat
  /-- The values that have names, in lower case. -/
  names : List (String × Nat)
  deriving DecidableEq, Repr

namespace Part

/-- Seconds of a minute. -/
def second : Part := ⟨0, 59, []⟩

/-- Minutes of an hour. -/
def minute : Part := ⟨0, 59, []⟩

/-- Hours of a day. -/
def hour : Part := ⟨0, 23, []⟩

/-- Days of a month. -/
def day : Part := ⟨1, 31, []⟩

/-- Months of a year. -/
def month : Part :=
  ⟨1, 12,
    [("jan", 1), ("january", 1), ("feb", 2), ("february", 2), ("mar", 3), ("march", 3),
      ("apr", 4), ("april", 4), ("may", 5), ("jun", 6), ("june", 6), ("jul", 7), ("july", 7),
      ("aug", 8), ("august", 8), ("sep", 9), ("september", 9), ("oct", 10), ("october", 10),
      ("nov", 11), ("november", 11), ("dec", 12), ("december", 12)]⟩

/-- Days of a week, which starts on Sunday. -/
def weekday : Part :=
  ⟨1, 7,
    [("sun", 1), ("sunday", 1), ("mon", 2), ("monday", 2), ("tue", 3), ("tues", 3),
      ("tuesday", 3), ("wed", 4), ("wednesday", 4), ("thu", 5), ("thurs", 5), ("thursday", 5),
      ("fri", 6), ("friday", 6), ("sat", 7), ("saturday", 7)]⟩

/-- Years. -/
def year : Part := ⟨1970, 2100, []⟩

/-- All values in ascending order. -/
def all (p : Part) : List Nat :=
  (List.range (p.greatest + 1)).drop p.least

/-- Whether a value is one of the part. -/
def admits (p : Part) (n : Nat) : Bool :=
  p.least ≤ n && n ≤ p.greatest

end Part

/-- The values each part may take, in ascending order; a time fires when all its parts may. -/
structure Schedule where
  seconds : List Nat
  minutes : List Nat
  hours : List Nat
  days : List Nat
  months : List Nat
  weekdays : List Nat
  years : List Nat
  deriving DecidableEq, Repr

end DeviceUpdate.Maintenance
