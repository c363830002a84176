/-! Dates of the Gregorian calendar, extended in both directions, and their days since 1970. -/

namespace DeviceUpdate

/-- Whether a year has 366 days. -/
def isLeapYear (year : Int) : Bool :=
  year % 4 == 0 && (year % 100 != 0 || year % 400 == 0)

/-- The number of days of a month. -/
def daysInMonth (year : Int) (month : Nat) : Nat :=
  if month == 2 then (if isLeapYear year then 29 else 28)
  else if month == 4 || month == 6 || month == 9 || month == 11 then 30
  else 31

/-- A year, a month and a day of the month. -/
structure Date where
  year : Int
  month : Nat
  day : Nat
  deriving DecidableEq, Repr

namespace Date

/-- Whether the month and the day exist. -/
def isValid (d : Date) : Bool :=
  1 ≤ d.month && d.month ≤ 12 && 1 ≤ d.day && d.day ≤ daysInMonth d.year d.month

/-- Days in a cycle of 400 years. -/
def cycleDays : Int := 146097

/-- The day on which the reckoning of days starts, counted from the first of March of year zero. -/
def epochDay : Int := 719468

/-- The number of days from the first of January 1970 to a date. -/
def toDays (d : Date) : Int :=
  -- Years that start in March have their leap day at the end.
  let year := if d.month ≤ 2 then d.year - 1 else d.year
  let month := (d.month + 9) % 12
  let dayOfYear := (153 * month + 2) / 5 + d.day - 1
  let yearOfCycle := year % 400
  year / 400 * cycleDays + (yearOfCycle * 365 + yearOfCycle / 4 - yearOfCycle / 100 + dayOfYear) -
    epochDay

/-- The date a number of days after the first of January 1970. -/
def ofDays (days : Int) : Date :=
  let shifted := days + epochDay
  let cycle := shifted / cycleDays
  let dayOfCycle := (shifted % cycleDays).toNat
  let yearOfCycle :=
    (dayOfCycle - dayOfCycle / 1460 + dayOfCycle / 36524 - dayOfCycle / 146096) / 365
  let dayOfYear := dayOfCycle - (365 * yearOfCycle + yearOfCycle / 4 - yearOfCycle / 100)
  -- The lengths of the months from March on repeat after five of them, with 153 days.
  let month := (5 * dayOfYear + 2) / 153
  let day := dayOfYear - (153 * month + 2) / 5 + 1
  let year := cycle * 400 + yearOfCycle
  if month < 10 then ⟨year, month + 3, day⟩ else ⟨year + 1, month - 9, day⟩

/-- The day of the week, from 1 for Sunday to 7 for Saturday. -/
def weekday (days : Int) : Nat :=
  ((days + 4) % 7).toNat + 1

end Date

end DeviceUpdate
