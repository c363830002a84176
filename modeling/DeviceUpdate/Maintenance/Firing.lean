import DeviceUpdate.Maintenance.Schedule
import DeviceUpdate.Time.Instant

/-! The seconds of local time at which a schedule fires. -/

namespace DeviceUpdate.Maintenance.Schedule

/-- Whether a schedule admits a day. -/
def admitsDay (s : Schedule) (d : Date) : Bool :=
  s.years.any (fun y => (y : Int) == d.year) && s.months.contains d.month &&
    s.days.contains d.day && s.weekdays.contains (Date.weekday d.toDays)

/-- Whether a schedule admits a second of a day. -/
def admitsTime (s : Schedule) (second : Nat) : Bool :=
  s.hours.contains (second / 3600) && s.minutes.contains (second % 3600 / 60) &&
    s.seconds.contains (second % 60)

/-- Whether a schedule fires at a second of local time. -/
def fires (s : Schedule) (second : Int) : Bool :=
  s.admitsDay (Date.ofDays (second / secondsPerDay)) &&
    s.admitsTime (second % secondsPerDay).toNat

/-- The first second of a day, from a given one on, that the schedule admits. -/
def timeFrom? (s : Schedule) (start : Nat) : Option Nat :=
  -- Hours and minutes that end before the start are passed over.
  s.hours.findSome? fun h =>
    if h * 3600 + 3599 < start then none
    else
      s.minutes.findSome? fun m =>
        if h * 3600 + m * 60 + 59 < start then none
        else
          (s.seconds.map fun second => h * 3600 + m * 60 + second).find? fun time => start ≤ time

/-- The first second of local time, from a given one on, that the days and times of a year admit. -/
def inYearFrom? (s : Schedule) (start : Int) (year : Nat) : Option Int :=
  s.months.findSome? fun month =>
    s.days.findSome? fun day =>
      let date : Date := ⟨year, month, day⟩
      -- Days that the month lacks and days that are over are passed over.
      let midnight := date.toDays * secondsPerDay
      if !date.isValid || !s.weekdays.contains (Date.weekday date.toDays) ||
          midnight + secondsPerDay ≤ start then none
      else (s.timeFrom? (start - midnight).toNat).map fun time => midnight + time

/-- The first second of local time, from a given one on, at which a schedule fires. -/
def firingFrom? (s : Schedule) (start : Int) : Option Int :=
  let year := (Date.ofDays (start / secondsPerDay)).year
  -- Years before the year zero are not searched from.
  if year < 0 then none
  else s.years.findSome? fun (y : Nat) => if (y : Int) < year then none else s.inYearFrom? start y

end DeviceUpdate.Maintenance.Schedule
