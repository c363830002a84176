import DeviceUpdate.Time.Calendar
import Mathlib.Data.Int.SuccPred
import Mathlib.Order.SuccPred.Basic
import Mathlib.Tactic.IntervalCases

/-! Dates and days determine each other, and come in the same order. -/

namespace DeviceUpdate.Date

section Years

/-- The days of a year that starts in March. -/
def yearLength (year : Int) : Int :=
  if isLeapYear (year + 1) then 366 else 365

/-- The days from the first of March of the year zero to that of another year. -/
def yearStart (year : Int) : Int :=
  365 * year + year / 4 - year / 100 + year / 400

/-- A year starts when the one before it is over. -/
theorem yearStart_succ (year : Int) :
    yearStart (year + 1) = yearStart year + yearLength year := by
  unfold yearStart yearLength isLeapYear
  simp only [Bool.and_eq_true, Bool.or_eq_true, beq_iff_eq, bne_iff_ne]
  split <;> omega

/-- All cycles of 400 years are alike. -/
theorem yearStart_cycle (cycle year : Int) :
    yearStart (cycle * 400 + year) = cycle * cycleDays + yearStart year := by
  unfold yearStart cycleDays
  omega

theorem yearLength_le (year : Int) : yearLength year ≤ 366 := by
  unfold yearLength
  split <;> decide

/-- Every day belongs to a year. -/
theorem exists_year (n : Nat) :
    ∃ y day : Nat, (n : Int) = yearStart y + day ∧ (day : Int) < yearLength y := by
  -- The days are counted one by one, so that years of both lengths are met in their order.
  induction n with
  | zero => exact ⟨0, 0, by decide⟩
  | succ n ih =>
    obtain ⟨y, day, same, below⟩ := ih
    by_cases last : (day + 1 : Int) < yearLength y
    · exact ⟨y, day + 1, by push_cast; omega, by push_cast; exact last⟩
    · -- The day after the last one of a year is the first one of the next.
      refine ⟨y + 1, 0, ?_, ?_⟩
      · have next := yearStart_succ y
        push_cast
        omega
      · unfold yearLength
        split <;> decide

/-- The year of a day in a cycle of 400 years is found by leaving the leap days before it out. -/
theorem yearOfCycle_eq {y day n : Nat} (cycle : y < 400) (below : (day : Int) < yearLength y)
    (place : (n : Int) = yearStart y + day) :
    (n - n / 1460 + n / 36524 - n / 146096) / 365 = y := by
  -- The year is one of four, in one of 25 such, in one of four centuries.
  obtain ⟨c, q, r, rfl, century, four, one⟩ :
      ∃ c q r, y = 100 * c + 4 * q + r ∧ c < 4 ∧ q < 25 ∧ r < 4 :=
    ⟨y / 100, y % 100 / 4, y % 4, by omega⟩
  have split : n = 36524 * c + 1461 * q + 365 * r + day := by
    unfold yearStart at place
    omega
  have leap : day < 365 ∨ day = 365 ∧ r = 3 ∧ (q < 24 ∨ c = 3) := by
    unfold yearLength isLeapYear at below
    simp only [Bool.and_eq_true, Bool.or_eq_true, beq_iff_eq, bne_iff_ne] at below
    split at below <;> omega
  rcases leap with short | ⟨rfl, rfl, last⟩
  · have fours : n / 1460 = 25 * c + q ∨ n / 1460 = 25 * c + q + 1 ∧ 1 ≤ day := by omega
    have centuries : n / 36524 = c := by omega
    have cycles : n / 146096 = 0 := by omega
    omega
  · have fours : n / 1460 = 25 * c + q + 1 := by omega
    -- The leap day at the end of a cycle counts as one of a fifth century.
    by_cases final : n = 146096
    · subst final
      obtain ⟨rfl, rfl⟩ : c = 3 ∧ q = 24 := by omega
      rfl
    · have centuries : n / 36524 = c := by omega
      have cycles : n / 146096 = 0 := by omega
      omega

end Years

section Months

/-- The number of the month of a date, counted from March of the year zero. -/
def monthIndex (d : Date) : Int :=
  12 * d.year + d.month - 3

/-- The days from the first of March of the year zero to the first of a month. -/
def monthStart (index : Int) : Int :=
  yearStart (index / 12) + (153 * (index % 12) + 2) / 5

theorem monthStart_mul_add (year : Int) {month : Nat} (h : month < 12) :
    monthStart (12 * year + month) = yearStart year + ((153 * month + 2) / 5 : Nat) := by
  have quotient : (12 * year + month) / 12 = year := by omega
  have remainder : (12 * year + month) % 12 = month := by omega
  rw [monthStart, quotient, remainder]
  push_cast
  rfl

/-- A month starts when the one before it is over. -/
theorem monthStart_succ {d : Date} (least : 1 ≤ d.month) (greatest : d.month ≤ 12) :
    monthStart (d.monthIndex + 1) = monthStart d.monthIndex + daysInMonth d.year d.month := by
  obtain ⟨year, month, day⟩ := d
  simp only [monthIndex] at least greatest ⊢
  by_cases february : month = 2
  · -- With February, a year that starts in March is over.
    subst february
    have year_eq : (12 * year + (2 : Nat) - 3 + 1) = 12 * year + (0 : Nat) := by omega
    have last_eq : (12 * year + (2 : Nat) - 3) = 12 * (year - 1) + (11 : Nat) := by omega
    have next := yearStart_succ (year - 1)
    rw [yearLength, Int.sub_add_cancel] at next
    rw [year_eq, last_eq, monthStart_mul_add _ (by decide), monthStart_mul_add _ (by decide), next]
    simp only [daysInMonth, beq_self_eq_true, if_true]
    split <;> omega
  -- All other months are followed by one of the same year, and their lengths are looked up.
  · have year_eq : (12 * year + month - 3 + 1) / 12 = (12 * year + month - 3) / 12 := by omega
    have here : (12 * year + month - 3) % 12 = ((month + 9) % 12 : Nat) := by omega
    have next : (12 * year + month - 3 + 1) % 12 = ((month + 10) % 12 : Nat) := by omega
    rw [monthStart, monthStart, year_eq, here, next, Int.add_assoc, Int.add_right_inj, daysInMonth]
    interval_cases month <;> first | rfl | exact absurd rfl february

/-- Later months start later. -/
theorem monthStart_le {index later : Int} (le : index ≤ later) :
    monthStart index ≤ monthStart later := by
  refine monotone_int_of_le_succ (fun index => ?_) le
  -- Any index is that of some date, of which the start of the next month is known.
  let d : Date := ⟨(index + 2) / 12, ((index + 2) % 12).toNat + 1, 1⟩
  have own : d.monthIndex = index := by
    simp only [d, monthIndex]
    omega
  have next := @monthStart_succ d (Nat.le_add_left 1 _) (by simp only [d]; omega)
  rw [own] at next
  omega

/-- The day of a date is counted from the first of its month. -/
theorem toDays_eq {d : Date} (least : 1 ≤ d.month) (greatest : d.month ≤ 12) (first : 1 ≤ d.day) :
    d.toDays = monthStart d.monthIndex + d.day - 1 - epochDay := by
  obtain ⟨year, month, day⟩ := d
  simp only [toDays, monthIndex] at least greatest first ⊢
  -- January and February belong to the year before.
  split
  · have own : 12 * year + month - 3 = 12 * (year - 1) + (month + 9 : Nat) := by omega
    rw [own, monthStart_mul_add _ (by omega), yearStart, cycleDays]
    omega
  · have own : 12 * year + month - 3 = 12 * year + (month - 3 : Nat) := by omega
    rw [own, monthStart_mul_add _ (by omega), yearStart, cycleDays]
    omega

end Months

section Days

/-- A date that exists. -/
theorem isValid_iff {d : Date} : d.isValid = true ↔
    1 ≤ d.month ∧ d.month ≤ 12 ∧ 1 ≤ d.day ∧ d.day ≤ daysInMonth d.year d.month := by
  simp only [isValid, Bool.and_eq_true, decide_eq_true_eq, and_assoc]

/-- The date of a day of a year that starts in March. -/
theorem ofDays_year {cycle n : Int} {y day : Nat} (short : y < 400)
    (below : (day : Int) < yearLength y)
    (place : n + epochDay = cycle * cycleDays + yearStart y + day) :
    ofDays n =
      let month := (5 * day + 2) / 153
      let ofMonth := day - (153 * month + 2) / 5 + 1
      if month < 10 then ⟨cycle * 400 + y, month + 3, ofMonth⟩
      else ⟨cycle * 400 + y + 1, month - 9, ofMonth⟩ := by
  -- The day lies in the first year of a cycle or later, and before the end of the cycle.
  have nonneg : 0 ≤ yearStart y := by
    unfold yearStart
    omega
  have within : yearStart y + day < cycleDays := by
    have next := yearStart_succ y
    unfold yearStart cycleDays at *
    omega
  -- So the cycle and the day in it are found by a division.
  have quotient : (n + epochDay) / cycleDays = cycle := by
    unfold cycleDays at *
    omega
  have remainder : (n + epochDay) % cycleDays = yearStart y + day := by
    unfold cycleDays at *
    omega
  have toNat : ((yearStart y + day).toNat : Int) = yearStart y + day := by omega
  -- What is left in the year is counted in blocks of five months.
  have ofYear : (yearStart y + day).toNat - (365 * y + y / 4 - y / 100) = day := by
    unfold yearStart at *
    omega
  simp only [ofDays, quotient, remainder, yearOfCycle_eq short below toNat, ofYear]

/-- The date of a day that belongs to a year and a month which are counted from March. -/
structure Reckoned (n year : Int) (day month : Nat) : Prop where
  place : n + epochDay = yearStart year + day
  below : (day : Int) < yearLength year
  own : month = (5 * day + 2) / 153
  index : (ofDays n).monthIndex = 12 * year + month
  least : 1 ≤ (ofDays n).month
  greatest : (ofDays n).month ≤ 12
  ofMonth : (ofDays n).day = day - (153 * month + 2) / 5 + 1

/-- Every day belongs to a year and a month that are counted from March. -/
theorem exists_reckoned (n : Int) : ∃ year day month, Reckoned n year day month := by
  obtain ⟨y, day, same, below⟩ := exists_year ((n + epochDay) % cycleDays).toNat
  have within : (n + epochDay) % cycleDays < cycleDays := Int.emod_lt_of_pos _ (by decide)
  have nonneg : 0 ≤ (n + epochDay) % cycleDays := Int.emod_nonneg _ (by decide)
  -- The days of a cycle do not suffice for more than four hundred years.
  have short : y < 400 := by
    unfold yearStart at same
    unfold cycleDays at *
    omega
  have place : n + epochDay = (n + epochDay) / cycleDays * cycleDays + yearStart y + day := by
    unfold cycleDays at *
    omega
  generalize (n + epochDay) / cycleDays = cycle at place
  -- Every cycle has the same years, so the year may be counted from its start.
  have start := yearStart_cycle cycle y
  have length : yearLength (cycle * 400 + y) = yearLength y := by
    have next := yearStart_cycle cycle (y + 1)
    rw [← Int.add_assoc, yearStart_succ, yearStart_succ] at next
    omega
  have days := yearLength_le y
  have date := ofDays_year short below place
  have parts : (ofDays n).monthIndex = 12 * (cycle * 400 + y) + ((5 * day + 2) / 153 : Nat) ∧
      1 ≤ (ofDays n).month ∧ (ofDays n).month ≤ 12 ∧
      (ofDays n).day = day - (153 * ((5 * day + 2) / 153) + 2) / 5 + 1 := by
    rw [date]
    -- January and February come last.
    by_cases early : (5 * day + 2) / 153 < 10
    · simp only [monthIndex, early, if_true, and_true]
      omega
    · simp only [monthIndex, early, if_false, and_true]
      omega
  obtain ⟨index, least, greatest, ofMonth⟩ := parts
  exact ⟨cycle * 400 + y, day, _, by omega, by omega, rfl, index, least, greatest, ofMonth⟩

/-- Every day has a date that exists, and it is the day of that date. -/
theorem ofDays_spec (n : Int) : (ofDays n).isValid = true ∧ (ofDays n).toDays = n := by
  obtain ⟨year, day, month, place, below, own, index, least, greatest, ofMonth⟩ :=
    exists_reckoned n
  have days := yearLength_le year
  -- The day is in the month that was found for it, and counted from one.
  have inside : month < 12 := by omega
  have positive : 1 ≤ (ofDays n).day := by omega
  have start := monthStart_mul_add year inside
  rw [← index] at start
  refine ⟨isValid_iff.mpr ⟨least, greatest, positive, ?_⟩, ?_⟩
  · have next := monthStart_succ least greatest
    -- The day comes before the next month starts, which may be one of the next year.
    have ahead : yearStart year + day < monthStart ((ofDays n).monthIndex + 1) := by
      by_cases last : month = 11
      · have new : (ofDays n).monthIndex + 1 = 12 * (year + 1) + (0 : Nat) := by omega
        rw [new, monthStart_mul_add _ (by decide), yearStart_succ]
        omega
      · have new : (ofDays n).monthIndex + 1 = 12 * year + (month + 1 : Nat) := by omega
        rw [new, monthStart_mul_add _ (by omega)]
        omega
    omega
  · rw [toDays_eq least greatest positive, start, ofMonth]
    omega

/-- Whether a date comes before another: by its month, and in that by its day. -/
def Earlier (d e : Date) : Prop :=
  d.monthIndex < e.monthIndex ∨ d.monthIndex = e.monthIndex ∧ d.day < e.day

/-- Dates of earlier years are earlier. -/
theorem earlier_of_year_lt {d e : Date} (valid : d.isValid = true) (other : e.isValid = true)
    (before : d.year < e.year) : d.Earlier e := by
  obtain ⟨-, greatest, -, -⟩ := isValid_iff.mp valid
  obtain ⟨least, -, -, -⟩ := isValid_iff.mp other
  left
  simp only [monthIndex]
  omega

/-- Earlier dates have earlier days. -/
theorem toDays_lt {d e : Date} (valid : d.isValid = true) (other : e.isValid = true)
    (earlier : d.Earlier e) : d.toDays < e.toDays := by
  obtain ⟨least, greatest, first, last⟩ := isValid_iff.mp valid
  obtain ⟨least', greatest', first', -⟩ := isValid_iff.mp other
  rw [toDays_eq least greatest first, toDays_eq least' greatest' first']
  -- Months are compared first, and a later month starts behind the whole of an earlier one.
  rcases earlier with before | ⟨same, before⟩
  · have next := monthStart_succ least greatest
    have begins := monthStart_le (Int.add_one_le_of_lt before)
    omega
  · rw [same]
    omega

/-- Of two dates that exist and differ, one is earlier. -/
theorem earlier_total {d e : Date} (valid : d.isValid = true) (other : e.isValid = true)
    (differs : d ≠ e) : d.Earlier e ∨ e.Earlier d := by
  obtain ⟨least, greatest, -, -⟩ := isValid_iff.mp valid
  obtain ⟨least', greatest', -, -⟩ := isValid_iff.mp other
  -- Dates of the same month and day are equal.
  unfold Earlier
  by_contra neither
  refine differs ?_
  obtain ⟨year, month, day⟩ := d
  obtain ⟨year', month', day'⟩ := e
  simp only [monthIndex] at *
  simp only [mk.injEq]
  omega

/-- A date that exists is the date of its day. -/
theorem ofDays_toDays {d : Date} (valid : d.isValid = true) : ofDays d.toDays = d := by
  obtain ⟨found, same⟩ := ofDays_spec d.toDays
  by_contra differs
  rcases earlier_total found valid differs with before | before
  · exact absurd (toDays_lt found valid before) (by omega)
  · exact absurd (toDays_lt valid found before) (by omega)

/-- A day of a year that is not before the year zero is not before the first day of that year. -/
theorem toDays_le_of_year {n : Int} (year : 0 ≤ (ofDays n).year) :
    toDays ⟨0, 1, 1⟩ ≤ n := by
  obtain ⟨valid, same⟩ := ofDays_spec n
  -- The last day of the year before comes earlier, and the first day is the next one.
  have last : (⟨-1, 12, 31⟩ : Date).isValid = true := by decide
  have before := toDays_lt last valid (earlier_of_year_lt last valid (by simp only; omega))
  have next : toDays ⟨0, 1, 1⟩ = toDays ⟨-1, 12, 31⟩ + 1 := by decide
  omega

/-- A day that is not before the first day of the year zero is of a year that is not before it. -/
theorem year_of_toDays_le {n : Int} (after : toDays ⟨0, 1, 1⟩ ≤ n) : 0 ≤ (ofDays n).year := by
  obtain ⟨valid, same⟩ := ofDays_spec n
  have first : (⟨0, 1, 1⟩ : Date).isValid = true := by decide
  by_contra negative
  have before := toDays_lt valid first (earlier_of_year_lt valid first (by simp only; omega))
  omega

end Days

end DeviceUpdate.Date
