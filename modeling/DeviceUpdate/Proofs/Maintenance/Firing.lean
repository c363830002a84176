import DeviceUpdate.Maintenance.Firing
import DeviceUpdate.Proofs.Time.Calendar

/-! The search for the next firing of a schedule finds the first one. -/

namespace DeviceUpdate.Maintenance

section Search

variable {α β : Type} [LE α] [LT β] {p q : α → Prop} {l : List β}

/-- A search has found the first of what it looks for, or there is none. -/
def IsFirst (p : α → Prop) : Option α → Prop
  | some x => p x ∧ ∀ y, p y → x ≤ y
  | none => ∀ y, ¬ p y

/-- A search that leaves out what need not be searched finds nothing there. -/
theorem IsFirst.ite {skip : Prop} [Decidable skip] {found : Option α}
    (empty : skip → ∀ x, ¬ p x) (search : ¬ skip → IsFirst p found) :
    IsFirst p (if skip then none else found) := by
  by_cases skipped : skip
  · rw [if_pos skipped]
    exact empty skipped
  · rw [if_neg skipped]
    exact search skipped

theorem IsFirst.congr {found : Option α} (first : IsFirst p found) (same : ∀ x, p x ↔ q x) :
    IsFirst q found := by
  rwa [← funext fun x => propext (same x)]

/-- A search that finds nothing has nothing to find. -/
theorem IsFirst.isNone_iff {found : Option α}
    (first : IsFirst p found) : found.isNone = true ↔ ¬ ∃ x, p x := by
  cases found with
  | none => exact ⟨fun _ ⟨x, holds⟩ => first x holds, fun _ => rfl⟩
  | some x => exact ⟨fun none => (by cases none), fun none => absurd ⟨x, first.1⟩ none⟩

/-- Where all that belongs to one part comes before all that belongs to a later one, the parts can
be searched one after the other. -/
theorem IsFirst.findSome? {p : β → α → Prop} {f : β → Option α} (ascending : l.Pairwise (· < ·))
    (each : ∀ b ∈ l, IsFirst (p b) (f b))
    (ordered : ∀ b ∈ l, ∀ c ∈ l, b < c → ∀ x y, p b x → p c y → x ≤ y) :
    IsFirst (fun x => ∃ b ∈ l, p b x) (l.findSome? f) := by
  -- The list is passed through in ascending order, so the first hit is the least one.
  induction l with
  | nil => simp [IsFirst]
  | cons b l ih =>
    obtain ⟨before, rest⟩ := List.pairwise_cons.mp ascending
    have here := each b List.mem_cons_self
    cases found : f b with
    | some x =>
      rw [List.findSome?_cons, found]
      rw [found] at here
      refine ⟨⟨b, List.mem_cons_self, here.1⟩, fun y ⟨c, member, holds⟩ => ?_⟩
      rcases List.mem_cons.mp member with rfl | later
      · exact here.2 y holds
      · exact ordered b List.mem_cons_self c member (before c later) x y here.1 holds
    -- Nothing that holds belongs to the element passed over.
    | none =>
      rw [List.findSome?_cons, found]
      rw [found] at here
      refine (ih rest (fun c member => each c (List.mem_cons_of_mem _ member))
        fun c member d later => ordered c (List.mem_cons_of_mem _ member) d
          (List.mem_cons_of_mem _ later)).congr fun x => ?_
      simp [here x]

/-- In ascending values, the first one that will do is the least. -/
theorem IsFirst.find? {l : List Nat} (ascending : l.Pairwise (· < ·)) (start : Nat) :
    IsFirst (fun x => start ≤ x ∧ x ∈ l) (l.find? fun x => start ≤ x) := by
  induction l with
  | nil => simp [IsFirst]
  | cons a l ih =>
    obtain ⟨before, rest⟩ := List.pairwise_cons.mp ascending
    by_cases here : start ≤ a
    · rw [List.find?_cons_of_pos (by simpa using here)]
      refine ⟨⟨here, List.mem_cons_self⟩, fun y ⟨_, member⟩ => ?_⟩
      rcases List.mem_cons.mp member with rfl | later
      · exact le_rfl
      · exact (before y later).le
    -- An element before the start is no candidate, and the others are searched as before.
    · rw [List.find?_cons_of_neg (by simpa using here)]
      refine (ih rest).congr fun x => and_congr_right fun reached => ?_
      have other : x ≠ a := by rintro rfl; exact here reached
      simp [other]

/-- What is found from a later origin on is found from there. -/
theorem IsFirst.map {found : Option Nat} {p : Nat → Prop} {q : Int → Prop} (origin : Int)
    (first : IsFirst p found) (holds : ∀ n, p n → q (origin + n))
    (only : ∀ x, q x → ∃ n, p n ∧ x = origin + n) :
    IsFirst q (found.map fun n => origin + (n : Int)) := by
  cases found with
  | none =>
    intro x holds
    obtain ⟨n, here, -⟩ := only x holds
    exact first n here
  | some n =>
    refine ⟨holds n first.1, fun x here => ?_⟩
    obtain ⟨m, other, rfl⟩ := only x here
    have least : n ≤ m := first.2 m other
    exact Int.add_le_add_left (Int.ofNat_le.mpr least) origin

end Search

namespace Schedule

/-- Values of a part, each once and in ascending order. -/
structure Fits (p : Part) (values : List Nat) : Prop where
  ascending : values.Pairwise (· < ·)
  admits : ∀ n ∈ values, p.admits n = true

/-- A schedule as it is read from an expression; days of the week are looked up in any order. -/
structure Ordered (s : Schedule) : Prop where
  seconds : Fits .second s.seconds
  minutes : Fits .minute s.minutes
  hours : Fits .hour s.hours
  days : Fits .day s.days
  months : Fits .month s.months
  years : Fits .year s.years

variable {s : Schedule}

theorem Fits.le {p : Part} {values : List Nat} (fits : Fits p values) {n : Nat}
    (member : n ∈ values) : n ≤ p.greatest := by
  have within := fits.admits n member
  simp only [Part.admits, Bool.and_eq_true, decide_eq_true_eq] at within
  exact within.2

section Times

/-- The times of day that a schedule admits are put together of its parts. -/
theorem Ordered.admitsTime_iff (ordered : s.Ordered) {x : Nat} : s.admitsTime x = true ↔
    ∃ h ∈ s.hours, ∃ m ∈ s.minutes, ∃ second ∈ s.seconds, x = h * 3600 + m * 60 + second := by
  simp only [admitsTime, Bool.and_eq_true, List.contains_iff_mem]
  -- A time of day is its hours, minutes and seconds, and it determines them.
  constructor
  · rintro ⟨⟨hour, minute⟩, second⟩
    exact ⟨_, hour, _, minute, _, second, by omega⟩
  · rintro ⟨h, hour, m, minute, n, second, rfl⟩
    have m_le : m ≤ 59 := ordered.minutes.le minute
    have n_le : n ≤ 59 := ordered.seconds.le second
    have h_eq : (h * 3600 + m * 60 + n) / 3600 = h := by omega
    have m_eq : (h * 3600 + m * 60 + n) % 3600 / 60 = m := by omega
    have n_eq : (h * 3600 + m * 60 + n) % 60 = n := by omega
    rw [h_eq, m_eq, n_eq]
    exact ⟨⟨hour, minute⟩, second⟩

/-- From a base on, the first of the values that reaches a start is the least. -/
theorem Fits.find?_isFirst {p : Part} {values : List Nat} (fits : Fits p values)
    (base start : Nat) : IsFirst (fun x => start ≤ x ∧ ∃ n ∈ values, x = base + n)
      ((values.map fun n => base + n).find? fun time => start ≤ time) := by
  have ascending : (values.map fun n => base + n).Pairwise (· < ·) :=
    fits.ascending.map _ fun a b less => Nat.add_lt_add_left less base
  refine (IsFirst.find? ascending start).congr fun x => ?_
  simp only [List.mem_map, eq_comm]

/-- The search for a time of day finds the first one. -/
theorem Ordered.timeFrom?_isFirst (ordered : s.Ordered) (start : Nat) :
    IsFirst (fun x => start ≤ x ∧ s.admitsTime x = true) (s.timeFrom? start) := by
  have searched : IsFirst (fun x => ∃ h ∈ s.hours, ∃ m ∈ s.minutes, start ≤ x ∧
      ∃ n ∈ s.seconds, x = h * 3600 + m * 60 + n) (s.timeFrom? start) := by
    -- Hours and minutes are passed over only if all of their seconds are.
    refine IsFirst.findSome? ordered.hours.ascending (fun h _ => ?_) ?_
    · refine IsFirst.ite (fun skipped x ⟨m, minute, reached, n, second, same⟩ => ?_) fun _ => ?_
      · have m_le : m ≤ 59 := ordered.minutes.le minute
        have n_le : n ≤ 59 := ordered.seconds.le second
        omega
      refine IsFirst.findSome? ordered.minutes.ascending (fun m _ => ?_) ?_
      · refine IsFirst.ite (fun skipped x ⟨reached, n, second, same⟩ => ?_) fun _ =>
          ordered.seconds.find?_isFirst (h * 3600 + m * 60) start
        have n_le : n ≤ 59 := ordered.seconds.le second
        omega
      · rintro m - m' - less x y ⟨-, n, second, rfl⟩ ⟨-, n', -, rfl⟩
        have n_le : n ≤ 59 := ordered.seconds.le second
        omega
    · rintro h - h' - less x y ⟨m, minute, -, n, second, rfl⟩ ⟨m', -, -, n', -, rfl⟩
      have m_le : m ≤ 59 := ordered.minutes.le minute
      have n_le : n ≤ 59 := ordered.seconds.le second
      omega
  -- Listing by hours, minutes and seconds is the same as admitting the time.
  refine searched.congr fun x => ?_
  rw [ordered.admitsTime_iff]
  constructor
  · rintro ⟨h, hour, m, minute, reached, n, second, same⟩
    exact ⟨reached, h, hour, m, minute, n, second, same⟩
  · rintro ⟨reached, h, hour, m, minute, n, second, same⟩
    exact ⟨h, hour, m, minute, reached, n, second, same⟩

/-- A time of day is one of a day. -/
theorem Ordered.lt_of_admitsTime (ordered : s.Ordered) {x : Nat} (admits : s.admitsTime x = true) :
    x < 86400 := by
  obtain ⟨h, hour, m, minute, n, second, rfl⟩ := ordered.admitsTime_iff.mp admits
  have h_le : h ≤ 23 := ordered.hours.le hour
  have m_le : m ≤ 59 := ordered.minutes.le minute
  have n_le : n ≤ 59 := ordered.seconds.le second
  omega

end Times

section Dates

/-- A second of local time on a date, from a given one on, that the schedule admits. -/
structure FiresOn (s : Schedule) (start : Int) (date : Date) (x : Int) : Prop where
  reached : start ≤ x
  valid : date.isValid = true
  day : x / secondsPerDay = date.toDays
  weekday : s.weekdays.contains (Date.weekday date.toDays) = true
  time : s.admitsTime (x % secondsPerDay).toNat = true

/-- On earlier dates a schedule fires earlier. -/
theorem FiresOn.lt {start x y : Int} {d e : Date} (first : s.FiresOn start d x)
    (second : s.FiresOn start e y) (earlier : d.Earlier e) : x < y := by
  have days := Date.toDays_lt first.valid second.valid earlier
  rw [← first.day, ← second.day] at days
  unfold secondsPerDay at days
  omega

/-- The search through a date finds the first second at which the schedule fires on it. -/
theorem Ordered.onDate_isFirst (ordered : s.Ordered) (start : Int) (date : Date) :
    IsFirst (s.FiresOn start date)
      (if !date.isValid || !s.weekdays.contains (Date.weekday date.toDays) ||
          date.toDays * secondsPerDay + secondsPerDay ≤ start then none
        else (s.timeFrom? (start - date.toDays * secondsPerDay).toNat).map fun time =>
          date.toDays * secondsPerDay + time) := by
  refine IsFirst.ite (fun skipped x fires => ?_) fun searched => ?_
  -- On a date that exists and has the right day of the week, only the time can have passed.
  · have day := fires.day
    have reached := fires.reached
    simp only [fires.valid, fires.weekday, Bool.not_true, Bool.or_self, Bool.false_or,
      decide_eq_true_eq] at skipped
    unfold secondsPerDay at *
    omega
  · simp only [Bool.or_eq_true, Bool.not_eq_true', not_or, Bool.not_eq_false,
      decide_eq_true_eq] at searched
    obtain ⟨⟨valid, weekday⟩, -⟩ := searched
    -- The time is counted from midnight.
    refine (ordered.timeFrom?_isFirst _).map _ (fun n ⟨reached, admits⟩ => ?_) fun x fires => ?_
    · have below := ordered.lt_of_admitsTime admits
      have rest : (date.toDays * secondsPerDay + n) % secondsPerDay = n := by
        unfold secondsPerDay
        omega
      refine ⟨?_, valid, ?_, weekday, ?_⟩
      · omega
      · unfold secondsPerDay
        omega
      · rwa [rest, Int.toNat_natCast]
    · have day := fires.day
      have reached := fires.reached
      refine ⟨(x % secondsPerDay).toNat, ⟨?_, fires.time⟩, ?_⟩
      · unfold secondsPerDay at *
        omega
      · unfold secondsPerDay at *
        omega

/-- The search through a year finds the first second at which the schedule fires in it. -/
theorem Ordered.inYearFrom?_isFirst (ordered : s.Ordered) (start : Int) (year : Nat) :
    IsFirst (fun x => ∃ month ∈ s.months, ∃ day ∈ s.days, s.FiresOn start ⟨year, month, day⟩ x)
      (s.inYearFrom? start year) := by
  -- Later months hold later dates, and within a month later days do.
  refine IsFirst.findSome? ordered.months.ascending (fun month _ => ?_) ?_
  · refine IsFirst.findSome? ordered.days.ascending
      (fun day _ => ordered.onDate_isFirst start ⟨year, month, day⟩) ?_
    rintro day - day' - less x y first second
    exact (first.lt second (Or.inr ⟨rfl, less⟩)).le
  · rintro month - month' - less x y ⟨day, -, first⟩ ⟨day', -, second⟩
    refine (first.lt second (Or.inl ?_)).le
    simp only [Date.monthIndex]
    omega

end Dates

/-- Whether a schedule fires can be told from its date. -/
theorem fires_iff {start x : Int} : start ≤ x ∧ s.fires x = true ↔
    ∃ year ∈ s.years, ∃ month ∈ s.months, ∃ day ∈ s.days,
      s.FiresOn start ⟨year, month, day⟩ x := by
  simp only [fires, admitsDay, Bool.and_eq_true, List.any_eq_true, beq_iff_eq,
    List.contains_iff_mem]
  constructor
  -- A second belongs to the date of its day, and to no other one.
  · rintro ⟨reached, ⟨⟨⟨⟨year, listed, same⟩, month⟩, day⟩, weekday⟩, time⟩
    obtain ⟨valid, toDays⟩ := Date.ofDays_spec (x / secondsPerDay)
    refine ⟨year, listed, _, month, _, day, reached, ?_, ?_, ?_, time⟩ <;> rw [same]
    · exact valid
    · exact toDays.symm
    · simpa using weekday
  · rintro ⟨year, listed, month, member, day, own, fires⟩
    have date : Date.ofDays (x / secondsPerDay) = ⟨year, month, day⟩ := by
      rw [fires.day, Date.ofDays_toDays fires.valid]
    rw [date]
    exact ⟨fires.reached, ⟨⟨⟨⟨year, listed, rfl⟩, member⟩, own⟩, by simpa using fires.weekday⟩,
      fires.time⟩

/-- The year of a firing is not before that of a second before it. -/
theorem FiresOn.year_le {start x : Int} {date : Date} (fires : s.FiresOn start date x) :
    (Date.ofDays (start / secondsPerDay)).year ≤ date.year := by
  -- Otherwise its day would come before the day of the start.
  obtain ⟨valid, same⟩ := Date.ofDays_spec (start / secondsPerDay)
  have days : start / secondsPerDay ≤ date.toDays := by
    rw [← fires.day]
    exact Int.ediv_le_ediv (by decide) fires.reached
  by_contra later
  have earlier := Date.earlier_of_year_lt fires.valid valid (Int.not_le.mp later)
  have before := Date.toDays_lt fires.valid valid earlier
  omega

/-- From the year zero on, the search for a firing finds the first one. -/
theorem Ordered.firingFrom?_isFirst (ordered : s.Ordered) {start : Int}
    (searched : 0 ≤ (Date.ofDays (start / secondsPerDay)).year) :
    IsFirst (fun x => start ≤ x ∧ s.fires x = true) (s.firingFrom? start) := by
  unfold firingFrom?
  rw [if_neg (Int.not_lt.mpr searched)]
  refine IsFirst.congr (IsFirst.findSome? ordered.years.ascending (fun year _ => ?_) ?_)
    fun x => fires_iff.symm
  -- In a year before that of the start the schedule does not fire any more.
  · refine IsFirst.ite (fun skipped x ⟨month, _, day, _, fires⟩ => ?_) fun _ =>
      ordered.inYearFrom?_isFirst start year
    exact absurd fires.year_le (Int.not_le.mpr skipped)
  · rintro year - year' - less x y ⟨month, -, day, -, first⟩ ⟨month', -, day', -, second⟩
    exact (first.lt second
      (Date.earlier_of_year_lt first.valid second.valid (Int.ofNat_lt.mpr less))).le

/-- What the search finds is a firing, from the start on. -/
theorem Ordered.fires_of_firingFrom? (ordered : s.Ordered) {start x : Int}
    (found : s.firingFrom? start = some x) : start ≤ x ∧ s.fires x = true := by
  -- A year before the first one of the calendar is not searched at all.
  by_cases searched : 0 ≤ (Date.ofDays (start / secondsPerDay)).year
  · have first := ordered.firingFrom?_isFirst searched
    rw [found] at first
    exact first.1
  · unfold firingFrom? at found
    rw [if_pos (Int.not_le.mp searched)] at found
    cases found

end Schedule

end DeviceUpdate.Maintenance
