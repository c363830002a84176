import DeviceUpdate.Proofs.Maintenance.Range

/-! What a window answers about an instant, in terms of the instants at which it opens. -/

namespace DeviceUpdate.Maintenance

/-- The years of a schedule are those from 1970 to 2100. -/
theorem Schedule.Ordered.firing_bounds {s : Schedule} (ordered : s.Ordered) {x : Int}
    (fires : s.fires x = true) : 0 ≤ x ∧ x < Instant.horizon * secondsPerDay := by
  obtain ⟨year, listed, month, -, day, -, on⟩ := Schedule.fires_iff.mp ⟨le_refl x, fires⟩
  -- The years a schedule can name lie between 1970 and 2100.
  have admitted := ordered.years.admits year listed
  have from_first : 1970 ≤ year := of_decide_eq_true (Bool.and_eq_true_iff.mp admitted).1
  have to_last : year ≤ 2100 := of_decide_eq_true (Bool.and_eq_true_iff.mp admitted).2
  have first : (⟨1969, 12, 31⟩ : Date).isValid = true := by decide
  have last : (⟨2101, 1, 1⟩ : Date).isValid = true := by decide
  have after := Date.toDays_lt first on.valid
    (Date.earlier_of_year_lt first on.valid (by simp only; omega))
  have before := Date.toDays_lt on.valid last
    (Date.earlier_of_year_lt on.valid last (by simp only; omega))
  -- The days are counted from the first of January of 1970.
  have eve : Date.toDays ⟨1969, 12, 31⟩ = -1 := by decide
  have own := on.day
  unfold Instant.horizon secondsPerDay at *
  omega

namespace Window

variable {w : Window} {now s t : Instant}

/-- A window opens at the whole seconds at which its schedule fires in local time. -/
structure Opens (w : Window) (s : Instant) : Prop where
  whole : s.nanos = 0
  fires : w.schedule.fires (s.seconds + w.offset.seconds) = true

/-- A window that opens at an instant is not over at another one. -/
def EndsAfter (w : Window) (s now : Instant) : Prop :=
  now.total < s.total + w.duration.nanos

/-- The first opening from a second of local time on, as the schedule finds it. -/
def openingFrom? (w : Window) (second : Int) : Option Instant :=
  (w.schedule.firingFrom? second).bind fun second => Instant.ofParts? (second - w.offset.seconds) 0

/-- The first second of local time at which a window would not have opened before. -/
def present (w : Window) (now : Instant) : Int :=
  now.ceiling + w.offset.seconds

/-- The schedule finds the first firing from either second that is searched from. -/
structure Searches (w : Window) (now : Instant) : Prop where
  /-- For the window that is open, or else for the next one. -/
  back : w.Finds now
  /-- For the next one only. -/
  on : IsFirst (fun x => w.present now ≤ x ∧ w.schedule.fires x = true)
    (w.schedule.firingFrom? (w.present now))

/-- A window opens in the calendar. -/
theorem exists_opens (ordered : w.schedule.Ordered) {x : Int}
    (fires : w.schedule.fires x = true) :
    ∃ s, Instant.ofParts? (x - w.offset.seconds) 0 = some s ∧ w.Opens s ∧
      s.seconds + w.offset.seconds = x := by
  obtain ⟨first, last⟩ := ordered.firing_bounds fires
  have bounded := w.offset.bounded
  -- A shift by less than a day leaves the instant well inside the calendar.
  have early : firstSecond ≤ -86400 := by decide
  have late : Instant.horizon * secondsPerDay + 86400 ≤ lastSecond := by decide
  obtain ⟨s, made, seconds, whole⟩ := @Instant.ofParts?_whole (x - w.offset.seconds)
    (by omega) (by omega)
  have local_eq : s.seconds + w.offset.seconds = x := by omega
  exact ⟨s, made, ⟨whole, by rwa [local_eq]⟩, local_eq⟩

/-- The first firing, in local time, is the first opening. -/
theorem openingFrom?_isFirst (ordered : w.schedule.Ordered) {second : Int}
    (first : IsFirst (fun x => second ≤ x ∧ w.schedule.fires x = true)
      (w.schedule.firingFrom? second)) :
    IsFirst (fun s => w.Opens s ∧ second ≤ s.seconds + w.offset.seconds)
      (w.openingFrom? second) := by
  unfold openingFrom?
  -- Firings and openings are the same seconds, seen locally and in universal time.
  cases found : w.schedule.firingFrom? second with
  | none =>
    rw [found] at first
    exact fun s ⟨opens, reached⟩ => first _ ⟨reached, opens.fires⟩
  | some x =>
    rw [found] at first
    obtain ⟨⟨reached, fires⟩, least⟩ := first
    obtain ⟨s, made, opens, same⟩ := exists_opens ordered fires
    rw [Option.bind_some, made]
    refine ⟨⟨opens, by omega⟩, fun t ⟨other, later⟩ => ?_⟩
    rw [Instant.le_whole opens.whole other.whole]
    have before := least _ ⟨later, other.fires⟩
    omega

/-- A window is not over within its length after its start. -/
theorem Opens.endsAfter_iff (opens : w.Opens s) (usual : now.isLeap = false) :
    w.EndsAfter s now ↔ w.origin now ≤ s.seconds + w.offset.seconds := by
  -- The nanoseconds of the instant do not matter, since the window ends with a whole second.
  have ended := Instant.whole_le_total usual (s.seconds + w.seconds)
  have total := Instant.total_whole opens.whole
  have length : (w.duration.nanos : Int) = w.seconds * nanosPerSecond := by
    simp [duration, Span.ofSeconds]
  rw [Int.add_mul] at ended
  unfold EndsAfter origin
  omega

/-- A window has opened at an instant from its second on. -/
theorem Opens.le_iff (opens : w.Opens s) (usual : now.isLeap = false) :
    s ≤ now ↔ s.seconds ≤ now.seconds := by
  show s.total ≤ now.total ↔ _
  rw [Instant.total_whole opens.whole, Instant.whole_le_total usual]

/-- A window that has not opened before an instant is one that is searched for from there. -/
theorem Opens.ge_iff (ordered : w.schedule.Ordered) (opens : w.Opens s)
    (usual : now.isLeap = false) :
    now ≤ s ↔ w.present now ≤ s.seconds + w.offset.seconds := by
  show now.total ≤ s.total ↔ _
  have short := Instant.nanos_lt_of_not_leap usual
  have whole := Instant.isWholeSecond_iff usual
  have bounds := ordered.firing_bounds opens.fires
  have bounded := w.offset.bounded
  have last : Instant.horizon * secondsPerDay = 4133980800 := by decide
  rw [Instant.total_whole opens.whole]
  unfold present Instant.ceiling Instant.total nanosPerSecond at *
  -- Where nanoseconds are not cut off, no window opens in the same second.
  split
  · rename_i exact
    have none := whole.mp exact
    omega
  · rename_i part
    have some := mt whole.mpr part
    omega

/-- The start of a window is searched from its origin, if that can be computed. -/
theorem start_eq (usual : now.isLeap = false) :
    w.start now = .ok (w.openingFrom? (w.origin now)) ∧ ¬ w.Overreaches now ∨
      w.start now = .error .outOfCalendar ∧ w.Overreaches now := by
  have base := Instant.base_eq usual
  have cases := start_cases (w := w) (base.trans_le now.in_calendar.2)
  rwa [base] at cases

/-- A search from the second of an instant goes one second back, which the calendar must have. -/
theorem firingAfter_pred (usual : t.isLeap = false) :
    (t.addSeconds (-1) >>= w.firingAfter) = .ok (w.openingFrom? (t.seconds + w.offset.seconds)) ∧
        t.seconds ≠ firstSecond ∨
      (t.addSeconds (-1) >>= w.firingAfter) = .error .outOfCalendar ∧ t.seconds = firstSecond := by
  have bounds := t.in_calendar
  have short := Instant.nanos_lt_of_not_leap usual
  rw [Instant.addSeconds_eq usual]
  -- One second back is in the calendar unless the instant lies in its first second.
  rcases Instant.ofParts_cases short (t.seconds + -1) with
    ⟨before, made, seconds, nanos, first, -⟩ | ⟨fails, outside⟩
  · left
    have still : before.isLeap = false := by rwa [Instant.isLeap, nanos]
    refine ⟨?_, by omega⟩
    rw [made]
    show w.firingAfter before = _
    rw [firingAfter_eq still (by omega), seconds, Int.neg_add_cancel_right]
    rfl
  · right
    rw [fails]
    exact ⟨rfl, by omega⟩

/-- The next opening is searched from the present, except in the first second of the calendar. -/
theorem firingFrom_eq (usual : now.isLeap = false) :
    w.firingFrom now = .ok (w.openingFrom? (w.present now)) ∧ now.seconds ≠ firstSecond ∨
      w.firingFrom now = .error .outOfCalendar ∧ now.seconds = firstSecond := by
  have short := Instant.nanos_lt_of_not_leap usual
  have floor := Instant.floorSecond_seconds now
  have bounds := now.in_calendar
  unfold firingFrom present Instant.ceiling
  by_cases exact : now.isWholeSecond = true
  -- A whole second counts from itself, so the search starts one second before it.
  · have same : now.floorSecond = now := beq_iff_eq.mp exact
    rw [if_pos exact, if_pos exact, same]
    exact firingAfter_pred usual
  · -- Nanoseconds are cut off, so that the instant is far from the ends of the calendar.
    have part := mt (Instant.isWholeSecond_iff usual).mpr exact
    have first : firstSecond < -9223372037 := by decide
    have last : 9223372037 < lastSecond := by decide
    unfold Instant.total nanosPerSecond at *
    have still := Instant.floorSecond_not_leap usual
    obtain ⟨next, step, seconds, nanos⟩ := Instant.addSeconds_succeeds still (n := 1)
      (by omega) (by omega)
    have usual : next.isLeap = false := by rwa [Instant.isLeap, nanos]
    have searched := firingAfter_pred (w := w) usual
    -- The search starts in the second behind the one that was cut off.
    rw [seconds, floor] at searched
    rw [if_neg exact, if_neg exact, step]
    rcases searched with ⟨done, -⟩ | ⟨-, first⟩
    · exact .inl ⟨done, by omega⟩
    · omega

/-- The window opens, or has opened, such that it is not over. -/
def Remains (w : Window) (now : Instant) : Prop :=
  ∃ s, w.Opens s ∧ w.EndsAfter s now

/-- The window has opened and is not over. -/
def HasOpened (w : Window) (now : Instant) : Prop :=
  ∃ s, w.Opens s ∧ s ≤ now ∧ w.EndsAfter s now

/-- The first window that is not over has opened, and ends beyond the calendar. -/
def Outlasts (w : Window) (now : Instant) : Prop :=
  ∃ s, IsFirst (fun s => w.Opens s ∧ w.EndsAfter s now) (some s) ∧ s ≤ now ∧
    lastSecond < s.seconds + w.seconds

/-- A question fails exactly where it leads beyond the calendar, and otherwise has a meaning. -/
structure Means {α : Type} (answer : Except OutOfCalendar α) (beyond : Prop)
    (meaning : α → Prop) : Prop where
  fails : answer = .error .outOfCalendar ↔ beyond
  holds : ∀ a, answer = .ok a → meaning a

/-- What the answers of a window mean. -/
structure Answers (w : Window) (now : Instant) : Prop where
  /-- It starts when it first opens such that it is not over. -/
  start : Means (w.start now) (w.Overreaches now)
    (IsFirst fun s => w.Opens s ∧ w.EndsAfter s now)
  /-- It has lapsed if it does not open such that it is not over. -/
  isLapsed : Means (w.isLapsed now) (w.Overreaches now) fun lapsed =>
    lapsed = true ↔ ¬ w.Remains now
  /-- It is available if it has opened and is not over. -/
  isAvailable : Means (w.isAvailable now) (w.Overreaches now ∨ w.Outlasts now) fun available =>
    available = true ↔ w.HasOpened now
  /-- It fires next when it first opens from the present on. -/
  firingFrom : Means (w.firingFrom now) (now.seconds = firstSecond)
    (IsFirst fun s => w.Opens s ∧ now ≤ s)
  /-- The time to that is told if it has neither opened nor lapsed. -/
  untilStart : Means (w.untilStart now) (w.Overreaches now) fun delay =>
    (¬ w.HasOpened now ∧ w.Remains now → ∃ next, w.firingFrom now = .ok (some next) ∧
      delay = some (next.total - now.total)) ∧
    (w.HasOpened now ∨ ¬ w.Remains now → delay = none)

section Means

variable {α β : Type} {answer : Except OutOfCalendar α} {beyond other : Prop} {a : α}
  {meaning : α → Prop} {further : α → Except OutOfCalendar β} {result : β → Prop}

theorem Means.ok (inside : ¬ beyond) (meant : meaning a) : Means (.ok a) beyond meaning :=
  ⟨by simp [inside], fun _ same => by rwa [← Except.ok.inj same]⟩

theorem Means.error (outside : beyond) : Means (.error .outOfCalendar) beyond meaning :=
  ⟨by simp [outside], fun _ same => by cases same⟩

theorem Means.of_cases (cases : answer = .ok a ∧ ¬ beyond ∨ answer = .error .outOfCalendar ∧ beyond)
    (meant : meaning a) : Means answer beyond meaning := by
  rcases cases with ⟨rfl, inside⟩ | ⟨rfl, outside⟩
  · exact .ok inside meant
  · exact .error outside

/-- A question that is answered from the answer to another one fails where either of them does. -/
theorem Means.bind (means : Means answer beyond meaning)
    (next : ∀ a, ¬ beyond → meaning a → Means (further a) other result) :
    Means (answer >>= further) (beyond ∨ other) result := by
  obtain ⟨fails, holds⟩ := means
  cases answer with
  | error e => exact .error (.inl (fails.mp rfl))
  -- What can go beyond the calendar later is asked for only inside of it.
  | ok a =>
    have inside : ¬ beyond := fun outside => by cases fails.mpr outside
    rw [or_iff_right inside]
    exact next a inside (holds a rfl)

/-- Questions fail alike where one is always answered from the answer to the other. -/
theorem Means.map (means : Means answer beyond meaning)
    (next : ∀ a, ¬ beyond → meaning a → ∃ b, further a = .ok b ∧ result b) :
    Means (answer >>= further) beyond result := by
  have both : Means (answer >>= further) (beyond ∨ False) result := means.bind fun a inside meant => by
    obtain ⟨b, done, holds⟩ := next a inside meant
    rw [done]
    exact .ok not_false holds
  rwa [or_false] at both

end Means

section Meaning

variable (ordered : w.schedule.Ordered) (usual : now.isLeap = false)
include ordered usual

/-- What is open or comes next is found by searching from the origin. -/
theorem start_means (back : w.Finds now) : Means (w.start now) (w.Overreaches now)
    (IsFirst fun s => w.Opens s ∧ w.EndsAfter s now) :=
  .of_cases (start_eq usual) ((openingFrom?_isFirst ordered back).congr fun _ =>
    and_congr_right fun opens => (opens.endsAfter_iff usual).symm)

/-- What comes next is found by searching from the present. -/
theorem firingFrom_means (on : IsFirst (fun x => w.present now ≤ x ∧ w.schedule.fires x = true)
    (w.schedule.firingFrom? (w.present now))) :
    Means (w.firingFrom now) (now.seconds = firstSecond)
      (IsFirst fun s => w.Opens s ∧ now ≤ s) :=
  .of_cases (firingFrom_eq usual) ((openingFrom?_isFirst ordered on).congr fun _ =>
    and_congr_right fun opens => (opens.ge_iff ordered usual).symm)

end Meaning

/-- A window that has lapsed has no start. -/
theorem isLapsed_means (start : Means (w.start now) (w.Overreaches now)
      (IsFirst fun s => w.Opens s ∧ w.EndsAfter s now)) :
    Means (w.isLapsed now) (w.Overreaches now) fun lapsed => lapsed = true ↔ ¬ w.Remains now := by
  have lapsed : w.isLapsed now = w.start now >>= fun next => .ok next.isNone := by
    unfold isLapsed
    cases w.start now <;> rfl
  rw [lapsed]
  exact start.map fun next _ first => ⟨_, rfl, first.isNone_iff⟩

/-- A window is open if the first one that is not over has opened. -/
theorem hasOpened_iff (first : IsFirst (fun s => w.Opens s ∧ w.EndsAfter s now) (some s)) :
    w.HasOpened now ↔ s ≤ now := by
  constructor
  · rintro ⟨t, opens, begun, ends⟩
    exact Int.le_trans (first.2 t ⟨opens, ends⟩) begun
  · exact fun begun => ⟨s, first.1.1, begun, first.1.2⟩

/-- A window outlasts the calendar if the first one that is not over does. -/
theorem outlasts_iff (first : IsFirst (fun s => w.Opens s ∧ w.EndsAfter s now) (some s)) :
    w.Outlasts now ↔ s ≤ now ∧ lastSecond < s.seconds + w.seconds := by
  constructor
  · rintro ⟨t, other, begun, beyond⟩
    -- There is only one that is first.
    have before := first.2 t other.1
    have after := (Instant.le_whole other.1.1.whole first.1.1.whole).mp (other.2 s first.1)
    exact ⟨Int.le_trans before begun, by omega⟩
  · exact fun ⟨begun, beyond⟩ => ⟨s, first, begun, beyond⟩

/-- Whether a window is open is told by its start and its end. -/
theorem isAvailable_means (usual : now.isLeap = false)
    (start : Means (w.start now) (w.Overreaches now)
      (IsFirst fun s => w.Opens s ∧ w.EndsAfter s now)) :
    Means (w.isAvailable now) (w.Overreaches now ∨ w.Outlasts now) fun available =>
      available = true ↔ w.HasOpened now := by
  refine start.bind fun next _ first => ?_
  cases next with
  | none =>
    -- Without a start no window is open, whatever the present is.
    refine .ok (fun ⟨s, other, _⟩ => first s other.1) ?_
    simp only [Bool.false_eq_true, false_iff]
    exact fun ⟨s, opens, _, ends⟩ => first s ⟨opens, ends⟩
  | some s =>
    have whole := first.1.1.whole
    have begun := (Instant.notAfter_whole whole now).trans (first.1.1.le_iff usual).symm
    have running := (first.1.1.endsAfter_iff usual).mp first.1.2
    rw [hasOpened_iff first, outlasts_iff first]
    -- The end of the window is asked for only once it has begun, so only then can it be out of
    -- range.
    by_cases opened : s ≤ now
    · simp only [begun.mpr opened, if_true, opened, true_and, iff_true]
      have started := s.in_calendar.1
      have still := Instant.not_leap_of_whole whole
      rcases Instant.ofParts_cases (Instant.nanos_lt_of_not_leap still) (s.seconds + w.seconds) with
        ⟨close, made, -, -, -, inside⟩ | ⟨fails, outside⟩
      · rw [← Instant.addSeconds_eq still] at made
        have ends := (Instant.before_addSeconds whole made now).mpr
          (by unfold origin at running; omega)
        rw [made]
        exact .ok (by omega) ends
      · rw [Instant.addSeconds_eq still, fails]
        exact .error (by omega)
    -- A window still to open is not open.
    · simp only [mt begun.mp opened, Bool.false_eq_true, if_false, opened, false_and, iff_false]
      exact .ok not_false (by simp)

/-- While no window has opened, the next one is the first that is not over. -/
theorem firingFrom_eq_start (usual : now.isLeap = false) (inside : ¬ w.Overreaches now)
    (first : IsFirst (fun s => w.Opens s ∧ w.EndsAfter s now) (some s)) (ahead : ¬ s ≤ now)
    (firing : Means (w.firingFrom now) (now.seconds = firstSecond)
      (IsFirst fun s => w.Opens s ∧ now ≤ s)) :
    ∃ next, w.firingFrom now = .ok (some next) ∧ next.total = s.total := by
  -- The start lies ahead, so the search from the present finds it too.
  have later : now ≤ s := (Int.not_le.mp ahead).le
  have positive := w.seconds_pos
  cases found : w.firingFrom now with
  | error e =>
    cases e
    have edge := firing.fails.mp found
    rw [Overreaches, Instant.base_eq usual] at inside
    omega
  | ok next =>
    have least := firing.holds next found
    -- A firing at or after the present also ends after it, so neither search can find an earlier
    -- one.
    cases next with
    | none => exact absurd ⟨first.1.1, later⟩ (least s)
    | some t =>
      have begins : now.total ≤ t.total := least.1.2
      have length : 0 < w.duration.nanos := Nat.mul_pos w.seconds_pos (by decide)
      have ends : w.EndsAfter t now := by
        unfold EndsAfter
        omega
      exact ⟨t, rfl, Int.le_antisymm (least.2 s ⟨first.1.1, later⟩)
        (first.2 t ⟨least.1.1, ends⟩)⟩

/-- The time until the next window starts is told by its start. -/
theorem untilStart_means (usual : now.isLeap = false)
    (start : Means (w.start now) (w.Overreaches now)
      (IsFirst fun s => w.Opens s ∧ w.EndsAfter s now))
    (firing : Means (w.firingFrom now) (now.seconds = firstSecond)
      (IsFirst fun s => w.Opens s ∧ now ≤ s)) :
    Means (w.untilStart now) (w.Overreaches now) fun delay =>
      (¬ w.HasOpened now ∧ w.Remains now → ∃ next, w.firingFrom now = .ok (some next) ∧
        delay = some (next.total - now.total)) ∧
      (w.HasOpened now ∨ ¬ w.Remains now → delay = none) := by
  refine start.map fun next inside first => ?_
  -- Nothing is awaited when no window remains or when one is open.
  cases next with
  | none =>
    have lapsed := first.isNone_iff.mp rfl
    exact ⟨none, rfl, fun ⟨_, remains⟩ => absurd remains lapsed, fun _ => rfl⟩
  | some s =>
    have remains : w.Remains now := ⟨s, first.1⟩
    have whole := first.1.1.whole
    have coming : now.before s = true ↔ ¬ s ≤ now := by
      rw [Instant.before_whole whole, first.1.1.le_iff usual, Int.not_le]
    rw [hasOpened_iff first]
    by_cases opened : s ≤ now
    · exact ⟨none, by simp [coming, opened, pure, Except.pure], by simp [opened], fun _ => rfl⟩
    · obtain ⟨t, found, same⟩ := firingFrom_eq_start usual inside first opened firing
      -- The delay is the distance between two whole counts of nanoseconds, leap seconds being
      -- absent.
      have since := Instant.since_eq usual (Instant.not_leap_of_whole whole)
      refine ⟨some (s.since now), ?_, fun _ => ⟨t, found, ?_⟩, ?_⟩
      · simp [coming, opened, pure, Except.pure]
      · rw [since, same]
      · rintro (begun | lapsed)
        · exact absurd begun opened
        · exact absurd remains lapsed

/-- The answers of a window that has been read are meant as they should be, wherever its schedule
finds the first firing. -/
theorem answers {schedule duration timeZone : String}
    (done : read schedule duration timeZone = .ok w) (usual : now.isLeap = false)
    (searches : w.Searches now) : w.Answers now := by
  have ordered := read_ordered done
  -- All other questions but the next firing are answered from the start.
  have start := start_means ordered usual searches.back
  have firing := firingFrom_means ordered usual searches.on
  exact ⟨start, isLapsed_means start, isAvailable_means usual start, firing,
    untilStart_means usual start firing⟩

/-- The search finds the first firings wherever it starts in the year zero or later. -/
theorem searches_of_year (ordered : w.schedule.Ordered)
    (searched : 0 ≤ (Date.ofDays (w.origin now / secondsPerDay)).year) : w.Searches now := by
  have year := Date.toDays_le_of_year searched
  have positive := w.seconds_pos
  -- The search from the present starts no earlier than the one for open windows.
  have later : w.origin now ≤ w.present now := by
    unfold origin present Instant.ceiling
    split <;> omega
  refine ⟨finds_of_year ordered searched, ordered.firingFrom?_isFirst ?_⟩
  exact Date.year_of_toDays_le (year.trans (Int.ediv_le_ediv (by decide) later))

set_option maxRecDepth 10000 in
/-- An hour after noon of every day, with the answers some time before it. -/
theorem answers_morning : ∃ w now, read "0 0 12 * * *" "01:00:00" "Z" = .ok w ∧
    now.isLeap = false ∧ w.Searches now ∧ w.Answers now := by
  let w : Window := ⟨⟨[0], [0], [12], Part.day.all, Part.month.all, Part.weekday.all,
    Part.year.all⟩, 3600, .zero, by decide, by decide⟩
  have done : read "0 0 12 * * *" "01:00:00" "Z" = .ok w := by decide +kernel
  let now : Instant := ⟨36000, 5, by decide, by decide, by decide +kernel⟩
  have searches : w.Searches now := searches_of_year (read_ordered done) (by decide +kernel)
  exact ⟨w, now, done, rfl, searches, answers done rfl searches⟩

end Window

end DeviceUpdate.Maintenance
