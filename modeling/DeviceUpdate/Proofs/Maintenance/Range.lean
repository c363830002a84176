import DeviceUpdate.Maintenance.Policy
import DeviceUpdate.Proofs.Maintenance.Window
import DeviceUpdate.Proofs.Time.Calendar
import DeviceUpdate.Proofs.Time.Instant

/-! Windows that reach beyond the calendar, and how long they have to be for that. -/

namespace DeviceUpdate.Maintenance

open Instant (IsModern base)

namespace Window

/-- The search for the start of a window goes back to before the first second of the calendar. -/
def Overreaches (w : Window) (now : Instant) : Prop :=
  now.base - w.seconds < firstSecond

instance (w : Window) (now : Instant) : Decidable (w.Overreaches now) :=
  inferInstanceAs (Decidable (_ < _))

/-- A window that stays open for no longer than the years from zero to the horizon take. -/
def IsBrief (w : Window) : Prop :=
  w.seconds ≤ (Instant.horizon - Date.toDays ⟨0, 1, 1⟩ + 2) * secondsPerDay

variable {w : Window} {now t : Instant}

/-- The next firing can be computed wherever the next second can. -/
theorem firingAfter_eq (usual : t.isLeap = false) (next : t.seconds + 1 ≤ lastSecond) :
    w.firingAfter t = .ok ((w.schedule.firingFrom? (t.seconds + 1 + w.offset.seconds)).bind
      fun second => Instant.ofParts? (second - w.offset.seconds) 0) := by
  have first := t.in_calendar.1
  obtain ⟨u, step, moved, -⟩ := Instant.addSeconds_succeeds usual (n := 1) (by omega) next
  rw [firingAfter, step, ← moved]
  rfl

/-- The start of a window can be computed, unless the search for it goes back too far. -/
theorem start_cases (known : now.base ≤ lastSecond) :
    w.start now = .ok ((w.schedule.firingFrom?
        (now.base - w.seconds + 1 + w.offset.seconds)).bind
          fun second => Instant.ofParts? (second - w.offset.seconds) 0) ∧ ¬ w.Overreaches now ∨
      w.start now = .error .outOfCalendar ∧ w.Overreaches now := by
  have short : now.nanos % nanosPerSecond < nanosPerSecond := Nat.mod_lt _ (by decide)
  have positive := w.seconds_pos
  unfold start Overreaches
  -- Going back by the duration either stays in the calendar or leaves it at its first second.
  rw [Instant.addSeconds_neg now positive]
  rcases Instant.ofParts_cases short (now.base - w.seconds) with
    ⟨early, made, parts, nanos, inside⟩ | ⟨fails, outside⟩
  · left
    have usual : early.isLeap = false := by simp [Instant.isLeap, nanos, short]
    have floor := Instant.floorSecond_not_leap usual
    have second := Instant.floorSecond_seconds early
    rw [made]
    refine ⟨?_, by omega⟩
    -- From the second that was reached, the next one is still in the calendar.
    show w.firingAfter early.floorSecond = _
    rw [firingAfter_eq floor (by omega), second, parts]
  · right
    rw [fails]
    exact ⟨rfl, by omega⟩

/-- Modern instants are counted from seconds of the calendar. -/
theorem base_le_of_isModern (modern : now.IsModern) : now.base ≤ lastSecond := by
  have bounds := now.base_bounds
  have before := modern.before_horizon
  have last : Instant.horizon * secondsPerDay < lastSecond := by decide
  omega

/-- A brief window never reaches beyond the calendar. -/
theorem IsBrief.not_overreaches (brief : w.IsBrief) (modern : now.IsModern) :
    ¬ w.Overreaches now := by
  have bounds := now.base_bounds
  have first := modern.from_epoch
  have room : firstSecond + (Instant.horizon - Date.toDays ⟨0, 1, 1⟩ + 2) * secondsPerDay ≤ 0 := by
    decide
  unfold IsBrief Overreaches at *
  omega

/-- The start of a brief window can be computed. -/
theorem IsBrief.start_succeeds (brief : w.IsBrief) (modern : now.IsModern) :
    ∃ next, w.start now = .ok next := by
  rcases start_cases (base_le_of_isModern modern) (w := w) with ⟨done, -⟩ | ⟨-, overreaches⟩
  · exact ⟨_, done⟩
  · exact absurd overreaches (brief.not_overreaches modern)

/-- Whether a brief window is open can be computed. -/
theorem IsBrief.isAvailable_succeeds (brief : w.IsBrief) (modern : now.IsModern) :
    ∃ isOpen, w.isAvailable now = .ok isOpen := by
  -- The start is found in the calendar, or the window would reach beyond it.
  rcases start_cases (base_le_of_isModern modern) (w := w) with ⟨done, -⟩ | ⟨-, overreaches⟩
  · rw [isAvailable, done]
    cases found : (w.schedule.firingFrom? (now.base - w.seconds + 1 + w.offset.seconds)).bind
        fun second => Instant.ofParts? (second - w.offset.seconds) 0 with
    | none => exact ⟨false, rfl⟩
    | some start =>
      obtain ⟨second, -, made⟩ := Option.bind_eq_some_iff.mp found
      have whole := (Instant.ofParts?_eq_some made).2
      by_cases begun : start.notAfter now = true
      · -- The end of a window that has begun comes at most its length after the present.
        have past := (Instant.notAfter_whole whole now).mp begun
        have first := start.in_calendar.1
        have before := modern.before_horizon
        have room : Instant.horizon * secondsPerDay +
            (Instant.horizon - Date.toDays ⟨0, 1, 1⟩ + 2) * secondsPerDay ≤ lastSecond := by
          decide
        have length : (w.seconds : Int) ≤
          (Instant.horizon - Date.toDays ⟨0, 1, 1⟩ + 2) * secondsPerDay := brief
        obtain ⟨close, closing, -⟩ := Instant.addSeconds_succeeds
          (Instant.not_leap_of_whole whole) (n := w.seconds) (by omega) (by omega)
        refine ⟨now.before close, ?_⟩
        simp [bind, Except.bind, begun, closing]
      · exact ⟨false, by simp [bind, Except.bind, begun, pure, Except.pure]⟩
  · exact absurd overreaches (brief.not_overreaches modern)

/-- A window has lapsed where the search for its start finds nothing. -/
theorem isLapsed_of_start {next : Option Instant} (done : w.start now = .ok next) :
    w.isLapsed now = .ok next.isNone := by
  rw [isLapsed, done]
  rfl

variable {schedule duration timeZone : String}

/-- A new window cannot be judged exactly if it overreaches. -/
theorem readNew_fails_iff (modern : now.IsModern) :
    readNew schedule duration timeZone now = .error .outOfCalendar ↔
      ∃ w, read schedule duration timeZone = .ok w ∧ w.Overreaches now := by
  unfold readNew
  cases read schedule duration timeZone with
  | error e => cases e <;> simp
  -- A failure to judge the window is the only way to leave the calendar here.
  | ok w =>
    rcases start_cases (base_le_of_isModern modern) (w := w) with ⟨done, within⟩ | ⟨fails, overreaches⟩
    · have judged := isLapsed_of_start done
      generalize Option.isNone _ = gone at judged
      -- A window that has been judged is refused if it has lapsed, and is accepted otherwise.
      cases gone with
      | true => simp [judged, within]
      | false => simp [judged, within]
    · have lapsed : w.isLapsed now = .error .outOfCalendar := by
        rw [isLapsed, fails]
        rfl
      simp [lapsed, overreaches]

/-- The texts of a new window overrun or not, whatever the time is. -/
theorem readNew_eq_overrun :
    readNew schedule duration timeZone now = .error .overrun ↔
      read schedule duration timeZone = .error .overrun := by
  unfold readNew
  cases read schedule duration timeZone with
  | error e => cases e <;> simp
  | ok w =>
    -- A window that has been read is judged by the calendar alone.
    dsimp only
    split <;> simp

/-- A new window is accepted only if it has not lapsed. -/
theorem not_lapsed_of_readNew (accepted : readNew schedule duration timeZone now = .ok w) :
    w.isLapsed now = .ok false := by
  unfold readNew at accepted
  -- Only a window that has not lapsed is accepted, and all the other ways refuse it.
  split at accepted
  · cases accepted
  · cases accepted
  · split at accepted
    · cases accepted
    · cases accepted
    · rename_i ahead
      rw [← Except.ok.inj accepted]
      exact ahead

/-- A window that has been accepted never reaches beyond the calendar later on. -/
theorem not_overreaches_of_readNew
    (accepted : readNew schedule duration timeZone now = .ok w) (order : now.notAfter t = true)
    (known : t.base ≤ lastSecond) : ¬ w.Overreaches t := by
  have later := Instant.base_le_base order
  -- The search for its start has gone back far enough then, and does not go back as far now.
  rcases start_cases (Int.le_trans later known) (w := w) with ⟨-, within⟩ | ⟨fails, -⟩
  · unfold Overreaches at *
    omega
  · have ahead := not_lapsed_of_readNew accepted
    rw [isLapsed, fails] at ahead
    cases ahead

/-- Firings are found only by a search that starts in the year zero or later. -/
theorem year_of_firing {s : Schedule} {start x : Int} (found : s.firingFrom? start = some x) :
    0 ≤ (Date.ofDays (start / secondsPerDay)).year := by
  unfold Schedule.firingFrom? at found
  simp only at found
  split at found
  · cases found
  · rename_i searched
    exact Int.not_lt.mp searched

/-- A new window that is accepted is brief: its first firing was found. -/
theorem brief_of_readNew (modern : now.IsModern)
    (accepted : readNew schedule duration timeZone now = .ok w) : w.IsBrief := by
  rcases start_cases (base_le_of_isModern modern) (w := w) with ⟨done, -⟩ | ⟨fails, -⟩
  · -- The window has not lapsed, so the search has found something.
    have ahead := not_lapsed_of_readNew accepted
    rw [isLapsed_of_start done] at ahead
    cases found : w.schedule.firingFrom? (now.base - w.seconds + 1 + w.offset.seconds) with
    | none =>
      rw [found] at ahead
      cases ahead
    | some second =>
      have searched := Date.toDays_le_of_year (year_of_firing found)
      have bounds := now.base_bounds
      have bounded := w.offset.bounded
      have before := modern.before_horizon
      unfold IsBrief secondsPerDay at *
      omega
  -- A window that could not be judged has not been accepted.
  · have ahead := not_lapsed_of_readNew accepted
    rw [isLapsed, fails] at ahead
    cases ahead

end Window

end DeviceUpdate.Maintenance
