import DeviceUpdate.Maintenance.Cron
import DeviceUpdate.Maintenance.Window
import DeviceUpdate.Proofs.Maintenance.Firing
import DeviceUpdate.Proofs.Time.Instant

/-! Windows: what is read from their expressions, and that they are available exactly while they say so. -/

namespace DeviceUpdate.Maintenance

open Schedule (Fits Ordered)

/-- All values of a part are values of it, in ascending order. -/
theorem Part.all_fits (p : Part) : Fits p p.all where
  ascending := List.pairwise_lt_range.sublist (List.drop_sublist _ _)
  admits n member := by
    obtain ⟨i, bound, rfl⟩ := List.mem_iff_getElem.mp member
    simp only [Part.all, List.length_drop, List.length_range] at bound
    simp only [Part.all, List.getElem_drop, List.getElem_range, Part.admits, Bool.and_eq_true,
      decide_eq_true_eq]
    omega

theorem Fits.filter {p : Part} {values : List Nat} (fits : Fits p values) (test : Nat → Bool) :
    Fits p (values.filter test) where
  ascending := fits.ascending.filter test
  admits n member := fits.admits n (List.mem_filter.mp member).1

namespace Cron

/-- The values of a field are those of its part. -/
theorem values?_fits {p : Part} {terms : List Term} {values : List Nat}
    (read : values? p terms = some values) : Fits p values := by
  obtain ⟨lists, -, same⟩ := Option.bind_eq_some_iff.mp read
  rw [← Option.some.inj same]
  exact Fits.filter p.all_fits _

/-- What is read from an expression is a schedule in order. -/
theorem read?_ordered {text : String} {s : Schedule} (read : read? text = some s) :
    s.Ordered := by
  -- The six fields are read one behind the other, so each read is the input of the next.
  obtain ⟨⟨seconds, cs⟩, -, read⟩ := Option.bind_eq_some_iff.mp read
  obtain ⟨⟨minutes, cs⟩, -, read⟩ := Option.bind_eq_some_iff.mp read
  obtain ⟨⟨hours, cs⟩, -, read⟩ := Option.bind_eq_some_iff.mp read
  obtain ⟨⟨days, cs⟩, -, read⟩ := Option.bind_eq_some_iff.mp read
  obtain ⟨⟨months, cs⟩, -, read⟩ := Option.bind_eq_some_iff.mp read
  obtain ⟨⟨weekdays, cs⟩, -, read⟩ := Option.bind_eq_some_iff.mp read
  simp only at read
  -- The terms have been read, and it is left to take their values.
  split at read
  · obtain ⟨_, second, read⟩ := Option.bind_eq_some_iff.mp read
    obtain ⟨_, minute, read⟩ := Option.bind_eq_some_iff.mp read
    obtain ⟨_, hour, read⟩ := Option.bind_eq_some_iff.mp read
    obtain ⟨_, day, read⟩ := Option.bind_eq_some_iff.mp read
    obtain ⟨_, month, read⟩ := Option.bind_eq_some_iff.mp read
    obtain ⟨_, -, read⟩ := Option.bind_eq_some_iff.mp read
    obtain ⟨_, year, read⟩ := Option.bind_eq_some_iff.mp read
    rw [← Option.some.inj read]
    exact ⟨values?_fits second, values?_fits minute, values?_fits hour, values?_fits day,
      values?_fits month, values?_fits year⟩
  · cases read

end Cron

end DeviceUpdate.Maintenance

namespace DeviceUpdate.Maintenance.Window

open Schedule (Ordered)

/-- A firing, in universal time, opens a window that has not closed yet. -/
def IsOpen (w : Window) (now : Instant) : Prop :=
  ∃ s : Int, w.schedule.fires (s + w.offset.seconds) = true ∧ s * nanosPerSecond ≤ now.total ∧
    now.total < (s + w.seconds) * nanosPerSecond

/-- The first second of local time at which a firing would keep the window open. -/
def origin (w : Window) (now : Instant) : Int :=
  now.seconds - w.seconds + 1 + w.offset.seconds

/-- The search for a window that is open, or for the next one, finds the first firing. -/
def Finds (w : Window) (now : Instant) : Prop :=
  IsFirst (fun x => w.origin now ≤ x ∧ w.schedule.fires x = true)
    (w.schedule.firingFrom? (w.origin now))

/-- A text of six or seven words that is read as a schedule. -/
structure Planned (schedule : String) (s : Schedule) : Prop where
  words : 6 ≤ Text.wordCount schedule.toList ∧ Text.wordCount schedule.toList ≤ 7
  plan : Cron.read? schedule = some s

/-- The schedule and the length of a window are those that are read from their texts. -/
structure Described (schedule duration : String) (w : Window) : Prop
    extends Planned schedule w.schedule where
  length : Span.readEither duration = .ok w.seconds

section Reading

variable {schedule duration timeZone : String} {s : Schedule} {w : Window} {seconds : Nat}

/-- Whether a window can stay open for so many seconds. -/
def Admitted (seconds : Nat) : Prop :=
  0 < seconds ∧ seconds ≤ durationLimit

/-- Without a schedule there is no window, whatever the other two texts are. -/
theorem read_of_unplanned (unplanned : ¬ ∃ s, Planned schedule s) :
    ∃ e, read schedule duration timeZone = .error (.refused e) := by
  unfold read
  -- The number of words is looked at before the schedule itself.
  dsimp only
  split
  · exact ⟨_, rfl⟩
  · rename_i words
    cases plan : Cron.read? schedule with
    | none => exact ⟨_, rfl⟩
    | some s => exact (unplanned ⟨s, by simpa using words, plan⟩).elim

/-- With a schedule, the reading of the duration is next. -/
theorem read_of_duration_error (planned : Planned schedule s) {e : Text.Unread Span.Fault}
    (length : Span.readEither duration = .error e) : read schedule duration timeZone =
      .error (e.map fun fault => .duration ⟨duration, fault⟩) := by
  unfold read
  dsimp only
  rw [if_neg (by simpa using planned.words), planned.plan, length]
  rfl

/-- A window that would not stay open at all, or too long, is refused before its offset is read. -/
theorem read_of_not_admitted (planned : Planned schedule s)
    (length : Span.readEither duration = .ok seconds) (outside : ¬ Admitted seconds) :
    read schedule duration timeZone = .error (.refused .emptyDuration) := by
  unfold read
  dsimp only
  rw [if_neg (by simpa using planned.words), planned.plan, length]
  exact dif_neg outside

/-- The offset is read last. -/
theorem read_of_admitted (planned : Planned schedule s)
    (length : Span.readEither duration = .ok seconds) (admitted : Admitted seconds) :
    read schedule duration timeZone =
      ((Offset.read timeZone).mapError (·.map fun _ => .timeZone timeZone)).map
        fun offset => ⟨s, seconds, offset, admitted.1, admitted.2⟩ := by
  unfold read
  dsimp only
  rw [if_neg (by simpa using planned.words), planned.plan, length]
  refine (dif_pos admitted).trans ?_
  cases Offset.read timeZone <;> rfl

/-- A window is read from its three texts, each of them on its own. -/
theorem read_eq_ok : read schedule duration timeZone = .ok w ↔
    Described schedule duration w ∧ Offset.read timeZone = .ok w.offset := by
  constructor
  · intro done
    -- Each part is there, or its refusal would have been the answer.
    by_cases planned : ∃ s, Planned schedule s
    · obtain ⟨s, planned⟩ := planned
      cases length : Span.readEither duration with
      | error e =>
        rw [read_of_duration_error planned length] at done
        cases done
      | ok seconds =>
        by_cases admitted : Admitted seconds
        · rw [read_of_admitted planned length admitted, Result.map_eq_ok] at done
          obtain ⟨offset, zone, same⟩ := done
          rw [Result.mapError_eq_ok] at zone
          subst same
          exact ⟨⟨planned, length⟩, zone⟩
        · rw [read_of_not_admitted planned length admitted] at done
          cases done
    -- A schedule that is not planned is refused first.
    · obtain ⟨e, refused⟩ := read_of_unplanned planned
      rw [refused] at done
      cases done
  -- With all parts given, the reading goes through.
  · rintro ⟨⟨planned, length⟩, zone⟩
    rw [read_of_admitted planned length ⟨w.seconds_pos, w.seconds_le⟩, zone]
    rfl

/-- The reading of a window comes to too large a number in its duration, or else in its offset. -/
theorem read_eq_overrun : read schedule duration timeZone = .error .overrun ↔
    (∃ s, Planned schedule s) ∧ (Span.readEither duration = .error .overrun ∨
      ∃ seconds, Span.readEither duration = .ok seconds ∧ Admitted seconds ∧
        Offset.read timeZone = .error .overrun) := by
  by_cases planned : ∃ s, Planned schedule s
  · rw [and_iff_right planned]
    obtain ⟨s, planned⟩ := planned
    cases length : Span.readEither duration with
    | error e =>
      rw [read_of_duration_error planned length, Except.error.injEq, Result.map_eq_overrun]
      simp
    | ok seconds =>
      by_cases admitted : Admitted seconds
      · -- What is refused of an offset is told in another way, but an overrun stays one.
        rw [read_of_admitted planned length admitted, Result.map_eq_error,
          Result.mapError_eq_error]
        simp [Result.map_eq_overrun, admitted]
      · simp [read_of_not_admitted planned length admitted, admitted]
  · obtain ⟨e, refused⟩ := read_of_unplanned planned
    rw [refused]
    simp [planned]

end Reading

/-- What is read as a window has a schedule in order. -/
theorem read_ordered {schedule duration timeZone : String} {w : Window}
    (done : read schedule duration timeZone = .ok w) : w.schedule.Ordered :=
  Cron.read?_ordered (read_eq_ok.mp done).1.plan

variable {w : Window} {now t : Instant} {next : Option Instant} {isOpen : Bool}

/-- The search finds the first firing wherever it starts in the year zero or later. -/
theorem finds_of_year (ordered : w.schedule.Ordered)
    (searched : 0 ≤ (Date.ofDays (w.origin now / secondsPerDay)).year) : w.Finds now :=
  ordered.firingFrom?_isFirst searched

/-- Outside of leap seconds, firings and instants can be compared by their seconds. -/
theorem isOpen_iff (usual : now.isLeap = false) : w.IsOpen now ↔
    ∃ s : Int, w.schedule.fires (s + w.offset.seconds) = true ∧ s ≤ now.seconds ∧
      now.seconds < s + w.seconds := by
  -- Both bounds are whole seconds, so nanoseconds make no difference.
  simp only [IsOpen, Instant.whole_le_total usual, ← Int.not_le]

/-- The next firing is searched from the second after an instant, in local time. -/
theorem firingAfter_eq_ok (usual : t.isLeap = false) (done : w.firingAfter t = .ok next) :
    next = (w.schedule.firingFrom? (t.seconds + 1 + w.offset.seconds)).bind
        (fun second => Instant.ofParts? (second - w.offset.seconds) 0) ∧
      firstSecond ≤ t.seconds + 1 := by
  obtain ⟨start, step, rest⟩ := Result.bind_eq_ok.mp done
  have moved := (Instant.addSeconds_eq_ok usual step).1
  rw [← moved]
  exact ⟨(Except.ok.inj rest).symm, start.in_calendar.1⟩

/-- The start of a window is searched from its origin. -/
theorem start_eq_ok (usual : now.isLeap = false) (done : w.start now = .ok next) :
    next = (w.schedule.firingFrom? (w.origin now)).bind
        (fun second => Instant.ofParts? (second - w.offset.seconds) 0) ∧
      firstSecond ≤ now.seconds - w.seconds + 1 := by
  -- A start is the first firing behind the instant that lies one duration and a second back.
  obtain ⟨early, step, rest⟩ := Result.bind_eq_ok.mp done
  obtain ⟨moved, nanos⟩ := Instant.addSeconds_eq_ok usual step
  have usual : early.isLeap = false := by
    unfold Instant.isLeap at *
    rwa [nanos]
  have found := firingAfter_eq_ok (Instant.floorSecond_not_leap usual) rest
  rw [Instant.floorSecond_seconds, moved] at found
  exact found

/-- A window is available exactly if the firing that is found has opened it and keeps it open. -/
theorem isAvailable_iff (ordered : w.schedule.Ordered) (usual : now.isLeap = false)
    (answers : w.isAvailable now = .ok isOpen) : isOpen = true ↔
    ∃ second, w.schedule.firingFrom? (w.origin now) = some second ∧
      second - w.offset.seconds ≤ now.seconds ∧
      now.seconds < second - w.offset.seconds + w.seconds := by
  obtain ⟨next, found, rest⟩ := Result.bind_eq_ok.mp answers
  obtain ⟨same, first⟩ := start_eq_ok usual found
  constructor
  -- No start that is found leaves nothing open.
  · rintro rfl
    cases next with
    | none => cases Except.ok.inj rest
    | some start =>
      obtain ⟨second, firing, made⟩ := Option.bind_eq_some_iff.mp same.symm
      obtain ⟨parts, whole⟩ := Instant.ofParts?_eq_some made
      simp only at rest
      split at rest
      · rename_i begun
        -- The window is open from its start, the start included, to its close, the close excluded.
        obtain ⟨close, closing, before⟩ := Result.map_eq_ok.mp rest
        rw [Instant.notAfter_whole whole] at begun
        rw [Instant.before_addSeconds whole closing] at before
        exact ⟨second, firing, by omega, by omega⟩
      · cases Except.ok.inj rest
  · rintro ⟨second, firing, begun, before⟩
    -- The firing lies between two seconds of the calendar, so it is an instant.
    have reached := (ordered.fires_of_firingFrom? firing).1
    have last := now.in_calendar.2
    unfold origin at reached
    obtain ⟨start, made, parts, whole⟩ := @Instant.ofParts?_whole (second - w.offset.seconds)
      (by omega) (by omega)
    rw [firing, Option.bind_some, made] at same
    subst same
    simp only [(Instant.notAfter_whole whole now).mpr (by omega), if_true] at rest
    obtain ⟨close, closing, ends⟩ := Result.map_eq_ok.mp rest
    rw [← ends, Instant.before_addSeconds whole closing]
    omega

/-- A window that is available is open: the firing that is found keeps it open. -/
theorem isOpen_of_isAvailable (ordered : w.schedule.Ordered) (usual : now.isLeap = false)
    (available : w.isAvailable now = .ok true) : w.IsOpen now := by
  obtain ⟨second, firing, begun, before⟩ := (isAvailable_iff ordered usual available).mp rfl
  refine (isOpen_iff usual).mpr ⟨second - w.offset.seconds, ?_, begun, before⟩
  rw [Int.sub_add_cancel]
  exact (ordered.fires_of_firingFrom? firing).2

/-- A window that is open is available, where the search finds the first firing. -/
theorem isAvailable_of_isOpen (ordered : w.schedule.Ordered) (usual : now.isLeap = false)
    (finds : w.Finds now) (answers : w.isAvailable now = .ok isOpen) (opened : w.IsOpen now) :
    isOpen = true := by
  obtain ⟨s, fires, begun, before⟩ := (isOpen_iff usual).mp opened
  have reached : w.origin now ≤ s + w.offset.seconds := by
    unfold origin
    omega
  rw [isAvailable_iff ordered usual answers]
  unfold Finds at finds
  cases firing : w.schedule.firingFrom? (w.origin now) with
  | none =>
    rw [firing] at finds
    exact absurd ⟨reached, fires⟩ (finds (s + w.offset.seconds))
  | some second =>
    rw [firing] at finds
    -- What is found is no later than the firing that keeps the window open.
    have first : second ≤ s + w.offset.seconds := finds.2 _ ⟨reached, fires⟩
    have after : w.origin now ≤ second := finds.1.1
    unfold origin at after
    exact ⟨second, rfl, by omega, by omega⟩

end DeviceUpdate.Maintenance.Window
