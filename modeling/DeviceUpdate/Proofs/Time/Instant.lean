import DeviceUpdate.Proofs.Result
import DeviceUpdate.Time.Instant

/-! Steps between instants, and how far they reach. -/

namespace DeviceUpdate.Instant

/-- Instants come in the order of time. -/
instance : LE Instant :=
  ⟨fun a b => a.total ≤ b.total⟩

variable {t u : Instant} {n seconds : Int} {nanos : Nat}

/-- Outside of leap seconds, a second has its usual length. -/
theorem nanos_lt_of_not_leap (usual : t.isLeap = false) : t.nanos < nanosPerSecond := by
  simpa [isLeap] using usual

/-- A whole second is not a leap second. -/
theorem not_leap_of_whole (whole : t.nanos = 0) : t.isLeap = false := by
  simp [isLeap, whole, nanosPerSecond]

/-- An instant that exists has the parts it is made of. -/
theorem ofParts?_eq_some (made : ofParts? seconds nanos = some t) :
    t.seconds = seconds ∧ t.nanos = nanos := by
  unfold ofParts? at made
  split at made
  · rw [← Option.some.inj made]
    exact ⟨rfl, rfl⟩
  · cases made

/-- The parts of an instant make up that instant. -/
theorem ofParts?_self (t : Instant) : ofParts? t.seconds t.nanos = some t := by
  obtain ⟨seconds, nanos, long, ends, inside⟩ := t
  have parts : nanos < 2 * nanosPerSecond ∧ (nanosPerSecond ≤ nanos → seconds % 60 = 59) ∧
      (firstSecond ≤ seconds ∧ seconds ≤ lastSecond) := ⟨long, ends, inside⟩
  unfold ofParts?
  rw [dif_pos parts]

/-- A whole second in the calendar is an instant. -/
theorem ofParts?_whole (first : firstSecond ≤ seconds) (last : seconds ≤ lastSecond) :
    ∃ t, ofParts? seconds 0 = some t ∧ t.seconds = seconds ∧ t.nanos = 0 := by
  have positive : 0 < nanosPerSecond := by decide
  unfold ofParts?
  rw [dif_pos ⟨by omega, fun leap => by omega, first, last⟩]
  exact ⟨_, rfl, rfl, rfl⟩

/-- Outside of leap seconds, steps change the seconds only. -/
theorem addSeconds_eq (usual : t.isLeap = false) :
    t.addSeconds n = ofParts (t.seconds + n) t.nanos := by
  -- Both exceptions are those of leap seconds.
  unfold addSeconds
  rw [if_neg (by simp [usual]), if_neg (by simp [usual])]

/-- A step from outside of a leap second leads to the seconds that it should. -/
theorem addSeconds_eq_ok (usual : t.isLeap = false) (done : t.addSeconds n = .ok u) :
    u.seconds = t.seconds + n ∧ u.nanos = t.nanos := by
  rw [addSeconds_eq usual, ofParts] at done
  split at done
  · rename_i made
    rw [← Except.ok.inj done]
    exact ofParts?_eq_some made
  · cases done

/-- The start of a second lies in that second. -/
theorem floorSecond_seconds (t : Instant) : t.floorSecond.seconds = t.seconds := by
  unfold floorSecond
  split
  · split <;> rfl
  · rfl

/-- Outside of leap seconds, so is the start of a second. -/
theorem floorSecond_not_leap (usual : t.isLeap = false) : t.floorSecond.isLeap = false := by
  have short := nanos_lt_of_not_leap usual
  unfold floorSecond
  split
  · rw [dif_neg (Nat.not_le.mpr short)]
    rfl
  · exact usual

/-- Instants come in the order of their seconds, and within a second in that of its nanoseconds. -/
theorem notAfter_iff : t.notAfter u = true ↔
    t.seconds ≤ u.seconds ∧ (¬ u.seconds = t.seconds ∨ t.nanos ≤ u.nanos) := by
  simp [notAfter, before]

/-- An instant comes before a whole second exactly if its second does. -/
theorem before_whole (whole : u.nanos = 0) : t.before u = true ↔ t.seconds < u.seconds := by
  simp [before, whole]

/-- A whole second is not after an instant exactly if it is not after its second. -/
theorem notAfter_whole (whole : t.nanos = 0) (now : Instant) :
    t.notAfter now = true ↔ t.seconds ≤ now.seconds := by
  rw [notAfter, Bool.not_eq_true', ← Bool.not_eq_true, before_whole whole, Int.not_lt]

/-- An instant comes before some seconds after a whole second exactly if its second does. -/
theorem before_addSeconds (whole : t.nanos = 0) (done : t.addSeconds n = .ok u) (now : Instant) :
    now.before u = true ↔ now.seconds < t.seconds + n := by
  -- The instant stepped to is whole again, so that only its second counts.
  obtain ⟨seconds, nanos⟩ := addSeconds_eq_ok (not_leap_of_whole whole) done
  rw [before_whole (by rw [nanos, whole]), seconds]

/-- In nanoseconds, too, a whole second is not after an instant exactly if it is not after its
second. -/
theorem whole_le_total (usual : t.isLeap = false) (s : Int) :
    s * nanosPerSecond ≤ t.total ↔ s ≤ t.seconds := by
  have short := nanos_lt_of_not_leap usual
  -- Less than a second of nanoseconds does not make up for a second.
  unfold total nanosPerSecond at *
  omega

section Reach

/-- The end of the years that are looked at, in days. -/
def horizon : Int := Date.toDays ⟨2101, 1, 1⟩

/-- An instant of the years from 1970 to 2100. -/
structure IsModern (t : Instant) : Prop where
  from_epoch : 0 ≤ t.seconds
  before_horizon : t.seconds < horizon * secondsPerDay

/-- The second that steps back in time are counted from; for a leap second it is the next one. -/
def base (t : Instant) : Int :=
  if t.isLeap then t.seconds + 1 else t.seconds

/-- Steps back in time are counted from the second of an instant or from the next one. -/
theorem base_bounds (t : Instant) : t.seconds ≤ t.base ∧ t.base ≤ t.seconds + 1 := by
  unfold base
  split <;> omega

/-- Steps back in time are counted from no earlier second at a later instant. -/
theorem base_le_base (order : t.notAfter u = true) : t.base ≤ u.base := by
  have parts := notAfter_iff.mp order
  unfold base isLeap
  simp only [decide_eq_true_eq]
  -- Within one second, a leap second comes last.
  split <;> split <;> omega

/-- The parts of an instant outside of leap seconds make one exactly if the calendar has the
second. -/
theorem ofParts_cases (short : nanos < nanosPerSecond) (seconds : Int) :
    (∃ t, ofParts seconds nanos = .ok t ∧ t.seconds = seconds ∧ t.nanos = nanos ∧
      firstSecond ≤ seconds ∧ seconds ≤ lastSecond) ∨
    ofParts seconds nanos = .error .outOfCalendar ∧
      (seconds < firstSecond ∨ lastSecond < seconds) := by
  -- The nanoseconds are short, so that only the range of the seconds can fail.
  unfold ofParts ofParts?
  by_cases inside : firstSecond ≤ seconds ∧ seconds ≤ lastSecond
  · left
    rw [dif_pos ⟨by omega, fun leap => by omega, inside⟩]
    exact ⟨_, rfl, rfl, rfl, inside⟩
  · right
    rw [dif_neg fun parts => inside parts.2.2]
    exact ⟨rfl, by omega⟩

/-- A step back in time leads out of a leap second. -/
theorem addSeconds_neg (t : Instant) {back : Nat} (some : 0 < back) :
    t.addSeconds (-back) = ofParts (t.base - back) (t.nanos % nanosPerSecond) := by
  have long := t.nanos_lt
  unfold addSeconds base
  rw [if_neg (by simp)]
  by_cases leap : t.isLeap = true
  · -- A leap second has the nanoseconds of a whole second more.
    have past : nanosPerSecond ≤ t.nanos := by simpa [isLeap] using leap
    have rest : t.nanos - nanosPerSecond = t.nanos % nanosPerSecond := by
      rw [Nat.mod_eq_sub_mod past, Nat.mod_eq_of_lt (by omega)]
    rw [if_pos (by simp [leap, some]), if_pos leap, rest]
    rfl
  · have usual : t.nanos < nanosPerSecond := nanos_lt_of_not_leap (by simpa using leap)
    rw [if_neg (by simp [leap]), if_neg leap, Nat.mod_eq_of_lt usual]
    rfl

/-- A step from outside of a leap second stays there, if it stays in the calendar. -/
theorem addSeconds_succeeds (usual : t.isLeap = false) (first : firstSecond ≤ t.seconds + n)
    (last : t.seconds + n ≤ lastSecond) :
    ∃ u, t.addSeconds n = .ok u ∧ u.seconds = t.seconds + n ∧ u.nanos = t.nanos := by
  rw [addSeconds_eq usual]
  rcases ofParts_cases (nanos_lt_of_not_leap usual) (t.seconds + n) with
    ⟨u, made, parts, nanos, -⟩ | ⟨-, outside⟩
  · exact ⟨u, made, parts, nanos⟩
  · omega

end Reach

section Order

/-- Whole seconds have no nanoseconds beyond them. -/
theorem total_whole (whole : t.nanos = 0) : t.total = t.seconds * nanosPerSecond := by
  rw [total, whole]
  omega

/-- Of two whole seconds the earlier one has fewer seconds. -/
theorem le_whole (whole : t.nanos = 0) (other : u.nanos = 0) :
    t ≤ u ↔ t.seconds ≤ u.seconds := by
  show t.total ≤ u.total ↔ _
  rw [total_whole whole, whole_le_total (not_leap_of_whole other)]

/-- The first second that has not begun before an instant, as far as `floorSecond` can tell. -/
def ceiling (t : Instant) : Int :=
  if t.isWholeSecond then t.seconds else t.seconds + 1

/-- Within 292 years of 1970 a second is whole if it has no nanoseconds, and beyond they all are. -/
theorem isWholeSecond_iff (usual : t.isLeap = false) : t.isWholeSecond = true ↔
    t.total < -9223372036854775808 ∨ 9223372036854775808 ≤ t.total ∨ t.nanos = 0 := by
  have short := nanos_lt_of_not_leap usual
  have reach : Int.pow 2 63 = 9223372036854775808 := by decide
  unfold isWholeSecond floorSecond
  rw [reach]
  -- Beyond the reach of nanoseconds in 64 bits an instant counts as whole.
  by_cases near : -9223372036854775808 ≤ t.total ∧ t.total < 9223372036854775808
  · rw [if_pos (by simpa using near), dif_neg (Nat.not_le.mpr short), beq_iff_eq]
    constructor
    · intro same
      exact .inr (.inr (congrArg nanos same).symm)
    · intro known
      have whole : t.nanos = 0 := by omega
      obtain ⟨seconds, nanos, _, _, _⟩ := t
      obtain rfl : nanos = 0 := whole
      rfl
  · rw [if_neg (by simpa using near)]
    exact ⟨fun _ => by omega, fun _ => beq_self_eq_true t⟩

/-- Outside of leap seconds, steps back are counted from the second of an instant. -/
theorem base_eq (usual : t.isLeap = false) : t.base = t.seconds := by
  rw [base, if_neg (by simp [usual])]

/-- Outside of leap seconds, the nanoseconds between two instants are the difference of both. -/
theorem since_eq (usual : t.isLeap = false) (other : u.isLeap = false) :
    u.since t = u.total - t.total := by
  simp only [since, usual, other, Bool.and_false, Bool.false_eq_true, if_false, total,
    nanosPerSecond]
  omega

end Order

end DeviceUpdate.Instant
