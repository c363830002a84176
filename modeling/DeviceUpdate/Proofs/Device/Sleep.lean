import DeviceUpdate.Device.Directive
import DeviceUpdate.Proofs.Result
import DeviceUpdate.Proofs.Time.Instant

/-! How long devices sleep: within the limits of the settings, and never past the next window. -/

namespace DeviceUpdate

open Maintenance (Policy Window)

/-- How long a device sleeps with so many nanoseconds left until the next window, if one lies
ahead. -/
def sleepOf (settings : TenantSettings) : Option Int → Span
  | none => settings.effectivePolling
  | some left =>
    if left < 0 then settings.effectivePolling
    else (((Span.mk left.toNat).share (max settings.windowPolls 1)).max
      (settings.minPolling.min settings.effectivePolling)).min settings.effectivePolling

/-- A window lies ahead of an instant and opens next at another one. -/
structure Awaits (p : Policy) (now s : Instant) : Prop where
  next : p.start now = .ok (some s)
  ahead : now.before s = true

/-- What holds of the time that a device is told to sleep at an instant. -/
structure Sleeps (settings : TenantSettings) (p : Policy) (now : Instant) (sleep : Span) :
    Prop where
  least : settings.minPolling.nanos ≤ sleep.nanos
  most : sleep.nanos ≤ max settings.polling.nanos settings.minPolling.nanos
  /-- A device that waits for no window sleeps for as long as it may. -/
  idle : (¬ ∃ s, Awaits p now s) →
    sleep.nanos = max settings.polling.nanos settings.minPolling.nanos
  /-- A device does not sleep for longer than it has to wait, if it has to wait long enough. -/
  punctual : ∀ s, Awaits p now s → settings.minPolling.nanos ≤ s.since now →
    sleep.nanos ≤ s.since now

/-- While the same window lies ahead, a device sleeps no longer later than it does earlier. -/
def Shrinks (settings : TenantSettings) (p : Policy) (earlier later : Instant) : Prop :=
  ∀ s, Awaits p earlier s → Awaits p later s → earlier.notAfter later = true →
    ∃ long short, pollSleep settings p earlier = .ok long ∧ pollSleep settings p later = .ok short ∧
      short.nanos ≤ long.nanos

section Lengths

variable {settings : TenantSettings} {left less : Int}

/-- The limits between which a share of the time that is left is clamped are in order. -/
theorem minPolling_le_effectivePolling (settings : TenantSettings) :
    settings.minPolling.nanos ≤ settings.effectivePolling.nanos :=
  Nat.le_max_right _ _

/-- A device sleeps for its share of the time that is left, between the limits. -/
theorem nanos_sleepOf (ahead : 0 ≤ left) : (sleepOf settings (some left)).nanos =
    min (max (left.toNat / max settings.windowPolls 1) settings.minPolling.nanos)
      settings.effectivePolling.nanos := by
  -- The shortest sleep is within the longest one, so the lower limit stands as it is.
  have limit : Nat.min settings.minPolling.nanos settings.effectivePolling.nanos =
      settings.minPolling.nanos := Nat.min_eq_left (minPolling_le_effectivePolling settings)
  simp only [sleepOf, if_neg (Int.not_lt.mpr ahead), Span.max, Span.min, Span.share, limit]

/-- However much time is left, a device sleeps for as long as the limits allow. -/
theorem sleepOf_bounds (settings : TenantSettings) (left : Option Int) :
    settings.minPolling.nanos ≤ (sleepOf settings left).nanos ∧
      (sleepOf settings left).nanos ≤ settings.effectivePolling.nanos := by
  have limits := minPolling_le_effectivePolling settings
  cases left with
  | none => exact ⟨limits, Nat.le_refl _⟩
  | some left =>
    -- A start that the clock has already passed is treated like none.
    by_cases past : left < 0
    · rw [sleepOf, if_pos past]
      exact ⟨limits, Nat.le_refl _⟩
    · rw [nanos_sleepOf (Int.not_lt.mp past)]
      omega

/-- A device does not sleep for longer than there is time left, if that is the shortest sleep. -/
theorem sleepOf_le_left (enough : settings.minPolling.nanos ≤ left) :
    (sleepOf settings (some left)).nanos ≤ left := by
  have share := Nat.div_le_self left.toNat (max settings.windowPolls 1)
  rw [nanos_sleepOf (by omega)]
  omega

/-- With less time left, a device sleeps no longer. -/
theorem sleepOf_mono (ahead : 0 ≤ less) (order : less ≤ left) :
    (sleepOf settings (some less)).nanos ≤ (sleepOf settings (some left)).nanos := by
  have share : less.toNat / max settings.windowPolls 1 ≤ left.toNat / max settings.windowPolls 1 :=
    Nat.div_le_div_right (Int.toNat_le_toNat order)
  rw [nanos_sleepOf ahead, nanos_sleepOf (Int.le_trans ahead order)]
  omega

end Lengths

section Instants

variable {settings : TenantSettings} {p : Policy} {now s : Instant} {next : Option Instant}

/-- The time that is left until a start, if that lies ahead. -/
def leftUntil (now : Instant) (next : Option Instant) : Option Int :=
  next.bind fun s => if now.before s then some (s.since now) else none

/-- The sleep follows from the start of the window alone. -/
theorem pollSleep_of_start (start : p.start now = .ok next) :
    pollSleep settings p now = .ok (sleepOf settings (leftUntil now next)) := by
  have left : p.untilStart now = .ok (leftUntil now next) := by
    cases p with
    | always =>
      -- Without a schedule there is no start to wait for.
      cases start
      rfl
    | within w =>
      -- A window that never opens again leaves no time, like a policy without a schedule.
      have start : w.start now = .ok next := start
      cases next <;> simp [Policy.untilStart, Window.untilStart, start, leftUntil, bind,
        Except.bind, pure, Except.pure]
  simp only [pollSleep, left, bind, Except.bind]
  cases leftUntil now next with
  | none => rfl
  | some left => by_cases past : left < 0 <;> simp [sleepOf, past, pure, Except.pure]

/-- A device that waits for a window sleeps by the time that is left until it opens. -/
theorem Awaits.pollSleep_eq (awaits : Awaits p now s) :
    pollSleep settings p now = .ok (sleepOf settings (some (s.since now))) := by
  rw [pollSleep_of_start awaits.next, leftUntil, Option.bind_some, if_pos awaits.ahead]

/-- Windows open at whole seconds. -/
theorem Awaits.whole (awaits : Awaits p now s) : s.nanos = 0 := by
  have next := awaits.next
  cases p with
  | always => cases next
  | within w =>
    obtain ⟨_, -, next⟩ := Result.bind_eq_ok.mp next
    obtain ⟨_, -, next⟩ := Result.bind_eq_ok.mp next
    obtain ⟨second, -, made⟩ := Option.bind_eq_some_iff.mp (Except.ok.inj next)
    exact (Instant.ofParts?_eq_some made).2

/-- Outside of leap seconds, the time that is left is the distance of the two instants. -/
theorem Awaits.since_eq (awaits : Awaits p now s) (usual : now.isLeap = false) :
    s.since now = s.total - now.total :=
  Instant.since_eq usual (Instant.not_leap_of_whole awaits.whole)

/-- A device that waits for no window has no time left until one. -/
theorem leftUntil_idle (start : p.start now = .ok next) (idle : ¬ ∃ s, Awaits p now s) :
    leftUntil now next = none := by
  cases next with
  | none => rfl
  | some s =>
    have past : ¬ now.before s = true := fun ahead => idle ⟨s, start, ahead⟩
    rw [leftUntil, Option.bind_some, if_neg past]

/-- Whenever the windows can be computed, a device is told to sleep as it should. -/
theorem pollSleep_sleeps (start : p.start now = .ok next) :
    ∃ sleep, pollSleep settings p now = .ok sleep ∧ Sleeps settings p now sleep := by
  have bounds := sleepOf_bounds settings (leftUntil now next)
  refine ⟨_, pollSleep_of_start start, bounds.1, bounds.2, ?_, ?_⟩
  · intro idle
    rw [leftUntil_idle start idle]
    rfl
  · intro s awaits enough
    -- The window that is waited for is the one that has been computed.
    obtain rfl : next = some s := Except.ok.inj (start.symm.trans awaits.next)
    rw [leftUntil, Option.bind_some, if_pos awaits.ahead]
    exact sleepOf_le_left enough

/-- Outside of leap seconds, the sooner of two instants has more time left. -/
theorem Awaits.since_le {earlier later : Instant} (awaits : Awaits p earlier s)
    (still : Awaits p later s) (usual : earlier.isLeap = false) (usual' : later.isLeap = false)
    (order : earlier.notAfter later = true) :
    0 ≤ s.since later ∧ s.since later ≤ s.since earlier := by
  -- Both differences are taken from the same start, so the order of the instants decides.
  rw [awaits.since_eq usual, still.since_eq usual']
  have ahead := (Instant.before_whole still.whole).mp still.ahead
  have short := Instant.nanos_lt_of_not_leap usual
  have short' := Instant.nanos_lt_of_not_leap usual'
  have parts := Instant.notAfter_iff.mp order
  rw [Instant.total_whole still.whole]
  unfold Instant.total nanosPerSecond at *
  omega

end Instants

/-- What holds of the times for which devices are told to sleep. -/
structure Polls (settings : TenantSettings) (p : Policy) : Prop where
  /-- The limits between which a share of the time that is left is clamped are in order. -/
  clamped : (settings.minPolling.min settings.effectivePolling).nanos ≤
    settings.effectivePolling.nanos
  /-- Whenever the windows can be computed, devices are told to sleep as they should. -/
  answered : ∀ now next, p.start now = .ok next →
    ∃ sleep, pollSleep settings p now = .ok sleep ∧ Sleeps settings p now sleep
  /-- Of two waits for the same window the shorter one does not have the longer sleep. -/
  paced : ∀ earlier later s, Awaits p earlier s → Awaits p later s →
    0 ≤ s.since later → s.since later ≤ s.since earlier →
    ∃ long short, pollSleep settings p earlier = .ok long ∧
      pollSleep settings p later = .ok short ∧ short.nanos ≤ long.nanos
  /-- Outside of leap seconds, the later wait is the shorter one. -/
  shrinks : ∀ earlier later, earlier.isLeap = false → later.isLeap = false →
    Shrinks settings p earlier later
  /-- Outside of leap seconds, devices are awake again when the window opens. -/
  awake : ∀ now s sleep, now.isLeap = false → Awaits p now s →
    settings.minPolling.nanos ≤ s.total - now.total → pollSleep settings p now = .ok sleep →
    now.total + sleep.nanos ≤ s.total

/-- Under any settings and any windows, devices sleep within the limits, ever shorter towards the
next window, and not past it. -/
theorem pollSleep_polls (settings : TenantSettings) (p : Policy) : Polls settings p := by
  have paced : ∀ earlier later s, Awaits p earlier s → Awaits p later s →
      0 ≤ s.since later → s.since later ≤ s.since earlier →
      ∃ long short, pollSleep settings p earlier = .ok long ∧
        pollSleep settings p later = .ok short ∧ short.nanos ≤ long.nanos :=
    fun earlier later s awaits still ahead order =>
      ⟨_, _, awaits.pollSleep_eq, still.pollSleep_eq, sleepOf_mono ahead order⟩
  exact {
    clamped := Nat.min_le_right _ _
    answered := fun now next start => pollSleep_sleeps start
    paced := paced
    shrinks := fun earlier later usual usual' s awaits still order =>
      have left := awaits.since_le still usual usual' order
      paced earlier later s awaits still left.1 left.2
    -- The sleep that ends within the time left is at most as long as that time.
    awake := by
      intro now s sleep usual awaits enough told
      have left := awaits.since_eq usual
      obtain rfl := Except.ok.inj (awaits.pollSleep_eq.symm.trans told)
      have short : (sleepOf settings (some (s.since now))).nanos ≤ s.since now :=
        sleepOf_le_left (by omega)
      omega }

/-- A window that opens at midnight. -/
def midnight : Policy :=
  match Window.read "0 0 0 * * *" "PT1H" "+00:00" with
  | .ok w => .within w
  | .error _ => .always

/-- An instant of the last second of a day in May 2024. -/
def beforeMidnight (nanos : Nat) (short : nanos < 2 * nanosPerSecond) : Instant :=
  ⟨1714607999, nanos, short, fun _ => by decide, by decide +kernel⟩

/-- The start of the next day. -/
def atMidnight : Instant :=
  ⟨1714608000, 0, Instant.epoch.nanos_lt, by decide, by decide +kernel⟩

/-- In the leap second before a window opens, devices are told to sleep for longer than earlier. -/
theorem leap_second_not_shrinks :
    ¬ Shrinks .standard midnight (beforeMidnight 0 (by decide))
      (beforeMidnight 1500000000 (by decide)) := by
  intro shrinks
  -- The same midnight is awaited before the leap second and within it.
  have awaits : Awaits midnight (beforeMidnight 0 (by decide)) atMidnight :=
    ⟨Result.eq_ok_of_toOption (by decide +kernel), by decide⟩
  have still : Awaits midnight (beforeMidnight 1500000000 (by decide)) atMidnight :=
    ⟨Result.eq_ok_of_toOption (by decide +kernel), by decide⟩
  have before : pollSleep .standard midnight (beforeMidnight 0 (by decide)) =
      .ok (.ofSeconds 30) := Result.eq_ok_of_toOption (by decide +kernel)
  -- From within the leap second it is less than no time until midnight.
  have inside : pollSleep .standard midnight (beforeMidnight 1500000000 (by decide)) =
      .ok (.ofSeconds 300) := Result.eq_ok_of_toOption (by decide +kernel)
  obtain ⟨long, short, slept, sleeps, order⟩ := shrinks atMidnight awaits still (by decide)
  obtain rfl := Except.ok.inj (before.symm.trans slept)
  obtain rfl := Except.ok.inj (inside.symm.trans sleeps)
  exact absurd order (by decide)

end DeviceUpdate
