import DeviceUpdate.Proofs.Result
import DeviceUpdate.Proofs.Text.Digits
import DeviceUpdate.Proofs.Text.Splitting
import DeviceUpdate.Time.Span

/-! Hours, minutes and seconds: spans are read as they are written, and which texts are read at all,
and which of them as what they say. -/

namespace DeviceUpdate.Span

section Clocks

/-- A span of whole seconds, as many as can be counted. -/
structure Whole (d : Span) : Prop where
  exact : d = ofSeconds d.seconds
  countable : d.seconds < secondLimit

variable {d : Span} {n : Nat}

theorem seconds_ofSeconds (n : Nat) : (ofSeconds n).seconds = n :=
  Nat.mul_div_cancel n (by decide)

theorem whole_ofSeconds (countable : n < secondLimit) : (ofSeconds n).Whole := by
  refine ⟨?_, ?_⟩ <;> rw [seconds_ofSeconds]
  exact countable

/-- A field is read from its digits, with a zero in front or without. -/
theorem clockField_padded (width : Nat) (countable : n < secondLimit) :
    clockField (Text.padded width n).toList = .ok n := by
  have numeral : Text.isNumeral (Text.padded width n).toList = true := by
    simp only [Text.isNumeral, Bool.and_eq_true, List.all_eq_true]
    exact ⟨by simpa using Text.padded_ne_nil width n, fun _ => Text.isDigit_of_mem_padded⟩
  rw [clockField, if_pos numeral, Text.numeralValue_padded]
  exact if_pos countable

/-- Three fields of digits are found between their colons, inside of the blanks around them. -/
theorem splitOn_fields {before hours minutes seconds behind : List Char}
    (blank : Text.Blank before ∧ Text.Blank behind)
    (digits : ∀ c ∈ hours ++ minutes ++ seconds, Text.isDigit c = true) :
    Text.splitOn ':' (Text.trim
      (before ++ (hours ++ ':' :: (minutes ++ ':' :: seconds)) ++ behind)) =
        [hours, minutes, seconds] := by
  -- No digit is a blank or a colon, so the ends stay and the cuts are at the two colons.
  have solid {c : Char} (member : c ∈ hours ++ minutes ++ seconds) : Text.isBlank c = false :=
    Text.isBlank_of_isDigit (digits c member)
  have colon : ':' ∉ hours ++ minutes ++ seconds := fun member =>
    absurd (digits ':' member) (by decide)
  simp only [List.mem_append, not_or] at solid colon
  have trimmed : Text.Trimmed (hours ++ ':' :: (minutes ++ ':' :: seconds)) := by
    refine Text.trimmed_of_solid fun c member => ?_
    simp only [List.mem_append, List.mem_cons] at member
    rcases member with member | rfl | member | rfl | member
    · exact solid (.inl (.inl member))
    · decide
    · exact solid (.inl (.inr member))
    · decide
    · exact solid (.inr member)
  rw [Text.trim_append blank.1 trimmed blank.2, Text.splitOn_append colon.1.1,
    Text.splitOn_append colon.1.2, Text.splitOn_of_not_mem colon.2]

/-- Hours, minutes and seconds are found between the colons where they are written. -/
theorem clockFields_padded {t : ClockTime} (countable : t.hours < secondLimit)
    (sexagesimal : t.minutes < 60 ∧ t.seconds < 60) :
    clockFields (Text.padded 2 t.hours ++ ":" ++ Text.padded 2 t.minutes ++ ":" ++
      Text.padded 2 t.seconds) = .ok t := by
  -- Minutes and seconds are small enough to be read like any field.
  have sixty : 60 ≤ secondLimit := by decide
  have first := clockField_padded 2 countable
  have second := clockField_padded 2 (Nat.lt_of_lt_of_le sexagesimal.1 sixty)
  have third := clockField_padded 2 (Nat.lt_of_lt_of_le sexagesimal.2 sixty)
  have text : (Text.padded 2 t.hours ++ ":" ++ Text.padded 2 t.minutes ++ ":" ++
      Text.padded 2 t.seconds).toList = (Text.padded 2 t.hours).toList ++
        ':' :: ((Text.padded 2 t.minutes).toList ++ ':' :: (Text.padded 2 t.seconds).toList) := by
    simp
  have fields := @splitOn_fields [] (Text.padded 2 t.hours).toList
    (Text.padded 2 t.minutes).toList (Text.padded 2 t.seconds).toList [] (by simp [Text.Blank])
    fun c member => by
      simp only [List.mem_append] at member
      rcases member with (member | member) | member <;> exact Text.isDigit_of_mem_padded member
  rw [List.nil_append, List.append_nil] at fields
  unfold clockFields
  rw [text, fields]
  dsimp only
  rw [first, second, third]
  exact if_neg (by simpa using sexagesimal)

/-- Seconds are summed up exactly, as far as they can be counted. -/
theorem ClockTime.total_eq_ok {t : ClockTime} :
    t.total = .ok n ↔ n = t.hours * 3600 + t.minutes * 60 + t.seconds ∧ n < secondLimit := by
  unfold total
  dsimp only
  -- The sum is exact where it can be counted, and otherwise there is none.
  split
  · rename_i countable
    rw [Except.ok.injEq]
    exact ⟨fun same => ⟨same.symm, same ▸ countable⟩, fun both => both.1.symm⟩
  · rename_i beyond
    exact ⟨nofun, fun both => (beyond (both.1 ▸ both.2)).elim⟩

theorem ClockTime.total_eq_overrun {t : ClockTime} :
    t.total = .error .overrun ↔ secondLimit ≤ t.hours * 3600 + t.minutes * 60 + t.seconds := by
  unfold total
  dsimp only
  split <;> simp <;> omega

/-- A clock is read where its fields are found and their seconds can be counted. -/
theorem readClock_eq_ok_iff {text : String} :
    readClock text = .ok n ↔ ∃ t, clockFields text = .ok t ∧ t.total = .ok n := by
  simp only [readClock, Result.bind_eq_ok, Result.mapError_eq_ok, Result.ofOverrun_eq_ok]

/-- The hours, minutes and seconds of a span are found in its clock. -/
theorem clockFields_clock (countable : d.seconds < secondLimit) : clockFields d.clock =
    .ok ⟨d.seconds / 3600, d.seconds % 3600 / 60, d.seconds % 60⟩ := by
  have hours : d.seconds / 3600 < secondLimit :=
    Nat.lt_of_le_of_lt (Nat.div_le_self d.seconds 3600) countable
  have sexagesimal : d.seconds % 3600 / 60 < 60 ∧ d.seconds % 60 < 60 := by omega
  exact @clockFields_padded ⟨d.seconds / 3600, d.seconds % 3600 / 60, d.seconds % 60⟩ hours
    sexagesimal

/-- The seconds of a span are read from its clock. -/
theorem readClock_clock (countable : d.seconds < secondLimit) :
    readClock d.clock = .ok d.seconds := by
  refine readClock_eq_ok_iff.mpr ⟨_, clockFields_clock countable, ?_⟩
  refine ClockTime.total_eq_ok.mpr ⟨?_, countable⟩
  show d.seconds = d.seconds / 3600 * 3600 + d.seconds % 3600 / 60 * 60 + d.seconds % 60
  omega

/-- A span of whole seconds is read as it is written. -/
theorem Whole.read_clock (whole : d.Whole) : read readClock d.clock = .ok d := by
  rw [read, readClock_clock whole.countable]
  exact congrArg _ whole.exact.symm

/-- Whatever is read as a clock is a span of whole seconds. -/
theorem whole_of_read {text : String} (found : read readClock text = .ok d) : d.Whole := by
  unfold read at found
  split at found
  · rename_i clock
    cases found
    obtain ⟨t, -, total⟩ := readClock_eq_ok_iff.mp clock
    exact whole_ofSeconds (ClockTime.total_eq_ok.mp total).2
  · cases found

end Clocks

open Text (Blank Worth trim)

/-- A text that says hours, minutes and seconds: digits between colons, and blanks around them. -/
inductive SaysClock (hours minutes seconds : Nat) (cs : List Char) : Prop
  | written (before first second third behind : List Char)
      (text : cs = before ++ (first ++ ':' :: (second ++ ':' :: third)) ++ behind)
      (blank : Blank before ∧ Blank behind)
      (worth : Worth hours first ∧ Worth minutes second ∧ Worth seconds third)
      (sexagesimal : minutes < 60 ∧ seconds < 60)

/-- The text says so many seconds, and they can be counted. -/
def Counts (n : Nat) (text : String) : Prop :=
  ∃ hours minutes seconds, SaysClock hours minutes seconds text.toList ∧
    n = hours * 3600 + minutes * 60 + seconds ∧ n < secondLimit

/-- The hours that a text says can be counted, but not the seconds that it says with them. -/
def Overruns (text : String) : Prop :=
  ∃ hours minutes seconds, SaysClock hours minutes seconds text.toList ∧ hours < secondLimit ∧
    secondLimit ≤ hours * 3600 + minutes * 60 + seconds

/-- A text is read as the seconds that it says if they can be counted, and is refused otherwise. -/
def Judged (text : String) : Prop :=
  (∃ n, readClock text = .ok n ∧ Counts n text) ∨
    (∃ fault, readClock text = .error (.refused fault)) ∧ ∀ n, ¬ Counts n text

variable {text other : String} {cs : List Char}
  {n n' hours minutes seconds hours' minutes' seconds' : Nat}

section Fields

/-- A field is one or more digits, with a value that can be counted. -/
theorem clockField_eq_ok : clockField cs = .ok n ↔ Worth n cs ∧ n < secondLimit := by
  rw [← Text.natural?_eq_some, clockField, Text.natural?]
  by_cases numeral : Text.isNumeral cs = true
  · simp only [if_pos numeral, Option.some_inj]
    by_cases countable : Text.numeralValue cs < secondLimit
    · simp only [if_pos countable, Except.ok.injEq]
      exact ⟨fun same => ⟨same, same ▸ countable⟩, And.left⟩
    · simp only [if_neg countable, reduceCtorEq, false_iff]
      intro both
      exact countable (both.1 ▸ both.2)
  · simp [if_neg numeral]

/-- What a text says is found in the three fields between its colons. -/
theorem SaysClock.fields (said : SaysClock hours minutes seconds cs) :
    ∃ first second third, Text.splitOn ':' (trim cs) = [first, second, third] ∧
      Worth hours first ∧ Worth minutes second ∧ Worth seconds third := by
  obtain ⟨before, first, second, third, behind, rfl, blank, worth, -⟩ := said
  refine ⟨first, second, third, splitOn_fields blank fun c member => ?_, worth⟩
  simp only [List.mem_append] at member
  -- Between the colons there are only digits, which are neither colons nor blanks.
  rcases member with (member | member) | member
  · exact worth.1.digits c member
  · exact worth.2.1.digits c member
  · exact worth.2.2.digits c member

theorem SaysClock.sexagesimal (said : SaysClock hours minutes seconds cs) :
    minutes < 60 ∧ seconds < 60 := by
  obtain ⟨_, _, _, _, _, -, -, -, sexagesimal⟩ := said
  exact sexagesimal

/-- A text says one time only. -/
theorem SaysClock.unique (said : SaysClock hours minutes seconds cs)
    (again : SaysClock hours' minutes' seconds' cs) :
    hours' = hours ∧ minutes' = minutes ∧ seconds' = seconds := by
  -- The two readings share the three fields, and a field has one value.
  obtain ⟨first, second, third, fields, worth⟩ := said.fields
  obtain ⟨first', second', third', fields', worth'⟩ := again.fields
  rw [fields'] at fields
  cases fields
  exact ⟨worth'.1.value.symm.trans worth.1.value, worth'.2.1.value.symm.trans worth.2.1.value,
    worth'.2.2.value.symm.trans worth.2.2.value⟩

end Fields

section Reading

/-- The fields of a text are found if it says a time of which the hours can be counted. -/
theorem clockFields_eq_ok {t : ClockTime} : clockFields text = .ok t ↔
    SaysClock t.hours t.minutes t.seconds text.toList ∧ t.hours < secondLimit := by
  have sixty : 60 ≤ secondLimit := by decide
  -- What is read has passed each check, and was put together from three pieces.
  constructor
  · intro found
    unfold clockFields at found
    split at found
    · rename_i first second third pieces
      obtain ⟨hours, hoursRead, found⟩ := Result.bind_eq_ok.mp found
      obtain ⟨minutes, minutesRead, found⟩ := Result.bind_eq_ok.mp found
      obtain ⟨seconds, secondsRead, found⟩ := Result.bind_eq_ok.mp found
      rw [clockField_eq_ok] at hoursRead minutesRead secondsRead
      split at found
      · cases found
      · rename_i sexagesimal
        cases found
        -- The pieces and the colons between them are all that is left inside of the blanks.
        have whole : [':'].intercalate (Text.splitOn ':' (trim text.toList)) =
            trim text.toList := by
          rw [Text.splitOn_eq, List.intercalate_splitOn]
        rw [pieces] at whole
        obtain ⟨before, behind, start, stop, same⟩ := Text.exists_trim text.toList
        rw [← whole] at same
        refine ⟨.written before first second third behind ?_ ⟨start, stop⟩
          ⟨hoursRead.1, minutesRead.1, secondsRead.1⟩ (by simpa using sexagesimal), hoursRead.2⟩
        simpa [List.intercalate_cons_cons] using same
    · cases found
  · rintro ⟨said, countable⟩
    -- The pieces are the fields that were written, and each of them is read.
    obtain ⟨first, second, third, fields, worth⟩ := said.fields
    have sexagesimal := said.sexagesimal
    have hoursRead := clockField_eq_ok.mpr ⟨worth.1, countable⟩
    have minutesRead := clockField_eq_ok.mpr ⟨worth.2.1, sexagesimal.1.trans_le sixty⟩
    have secondsRead := clockField_eq_ok.mpr ⟨worth.2.2, sexagesimal.2.trans_le sixty⟩
    unfold clockFields
    rw [fields]
    dsimp only
    rw [hoursRead, minutesRead, secondsRead]
    exact if_neg (by simpa using sexagesimal)

/-- A text is read exactly if it says seconds that can be counted, and then as just as many. -/
theorem readClock_eq_ok : readClock text = .ok n ↔ Counts n text := by
  simp only [readClock_eq_ok_iff, clockFields_eq_ok, ClockTime.total_eq_ok]
  constructor
  · rintro ⟨t, ⟨said, -⟩, total⟩
    exact ⟨t.hours, t.minutes, t.seconds, said, total⟩
  · rintro ⟨hours, minutes, seconds, said, sum, countable⟩
    exact ⟨⟨hours, minutes, seconds⟩, ⟨said, by dsimp only; omega⟩, sum, countable⟩

/-- The reading of a text comes to too large a number exactly if the text says too many seconds with
its hours. -/
theorem readClock_eq_overrun : readClock text = .error .overrun ↔ Overruns text := by
  simp only [readClock, Result.bind_eq_error, Result.mapError_eq_error, Result.mapError_eq_ok,
    Result.ofOverrun_eq_error, clockFields_eq_ok, ClockTime.total_eq_overrun, and_true, reduceCtorEq,
    and_false, exists_false, false_or]
  -- Of the text it is left only whether its fields can be counted and their sum cannot.
  constructor
  · rintro ⟨t, ⟨said, countable⟩, beyond⟩
    exact ⟨t.hours, t.minutes, t.seconds, said, countable, beyond⟩
  · rintro ⟨hours, minutes, seconds, said, countable, beyond⟩
    exact ⟨⟨hours, minutes, seconds⟩, ⟨said, countable⟩, beyond⟩

/-- In either notation, it is only as a clock that a text leads to too large a number. -/
theorem readEither_eq_overrun : readEither text = .error .overrun ↔ Overruns text := by
  unfold readEither
  split
  · exact readClock_eq_overrun
  · rename_i units
    -- A text without a colon says no clock, and sums of units are checked as they grow.
    refine iff_of_false ?_ ?_
    · rw [Result.mapError_eq_error]
      rintro ⟨fault, -, same⟩
      cases same
    · rintro ⟨hours, minutes, seconds, ⟨before, first, second, third, behind, same, -⟩, -⟩
      simp [same] at units

/-- A text that says seconds which can be counted does not say too many as well. -/
theorem Counts.not_overruns (counts : Counts n text) : ¬ Overruns text := by
  intro overruns
  rw [← readClock_eq_overrun, readClock_eq_ok.mpr counts] at overruns
  cases overruns

/-- A text is judged unless it overruns: what is neither read nor stops the program is refused. -/
theorem judged_iff : Judged text ↔ ¬ Overruns text := by
  constructor
  · rintro (⟨n, -, counts⟩ | ⟨⟨fault, refused⟩, -⟩)
    · exact counts.not_overruns
    · rw [← readClock_eq_overrun, refused]
      nofun
  -- What was neither read nor refused has stopped the program.
  · intro within
    cases judged : readClock text with
    | ok n => exact .inl ⟨n, judged, readClock_eq_ok.mp judged⟩
    | error e =>
      cases e with
      | refused fault =>
        refine .inr ⟨⟨fault, judged⟩, fun n counts => ?_⟩
        rw [readClock_eq_ok.mpr counts] at judged
        cases judged
      | overrun => exact (within (readClock_eq_overrun.mp judged)).elim

/-- How a text is read as hours, minutes and seconds. -/
structure ReadsClock (text : String) : Prop where
  reads : ∀ n, readClock text = .ok n ↔ Counts n text
  overruns : readClock text = .error .overrun ↔ Overruns text
  judged_iff : Judged text ↔ ¬ Overruns text
  /-- More hours are read as a longer time. -/
  grows : ∀ {other : String} {n n' hours minutes seconds hours' minutes' seconds' : Nat},
    SaysClock hours minutes seconds text.toList →
    SaysClock hours' minutes' seconds' other.toList → hours < hours' →
    readClock text = .ok n → readClock other = .ok n' → n < n'

/-- Clocks are read as the seconds that they say. All others are refused, unless their hours can be
counted and their seconds cannot. -/
theorem clocks_read (text : String) : ReadsClock text where
  reads _ := readClock_eq_ok
  overruns := readClock_eq_overrun
  judged_iff := judged_iff
  grows := by
    intro other n n' hours minutes seconds hours' minutes' seconds' said saidOther more read readOther
    obtain ⟨hours₁, minutes₁, seconds₁, again, rfl, -⟩ := readClock_eq_ok.mp read
    obtain ⟨hours₂, minutes₂, seconds₂, againOther, rfl, -⟩ := readClock_eq_ok.mp readOther
    obtain ⟨rfl, rfl, rfl⟩ := said.unique again
    obtain ⟨rfl, rfl, rfl⟩ := saidOther.unique againOther
    -- The minutes and seconds of the one do not make up for the hour more of the other.
    have sexagesimal := said.sexagesimal
    omega

/-- One hour more than the longest clock of whole hours is neither read nor refused. -/
theorem longest_overruns :
    readClock "5124095576030431:00:00" = .ok 18446744073709551600 ∧
      readClock "5124095576030432:00:00" = .error .overrun ∧
      ¬ Judged "5124095576030432:00:00" := by
  have overruns : readClock "5124095576030432:00:00" = .error .overrun := by decide +kernel
  exact ⟨by decide +kernel, overruns,
    fun judged => judged_iff.mp judged (readClock_eq_overrun.mp overruns)⟩

end Reading

section Writing

variable {d : Span}

/-- A clock says the hours, minutes and seconds of its span. -/
theorem saysClock_clock (d : Span) : SaysClock (d.seconds / 3600) (d.seconds % 3600 / 60)
    (d.seconds % 60) d.clock.toList := by
  have worth (n : Nat) : Worth n (Text.padded 2 n).toList :=
    ⟨Text.padded_ne_nil 2 n, fun _ => Text.isDigit_of_mem_padded, Text.numeralValue_padded 2 n⟩
  refine .written [] _ _ _ [] ?_ (by simp [Blank]) ⟨worth _, worth _, worth _⟩ ⟨?_, ?_⟩
  · simp [clock]
  · omega
  · omega

/-- The hours, minutes and seconds that a clock says add up to what can be counted. -/
theorem not_overruns_clock (countable : d.seconds < secondLimit) : ¬ Overruns d.clock := by
  rintro ⟨hours, minutes, seconds, said, -, beyond⟩
  obtain ⟨rfl, rfl, rfl⟩ := (saysClock_clock d).unique said
  omega

/-- A span is recovered from its clock, but for the nanoseconds beyond its whole seconds. -/
structure Recovered (d : Span) : Prop where
  tells : SaysClock (d.seconds / 3600) (d.seconds % 3600 / 60) (d.seconds % 60) d.clock.toList
  /-- No sum that is computed for the clock leaves the 64 bits. -/
  fits : ¬ Overruns d.clock
  reads : read readClock d.clock = .ok (ofSeconds d.seconds)

/-- Reading undoes writing: what is written for a span is read as its whole seconds, and what is
read from a text is read again from the clock that is written for it. -/
theorem clocks_recovered :
    (∀ d : Span, d.seconds < secondLimit → Recovered d) ∧
      ∀ (text : String) (d : Span), read readClock text = .ok d →
        read readClock d.clock = .ok d := by
  constructor
  -- The clock of a span has fields in their ranges, so its own seconds come out again.
  · intro d countable
    refine ⟨saysClock_clock d, not_overruns_clock countable, ?_⟩
    rw [read, readClock_clock countable]
  · intro text d found
    exact (whole_of_read found).read_clock

/-- The longest span of which the seconds can be counted. -/
def greatest : Span :=
  ⟨secondLimit * nanosPerSecond - 1⟩

/-- The longest span has sixteen digits of hours, and is read from a text with other zeros in front
as from its clock. -/
theorem clocks_recovered_longest :
    greatest.clock = "5124095576030431:00:15" ∧ greatest.seconds < secondLimit ∧
      Recovered greatest ∧
      read readClock " 005124095576030431:0:015" = .ok (ofSeconds 18446744073709551615) ∧
      read readClock (ofSeconds 18446744073709551615).clock =
        .ok (ofSeconds 18446744073709551615) := by
  have accepted : read readClock " 005124095576030431:0:015" =
      .ok (ofSeconds 18446744073709551615) := by
    decide +kernel
  exact ⟨by decide +kernel, by decide, clocks_recovered.1 _ (by decide), accepted,
    clocks_recovered.2 _ _ accepted⟩

end Writing

end DeviceUpdate.Span
