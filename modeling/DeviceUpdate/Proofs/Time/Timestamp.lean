import DeviceUpdate.Proofs.Text.Digits
import DeviceUpdate.Proofs.Time.Calendar
import DeviceUpdate.Proofs.Time.Instant
import DeviceUpdate.Time.Timestamp
import Mathlib.Data.List.Basic

/-! Timestamps are read as they are written: every instant, leap seconds and far years included. -/

namespace DeviceUpdate.Timestamp

open Text (Numeral Stops isDigit padded)

variable {ds cs : List Char} {n : Nat}

section Fields

/-- Two digits are read as a field. -/
theorem readField?_numeral (numeral : Numeral 2 n ds) : readField? (ds ++ cs) = some (n, cs) := by
  obtain ⟨digits, length, value⟩ := numeral
  obtain ⟨a, b, rfl⟩ := List.length_eq_two.mp length
  have first : isDigit a = true := digits a (by simp)
  have second : isDigit b = true := digits b (by simp)
  unfold readField?
  rw [Text.trimStart_digits digits (by simp)]
  simp [first, second, value]

/-- A number of at most two digits is read as it is written. -/
theorem readField?_padded (short : n < 100) :
    readField? ((padded 2 n).toList ++ cs) = some (n, cs) :=
  readField?_numeral (Text.padded_numeral (by decide) short)

/-- A mark that is no blank is read where it stands. -/
theorem readMark?_cons {mark : Char} (solid : Text.isBlank mark = false) :
    readMark? mark (mark :: cs) = some cs := by
  simp [readMark?, Text.trimStart, solid]

/-- The digits of a year are read up to the mark that follows them. -/
theorem readYear?_digits (digits : ∀ c ∈ ds, isDigit c = true) (some : ds ≠ []) (stops : Stops cs) :
    readYear? ('-' :: ds ++ cs) = .some (-(Text.numeralValue ds : Int), cs) ∧
    readYear? ('+' :: ds ++ cs) = .some ((Text.numeralValue ds : Int), cs) ∧
    (ds.length = 4 → readYear? (ds ++ cs) = .some ((Text.numeralValue ds : Int), cs)) := by
  -- A year ends at the first character that is no digit.
  have taken := Text.takeWhile_digits digits stops
  have whole : ds.take (ds ++ cs).length = ds := List.take_of_length_le (by simp)
  have minus : Text.trimStart ('-' :: ds ++ cs) = '-' :: (ds ++ cs) := rfl
  have plus : Text.trimStart ('+' :: ds ++ cs) = '+' :: (ds ++ cs) := rfl
  have bare : Text.trimStart (ds ++ cs) = ds ++ cs := Text.trimStart_digits digits some
  obtain ⟨c, rest, rfl⟩ := List.exists_cons_of_ne_nil some
  unfold readYear?
  refine ⟨?_, ?_, fun four => ?_⟩
  · simp only [minus, taken, whole]
    simp
  · simp only [plus, taken, whole]
    simp
  · have short : (c :: rest).take 4 = c :: rest := List.take_of_length_le four.le
    simp only [List.cons_append] at bare taken ⊢
    rw [bare]
    -- A digit is none of the two signs.
    split
    · rename_i signed
      exact absurd (digits c List.mem_cons_self) (by rw [(List.cons.inj signed).1]; decide)
    · rename_i signed
      exact absurd (digits c List.mem_cons_self) (by rw [(List.cons.inj signed).1]; decide)
    · simp only [taken, short]
      simp

/-- A year is read as it is written. -/
theorem readYear?_year (y : Int) (stops : Stops cs) :
    readYear? ((year y).toList ++ cs) = some (y, cs) := by
  -- The digits are those of the magnitude, and the sign stands in front of them if there is one.
  have digits : ∀ c ∈ (padded 4 y.natAbs).toList, isDigit c = true :=
    fun _ => Text.isDigit_of_mem_padded
  have value := Text.numeralValue_padded 4 y.natAbs
  obtain ⟨minus, plus, bare⟩ := readYear?_digits digits (Text.padded_ne_nil 4 y.natAbs) stops
  rw [value] at minus plus bare
  unfold year
  split
  · rename_i negative
    have same : -(y.natAbs : Int) = y := by omega
    rw [same] at minus
    rw [String.toList_append]
    exact minus
  · have same : (y.natAbs : Int) = y := by omega
    rw [same] at plus bare
    -- Four digits need no sign, and more of them have a plus.
    split
    · have four : Text.Numeral 4 y.natAbs (padded 4 y.natAbs).toList :=
        Text.padded_numeral (by decide) (by omega)
      exact bare four.length
    · rw [String.toList_append]
      exact plus

/-- A date that exists is read as it is written. -/
theorem readDate?_written {d : Date} (valid : d.isValid = true) :
    readDate? ((year d.year).toList ++ '-' :: ((padded 2 d.month).toList ++
      '-' :: ((padded 2 d.day).toList ++ cs))) = some (d, cs) := by
  obtain ⟨-, month, -, day⟩ := Date.isValid_iff.mp valid
  -- Month and day have two digits each, since no month is longer than 31 days.
  have days : daysInMonth d.year d.month ≤ 31 := by
    unfold daysInMonth
    split <;> (try split) <;> omega
  have dash : Text.isBlank '-' = false := by decide
  have ends : Stops ('-' :: ((padded 2 d.month).toList ++
      '-' :: ((padded 2 d.day).toList ++ cs))) := Text.stops_cons (by decide)
  simp only [readDate?, readYear?_year d.year ends, readMark?_cons dash,
    readField?_padded (n := d.month) (by omega), readField?_padded (n := d.day) (by omega),
    Option.bind_eq_bind, Option.bind_some, valid, if_true]

/-- A fraction is read as it is written, up to the mark that follows it. -/
theorem readFraction?_fraction {nanos : Nat} (short : nanos < nanosPerSecond) :
    readFraction? ((fraction nanos).toList ++ 'Z' :: cs) = some (nanos, 'Z' :: cs) := by
  have stops : Stops ('Z' :: cs) := Text.stops_cons (by decide)
  -- Three, six or nine digits are read alike, as they are scaled to nanoseconds.
  have digits {width n : Nat} (positive : 0 < width) (least : width ≤ 9) (fits : n < 10 ^ width)
      (same : n * 10 ^ (9 - width) = nanos) :
      readFraction? (("." ++ padded width n).toList ++ 'Z' :: cs) = some (nanos, 'Z' :: cs) := by
    obtain ⟨digits, length, value⟩ := Text.padded_numeral positive fits
    -- The digits end where the zone begins.
    have spanned := Text.spanDigits_append digits stops
    have kept : (padded width n).toList.take 9 = (padded width n).toList :=
      List.take_of_length_le (by omega)
    rw [String.toList_append]
    simp only [String.reduceToList, List.cons_append, List.nil_append, readFraction?]
    rw [spanned]
    obtain ⟨c, rest, cons⟩ := List.exists_cons_of_ne_nil (Text.padded_ne_nil width n)
    rw [cons] at kept length value ⊢
    simp only [kept, length, value, Nat.pow_eq]
    rw [same]
  -- No digits are written for a whole second, and otherwise as few triples as will do.
  unfold fraction nanosPerSecond at *
  split
  · rename_i none
    rw [none]
    rfl
  · split
    · exact digits (by decide) (by decide) (by omega) (by omega)
    · split
      · exact digits (by decide) (by decide) (by omega) (by omega)
      · exact digits (by decide) (by decide) (by omega) (by omega)

/-- A time of day is read as it is written; a sixtieth second is a leap second. -/
theorem readTime?_written {second nanos : Nat} {leap : Bool} (day : second < 86400)
    (short : nanos < nanosPerSecond) (last : leap = true → second % 60 = 59) :
    readTime? ((padded 2 (second / 3600)).toList ++
      ':' :: ((padded 2 (second % 3600 / 60)).toList ++
        ':' :: ((padded 2 (second % 60 + if leap then 1 else 0)).toList ++
          ((fraction nanos).toList ++ 'Z' :: cs)))) =
      some ((second, if leap then nanosPerSecond + nanos else nanos), 'Z' :: cs) := by
  have colon : Text.isBlank ':' = false := by decide
  have seconds : second % 60 + (if leap then 1 else 0) < 100 := by
    split <;> omega
  -- Each field is read from its two digits, behind its mark.
  simp only [readTime?, readField?_padded (n := second / 3600) (by omega), readMark?_cons colon,
    readField?_padded (n := second % 3600 / 60) (by omega), readField?_padded seconds,
    readFraction?_fraction short, Option.bind_eq_bind, Option.bind_some]
  have parts : second / 3600 * 3600 + second % 3600 / 60 * 60 + second % 60 = second := by omega
  -- A leap second is written as the second after the last one of its minute.
  cases leap with
  | false =>
    simp only [Bool.false_eq_true, if_false, Nat.add_zero, parts]
    rw [if_neg (by simp; omega), if_neg (by omega)]
  | true =>
    have sixtieth : second % 60 + 1 = 60 := by rw [last rfl]
    have before : second / 3600 * 3600 + second % 3600 / 60 * 60 + 59 = second := by omega
    simp only [if_true, sixtieth, before]
    rw [if_neg (by simp; omega)]

end Fields

/-- The nanoseconds of an instant are those of its second, and a second more in a leap second. -/
theorem nanos_eq (t : Instant) : (if t.isLeap then nanosPerSecond + t.nanos % nanosPerSecond
    else t.nanos % nanosPerSecond) = t.nanos := by
  have long := t.nanos_lt
  -- The nanoseconds of a leap second go beyond a second, and those of others do not.
  unfold Instant.isLeap nanosPerSecond at *
  split
  · rename_i leap
    have past : 1000000000 ≤ t.nanos := of_decide_eq_true leap
    omega
  · rename_i usual
    have short : ¬ 1000000000 ≤ t.nanos := of_decide_eq_false (Bool.not_eq_true _ ▸ usual)
    omega

/-- What is written of an instant is read as that instant. -/
theorem read?_write (t : Instant) : read? (write t) = some t := by
  -- The parts that are written are in the ranges for which they are read.
  obtain ⟨valid, days⟩ := Date.ofDays_spec (t.seconds / secondsPerDay)
  have second : (t.secondOfDay.toNat : Int) = t.secondOfDay := by
    unfold Instant.secondOfDay secondsPerDay
    omega
  have day : t.secondOfDay.toNat < 86400 := by
    unfold Instant.secondOfDay secondsPerDay
    omega
  have last : t.isLeap = true → t.secondOfDay.toNat % 60 = 59 := by
    intro leap
    have ends := t.leap_at_end (of_decide_eq_true leap)
    unfold Instant.secondOfDay secondsPerDay
    omega
  have wall : t.seconds / secondsPerDay * secondsPerDay + t.secondOfDay = t.seconds := by
    unfold Instant.secondOfDay secondsPerDay
    omega
  have short : t.nanos % nanosPerSecond < nanosPerSecond := Nat.mod_lt _ (by decide)
  have bounds := t.in_calendar
  -- Date and time are read as they were written, and the offset is that of universal time.
  simp only [read?, write, writeDateTime, String.toList_append, String.reduceToList,
    List.append_assoc, List.cons_append, List.nil_append, readDate?_written valid,
    readTime?_written day short last, Option.bind_eq_bind, Option.bind_some]
  have offset : readOffset? (Text.trimStart ['Z']) = some (0, []) := by decide
  have separator : isSeparator 'T' = true := by decide
  simp only [separator, offset, Option.bind_some, List.all_nil, if_true, days, second, wall,
    nanos_eq, bounds.1, bounds.2, decide_true, Bool.and_true, Int.sub_zero, Instant.ofParts?_self]

end DeviceUpdate.Timestamp
