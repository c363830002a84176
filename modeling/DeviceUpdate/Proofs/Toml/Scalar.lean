import DeviceUpdate.Proofs.Text.Splitting
import DeviceUpdate.Proofs.Toml.Text

/-! Values that hold no others are read as they are written at the end of a line. -/

namespace DeviceUpdate.Toml

variable {ds rest : List Char}

section Words

/-- Digits alone are no date. -/
theorem afterDate?_digits (digits : ∀ c ∈ ds, Text.isDigit c = true) : afterDate? ds = none := by
  unfold afterDate?
  split
  · exact absurd (digits '-' (by simp)) (by decide)
  · rfl

/-- Digits alone are no time of day. -/
theorem afterTime?_digits (digits : ∀ c ∈ ds, Text.isDigit c = true) : afterTime? ds = none := by
  -- A time has colons, and there is none among digits.
  have bare : ':' ∉ ds := fun member => absurd (digits ':' member) (by decide)
  unfold afterTime?
  cases first : field? 23 ds with
  | none => rfl
  | some read =>
    obtain ⟨hour, later⟩ := read
    have absent : ':' ∉ later := by
      unfold field? at first
      split at first
      · split at first
        · cases first
          simp only [List.mem_cons, not_or] at bare
          exact bare.2.2
        · cases first
      · cases first
    simp [Text.dropMark?_of_not_mem absent]

/-- A whole number of 63 bits is read from its digits. -/
theorem decimal?_decimal {n : Nat} (small : n < 2 ^ 63) :
    decimal? (Text.decimal n).toList = some (n : Int) := by
  have digits : ∀ c ∈ (Text.decimal n).toList, Text.isDigit c = true :=
    fun _ => Text.isDigit_of_mem_decimal
  have value := Text.numeralValue_decimal n
  have zero {rest : List Char} : (Text.decimal n).toList = '0' :: rest → rest = [] :=
    Text.decimal_zero_first
  have some : (Text.decimal n).toList ≠ [] := by simpa using Text.decimal_ne_empty n
  generalize (Text.decimal n).toList = ds at digits value zero some
  -- There is neither an underscore nor a sign, and no digit is left over.
  have joined : '_' ∉ ds := fun member => absurd (digits '_' member) (by decide)
  have unsigned : splitSign ds = (false, ds) := by
    unfold splitSign
    split
    · exact absurd (digits '-' (by simp)) (by decide)
    · exact absurd (digits '+' (by simp)) (by decide)
    · rfl
  have gathered : joinedDigits? Text.isDigit ds = .some ds := by
    simpa [joinedDigits?, Text.splitOn_of_not_mem joined, some] using digits
  have whole : wholeDigits? ds = .some ds := by
    unfold wholeDigits?
    rw [gathered]
    split
    · rename_i longer
      cases zero (Option.some.inj longer)
    · rfl
  have limit : (n : Int) < Nat.pow 2 63 := Int.ofNat_lt.mpr small
  -- The number is below the limit, which is that of 63 bits.
  rw [decimal?, unsigned]
  refine Option.bind_eq_some_iff.mpr ⟨ds, whole, ?_⟩
  rw [value]
  exact (if_neg Bool.false_ne_true).trans (if_pos limit)

theorem wordValue?_decimal {n : Nat} (small : n < 2 ^ 63) :
    wordValue? (Text.decimal n).toList = some (.integer n) := by
  have digits : ∀ c ∈ (Text.decimal n).toList, Text.isDigit c = true :=
    fun _ => Text.isDigit_of_mem_decimal
  have whole := decimal?_decimal small
  generalize (Text.decimal n).toList = ds at digits whole
  have number {word : String} (other : word.toList.all Text.isDigit = false) :
      String.ofList ds ≠ word := by
    rintro rfl
    rw [String.toList_ofList, List.all_eq_true.mpr digits] at other
    cases other
  -- Digits alone are neither a date nor a time, and they are neither of the two words.
  have date : isDate ds = false := by rw [isDate, afterDate?_digits digits]; rfl
  have dateTime : isDateTime ds = false := by rw [isDateTime, afterDate?_digits digits]
  have time : isTime false ds = false := by rw [isTime, afterTime?_digits digits]; rfl
  unfold wordValue?
  rw [date, dateTime, time]
  simp only [Bool.or_false, Bool.false_eq_true, if_false]
  split
  · exact absurd ‹_› (number (by decide))
  · exact absurd ‹_› (number (by decide))
  · rw [whole]
    rfl

/-- A word is read up to the end of its line. -/
theorem readWord?_line {cs : List Char} {j : Json} (word : ∀ c ∈ cs, isWordChar c = true)
    (value : wordValue? cs = some j) :
    readWord? (cs ++ '\n' :: rest) = some (j, '\n' :: rest) := by
  -- The word ends at the line end, and behind it there is no space and no second word.
  have run : (cs ++ '\n' :: rest).takeWhile isWordChar = cs :=
    Text.takeWhile_run word (by simp; decide)
  have left : (cs ++ '\n' :: rest).drop cs.length = '\n' :: rest := by simp
  have alone : Text.dropMark? [' '] ('\n' :: rest) = none := Text.dropMark?_other (by decide)
  simp only [readWord?, run, left, alone, Option.map_none, Option.filter_none, value,
    Option.map_some]

end Words

/-- A number, if it is one, has 63 bits and no sign. -/
def Scalar.Fits : Scalar → Prop
  | .integer n => 0 ≤ n ∧ n < 2 ^ 63
  | _ => True

/-- What opens neither an array nor a table holds no others. -/
theorem readValue?_scalar {c : Char} {cs : List Char} (closed : c ≠ '[' ∧ c ≠ '\x7b') :
    readValue? (c :: cs) = readScalar? (c :: cs) := by
  unfold readValue? maxNesting readNested?
  split
  · exact absurd (List.cons.inj ‹_›).1 closed.1
  · exact absurd (List.cons.inj ‹_›).1 closed.2
  · rfl

/-- What starts with no mark is a word. -/
theorem readScalar?_word {c : Char} {cs : List Char} (unquoted : c ≠ '"' ∧ c ≠ '\'') :
    readScalar? (c :: cs) = readWord? (c :: cs) := by
  -- Only a quotation mark opens a text.
  have bare : openQuotation? (c :: cs) = none := by
    unfold openQuotation?
    split
    · exact absurd (List.cons.inj ‹_›).1 unquoted.1
    · exact absurd (List.cons.inj ‹_›).1 unquoted.1
    · exact absurd (List.cons.inj ‹_›).1 unquoted.2
    · exact absurd (List.cons.inj ‹_›).1 unquoted.2
    · rfl
  simp [readScalar?, readText?, bare]

/-- A word is read as a value up to the end of its line. -/
theorem readValue?_word {cs : List Char} {j : Json} (word : ∀ c ∈ cs, isWordChar c = true)
    (some : cs ≠ []) (value : wordValue? cs = .some j) :
    readValue? (cs ++ '\n' :: rest) = .some (j, '\n' :: rest) := by
  have read : readWord? (cs ++ '\n' :: rest) = .some (j, '\n' :: rest) := readWord?_line word value
  obtain ⟨c, tail, rfl⟩ := List.exists_cons_of_ne_nil some
  have first : isWordChar c = true := word c List.mem_cons_self
  have other {mark : Char} (hidden : isWordChar mark = false) : c ≠ mark := by
    rintro rfl
    rw [first] at hidden
    cases hidden
  -- A character of a word opens neither an array nor a table nor a text.
  rw [List.cons_append, readValue?_scalar ⟨other (by decide), other (by decide)⟩,
    readScalar?_word ⟨other (by decide), other (by decide)⟩]
  exact read

/-- A value is read as it is written at the end of a line. -/
theorem readValue?_write (v : Scalar) (fits : v.Fits) :
    readValue? (v.write ++ '\n' :: rest) = some (v.toJson, '\n' :: rest) := by
  cases v with
  | text s =>
    have unquoted : Unquoted ('\n' :: rest) := by simp [Unquoted]
    have read := readText?_writeText s unquoted
    obtain ⟨c, cs, opens, mark⟩ := exists_writeText s
    have closed : c ≠ '[' ∧ c ≠ '\x7b' := by rcases mark with rfl | rfl <;> decide
    -- The text is quoted, so its first character is a mark.
    rw [Scalar.write, opens, List.cons_append, readValue?_scalar closed, readScalar?,
      ← List.cons_append, ← opens, read]
    rfl
  | integer n =>
    obtain ⟨positive, small⟩ := fits
    obtain ⟨m, rfl⟩ := Int.eq_ofNat_of_zero_le positive
    -- No sign is written, so the digits are the whole word.
    have written : (Scalar.integer m).write = (Text.decimal m).toList := by
      simp [Scalar.write]
    rw [written]
    refine readValue?_word (fun c member => ?_) ?_ (wordValue?_decimal (by omega))
    · simp [isWordChar, Text.isAlphanum_of_isDigit (Text.isDigit_of_mem_decimal member)]
    · simpa using Text.decimal_ne_empty m
  | flag b =>
    cases b with
    | true => exact readValue?_word (List.all_eq_true.mp rfl) (by decide) rfl
    | false => exact readValue?_word (List.all_eq_true.mp rfl) (by decide) rfl

end DeviceUpdate.Toml
