import DeviceUpdate.Proofs.Text.Spelling
import Mathlib.Data.List.Induction
import Mathlib.Tactic.Ring

/-! Runs of digits: where they end in a text, and what they are worth. -/

namespace DeviceUpdate.Text

/-- A run of so many digits that is worth a number. -/
structure Numeral (width n : Nat) (ds : List Char) : Prop where
  digits : ∀ c ∈ ds, isDigit c = true
  length : ds.length = width
  value : numeralValue ds = n

/-- No digit stands at the start of a text. -/
def Stops (cs : List Char) : Prop :=
  ∀ c ∈ cs.head?, isDigit c = false

variable {ds cs : List Char} {c : Char} {width n : Nat}

theorem stops_nil : Stops [] := by
  simp [Stops]

theorem stops_cons (other : isDigit c = false) : Stops (c :: cs) := by
  simpa [Stops] using other

section Readings

/-- One or more digits that are worth a number. -/
structure Worth (n : Nat) (ds : List Char) : Prop where
  some : ds ≠ []
  digits : ∀ c ∈ ds, isDigit c = true
  value : numeralValue ds = n

theorem natural?_eq_some : natural? cs = some n ↔ Worth n cs := by
  -- What is no numeral is read as nothing.
  by_cases numeral : isNumeral cs = true
  · rw [natural?, if_pos numeral, Option.some_inj]
    simp only [isNumeral, Bool.and_eq_true, Bool.not_eq_true', List.isEmpty_eq_false_iff,
      List.all_eq_true] at numeral
    exact ⟨fun value => ⟨numeral.1, numeral.2, value⟩, Worth.value⟩
  · rw [natural?, if_neg numeral]
    constructor
    · intro none
      cases none
    -- Digits alone are a numeral, so there would be one after all.
    · intro worth
      refine (numeral ?_).elim
      simp only [isNumeral, Bool.and_eq_true, Bool.not_eq_true', List.isEmpty_eq_false_iff,
        List.all_eq_true]
      exact ⟨worth.some, worth.digits⟩

/-- At most one plus sign may stand in front of the digits. -/
theorem unsigned?_eq_some {limit : Nat} :
    unsigned? limit cs = some n ↔
      n < limit ∧ ∃ sign ds, (sign = [] ∨ sign = ['+']) ∧ cs = sign ++ ds ∧ Worth n ds := by
  have plus : isDigit '+' = false := rfl
  unfold unsigned?
  split
  · rename_i rest
    simp only [Option.filter_eq_some_iff, natural?_eq_some, decide_eq_true_eq]
    constructor
    · exact fun ⟨worth, small⟩ => ⟨small, ['+'], rest, .inr rfl, rfl, worth⟩
    · rintro ⟨small, sign, ds, rfl | rfl, same, worth⟩
      -- A plus sign is no digit.
      · rw [List.nil_append] at same
        rw [worth.digits '+' (by simp [← same])] at plus
        cases plus
      · exact ⟨(List.cons.inj same).2 ▸ worth, small⟩
  -- Without a plus sign in front the number is the whole text.
  · rename_i unsigned
    simp only [Option.filter_eq_some_iff, natural?_eq_some, decide_eq_true_eq]
    constructor
    · exact fun ⟨worth, small⟩ => ⟨small, [], cs, .inl rfl, rfl, worth⟩
    · rintro ⟨small, sign, ds, rfl | rfl, same, worth⟩
      · exact ⟨same ▸ worth, small⟩
      · exact (unsigned ds same).elim

/-- One or more digits with at most one sign in front of them. -/
inductive Signed : Int → List Char → Prop
  | plain {n : Nat} {ds : List Char} (worth : Worth n ds) : Signed n ds
  | plus {n : Nat} {ds : List Char} (worth : Worth n ds) : Signed n ('+' :: ds)
  | minus {n : Nat} {ds : List Char} (worth : Worth n ds) : Signed (-n) ('-' :: ds)

/-- Without a minus in front, a signed number is read as an unsigned one. -/
theorem signed_iff_of_not_minus {n : Int} (other : ∀ ds, cs ≠ '-' :: ds) : Signed n cs ↔
    ∃ (value : Nat) (sign ds : List Char), n = value ∧ (sign = [] ∨ sign = ['+']) ∧
      cs = sign ++ ds ∧ Worth value ds := by
  -- A minus is the only sign that makes a number negative.
  constructor
  · intro signed
    cases signed with
    | plain worth => exact ⟨_, [], _, rfl, .inl rfl, rfl, worth⟩
    | plus worth => exact ⟨_, ['+'], _, rfl, .inr rfl, rfl, worth⟩
    | minus worth => exact (other _ rfl).elim
  · rintro ⟨value, sign, ds, rfl, rfl | rfl, rfl, worth⟩
    · exact .plain worth
    · exact .plus worth

/-- Behind a minus, the digits are read and their value is negated. -/
theorem signed?_minus {limit : Nat} {n : Int} : signed? limit ('-' :: ds) = some n ↔
    ∃ value : Nat, Worth value ds ∧ value ≤ limit ∧ -(value : Int) = n := by
  have negated : signed? limit ('-' :: ds) =
      ((natural? ds).filter (· ≤ limit)).map fun value : Nat => -(value : Int) := by
    rw [signed?]
    cases (natural? ds).filter (· ≤ limit) <;> rfl
  simp only [negated, Option.map_eq_some_iff, Option.filter_eq_some_iff, natural?_eq_some,
    decide_eq_true_eq, and_assoc]

theorem signed?_eq_some {limit : Nat} {n : Int} (positive : 0 < limit) :
    signed? limit cs = some n ↔ Signed n cs ∧ -limit ≤ n ∧ n < limit := by
  -- The sign decides which bound of the two the number could cross.
  by_cases minus : ∃ ds, cs = '-' :: ds
  · obtain ⟨ds, rfl⟩ := minus
    rw [signed?_minus]
    constructor
    · rintro ⟨value, worth, small, rfl⟩
      exact ⟨.minus worth, by omega, by omega⟩
    · rintro ⟨signed, small, -⟩
      -- A minus is no digit.
      cases signed with
      | plain worth => exact absurd (worth.digits '-' List.mem_cons_self) (by decide)
      | minus worth => exact ⟨_, worth, by omega, rfl⟩
  -- Without a minus the number is read as one without sign.
  · have other (ds : List Char) : cs ≠ '-' :: ds := fun same => minus ⟨ds, same⟩
    have unsigned : signed? limit cs = (unsigned? limit cs).map Int.ofNat := by
      unfold signed?
      split
      · exact (other _ rfl).elim
      · rfl
    simp only [unsigned, Option.map_eq_some_iff, unsigned?_eq_some, signed_iff_of_not_minus other]
    constructor
    · rintro ⟨value, ⟨small, sign, ds, mark, same, worth⟩, rfl⟩
      exact ⟨⟨value, sign, ds, rfl, mark, same, worth⟩, by simp only [Int.ofNat_eq_natCast]; omega,
        Int.ofNat_lt.mpr small⟩
    · rintro ⟨⟨value, sign, ds, rfl, mark, same, worth⟩, -, small⟩
      exact ⟨value, ⟨Int.ofNat_lt.mp small, sign, ds, mark, same, worth⟩, rfl⟩

end Readings

section Ends

/-- A digit is none of the characters outside of the range of digits. -/
theorem isDigit_iff : isDigit c = true ↔ 48 ≤ c.toNat ∧ c.toNat ≤ 57 := by
  simp only [isDigit, Bool.and_eq_true, decide_eq_true_eq]
  exact Iff.rfl

/-- Digits are no blanks. -/
theorem isBlank_of_isDigit (digit : isDigit c = true) : isBlank c = false := by
  have range := isDigit_iff.mp digit
  simp [isBlank]
  omega

/-- Digits are letters or digits. -/
theorem isAlphanum_of_isDigit (digit : isDigit c = true) : c.isAlphanum = true := by
  have numeric : c.isDigit = true := by
    rw [Char.isDigit_iff_toNat]
    exact isDigit_iff.mp digit
  simp [Char.isAlphanum, numeric]

/-- A run of characters ends in front of the first other one. -/
theorem takeWhile_run {test : Char → Bool} (run : ∀ c ∈ ds, test c = true)
    (ends : ∀ c ∈ cs.head?, test c = false) : (ds ++ cs).takeWhile test = ds := by
  rw [List.takeWhile_append_of_pos run]
  cases cs with
  | nil => simp
  | cons c rest =>
    have other : test c = false := ends c rfl
    simp [other]

/-- A run of digits ends where the digits do. -/
theorem takeWhile_digits (digits : ∀ c ∈ ds, isDigit c = true) (stops : Stops cs) :
    (ds ++ cs).takeWhile isDigit = ds :=
  takeWhile_run digits stops

theorem dropWhile_digits (digits : ∀ c ∈ ds, isDigit c = true) (stops : Stops cs) :
    (ds ++ cs).dropWhile isDigit = cs := by
  rw [List.dropWhile_append_of_pos digits]
  cases cs with
  | nil => rfl
  | cons c rest =>
    have other : isDigit c = false := stops c rfl
    simp [other]

/-- The digits at the start of a text are read up to the first other character. -/
theorem spanDigits_append (digits : ∀ c ∈ ds, isDigit c = true) (stops : Stops cs) :
    spanDigits (ds ++ cs) = (ds, cs) := by
  rw [spanDigits, takeWhile_digits digits stops, dropWhile_digits digits stops]

/-- No blanks stand in front of digits. -/
theorem trimStart_digits (digits : ∀ c ∈ ds, isDigit c = true) (some : ds ≠ []) :
    trimStart (ds ++ cs) = ds ++ cs := by
  obtain ⟨c, rest, rfl⟩ := List.exists_cons_of_ne_nil some
  have solid := isBlank_of_isDigit (digits c List.mem_cons_self)
  simp [trimStart, solid]

end Ends

section Values

/-- Digits in front of others are worth a power of ten more. -/
theorem numeralValue_append (front back : List Char) :
    numeralValue (front ++ back) = numeralValue front * 10 ^ back.length + numeralValue back := by
  induction back using List.reverseRecOn with
  | nil => simp [numeralValue]
  | append_singleton back c ih =>
    -- The last digit moves all digits before it up by one place.
    have step (cs : List Char) (c : Char) :
        numeralValue (cs ++ [c]) = numeralValue cs * 10 + digitValue c := by
      simp [numeralValue]
    rw [← List.append_assoc, step, step, ih, List.length_append, List.length_singleton]
    ring

/-- Zeros are worth nothing. -/
theorem numeralValue_zeros (count : Nat) : numeralValue (List.replicate count '0') = 0 := by
  induction count with
  | zero => rfl
  | succ count ih =>
    rw [List.replicate_succ', numeralValue_append, ih]
    rfl

theorem length_decimal_le (some : 0 < width) : (decimal n).length ≤ width ↔ n < 10 ^ width := by
  rw [decimal, Nat.toString_eq_ofList_toDigits, String.length_ofList]
  exact Nat.length_toDigits_le_iff (by decide) some

/-- The digits of a number with zeros in front. -/
theorem toList_padded (width n : Nat) : (padded width n).toList =
    List.replicate (width - (decimal n).length) '0' ++ (decimal n).toList := by
  rw [padded, String.toList_append, String.toList_ofList]

theorem isDigit_of_mem_padded (member : c ∈ (padded width n).toList) : isDigit c = true := by
  rw [toList_padded, List.mem_append, List.mem_replicate] at member
  rcases member with ⟨-, rfl⟩ | member
  · rfl
  · exact isDigit_of_mem_decimal member

/-- Zeros in front do not change what a number is worth. -/
theorem numeralValue_padded (width n : Nat) : numeralValue (padded width n).toList = n := by
  rw [toList_padded, numeralValue_append, numeralValue_zeros, numeralValue_decimal, Nat.zero_mul,
    Nat.zero_add]

theorem padded_ne_nil (width n : Nat) : (padded width n).toList ≠ [] := by
  rw [toList_padded]
  simp [decimal_ne_empty]

/-- A number that is not too long fills its width. -/
theorem padded_numeral (some : 0 < width) (short : n < 10 ^ width) :
    Numeral width n (padded width n).toList where
  digits _ := isDigit_of_mem_padded
  length := by
    have fits := (length_decimal_le some).mpr short
    rw [toList_padded, List.length_append, List.length_replicate, String.length_toList]
    omega
  value := numeralValue_padded width n

/-- Only zero is written with a zero in front. -/
theorem decimal_zero_first {rest : List Char} (zero : (decimal n).toList = '0' :: rest) :
    rest = [] := by
  rw [decimal, Nat.toString_eq_ofList_toDigits, String.toList_ofList] at zero
  -- A number of one digit has nothing behind it.
  induction n using Nat.strongRecOn generalizing rest with
  | ind n ih =>
    by_cases single : n < 10
    · rw [Nat.toDigits_of_lt_base single] at zero
      exact (List.cons.inj zero).2.symm
    · -- The digits in front of the last one are those of a smaller number that is not zero.
      rw [Nat.toDigits_of_base_le (by decide) (by omega)] at zero
      obtain ⟨c, front, digits⟩ :=
        List.exists_cons_of_ne_nil (Nat.toDigits_ne_nil (n := n / 10) (b := 10))
      rw [digits, List.cons_append] at zero
      obtain ⟨rfl, same⟩ := List.cons.inj zero
      have empty := ih (n / 10) (by omega) digits
      subst empty
      have value := Nat.ofDigitChars_ten_toDigits (n := n / 10)
      rw [digits] at value
      -- A zero in front would be that smaller number, which was not zero.
      have none : n / 10 = 0 := value.symm
      omega

end Values

section Hexadecimal

/-- The digits of a number in either case. -/
theorem hexValue?_digitChar (upper : Bool) :
    ∀ d < 16, hexValue? (if upper then d.digitChar.toUpper else d.digitChar) = some d := by
  cases upper <;> decide

/-- What hexadecimal digits add to a value in front of them. -/
def hexStep (value : Nat) (c : Char) : Option Nat :=
  (hexValue? c).map (value * 16 + ·)

theorem hexNatural?_eq {cs : List Char} (some : cs ≠ []) :
    hexNatural? cs = cs.foldlM hexStep 0 := by
  rw [hexNatural?, if_neg (by simpa using some)]
  rfl

theorem hexNatural?_toDigits (upper : Bool) (n : Nat) :
    ((Nat.toDigits 16 n).map fun c => if upper then c.toUpper else c).foldlM hexStep 0 =
      some n := by
  induction n using Nat.strongRecOn with
  | ind n ih =>
    by_cases single : n < 16
    · have value := hexValue?_digitChar upper n single
      rw [Nat.toDigits_of_lt_base single]
      simp [hexStep, value]
    · -- The digits in front of the last one are those of a sixteenth.
      have last := hexValue?_digitChar upper (n % 16) (Nat.mod_lt n (by decide))
      rw [Nat.toDigits_of_base_le (by decide) (by omega), List.map_append, List.foldlM_append,
        ih (n / 16) (by omega)]
      simp [hexStep, last]
      omega

/-- A number is read from its hexadecimal digits, with zeros in front or without. -/
theorem hexNatural?_hexPadded (upper : Bool) (width n : Nat) :
    hexNatural? (hexPadded upper width n).toList = some n := by
  -- Zeros in front leave the value at zero, from which the digits are read.
  have zeros (count : Nat) : (List.replicate count '0').foldlM hexStep 0 = some 0 := by
    induction count with
    | zero => rfl
    | succ count ih => exact ih
  have nonempty : (hexPadded upper width n).toList ≠ [] := by
    simp [hexPadded, Nat.toDigits_ne_nil]
  rw [hexNatural?_eq nonempty, hexPadded, String.toList_ofList, List.foldlM_append, zeros]
  exact hexNatural?_toDigits upper n

/-- Zeros in front make no number longer than it may be. -/
theorem length_hexPadded_le {width most n : Nat} (upper : Bool) (within : width ≤ most)
    (some : 0 < most) (short : n < 16 ^ most) :
    (hexPadded upper width n).toList.length ≤ most := by
  have fits := (Nat.length_toDigits_le_iff (b := 16) (by decide) some).mpr short
  simp only [hexPadded, String.toList_ofList, List.length_append, List.length_replicate,
    List.length_map]
  omega

/-- Numbers that are not too long fill their width. -/
theorem length_hexPadded {width n : Nat} (upper : Bool) (some : 0 < width)
    (short : n < 16 ^ width) : (hexPadded upper width n).toList.length = width := by
  refine Nat.le_antisymm (length_hexPadded_le upper le_rfl some short) ?_
  simp only [hexPadded, String.toList_ofList, List.length_append, List.length_replicate,
    List.length_map]
  omega

/-- The hexadecimal digits of a number are digits. -/
theorem isSome_of_hexNatural? {cs : List Char} {n : Nat} (read : hexNatural? cs = some n) :
    ∀ c ∈ cs, (hexValue? c).isSome = true := by
  -- Every character is looked up before those behind it are read.
  have fold {cs : List Char} {value n : Nat} (read : cs.foldlM hexStep value = some n) :
      ∀ c ∈ cs, (hexValue? c).isSome = true := by
    induction cs generalizing value with
    | nil => simp
    | cons c cs ih =>
      rw [List.foldlM_cons] at read
      obtain ⟨next, first, others⟩ := Option.bind_eq_some_iff.mp read
      obtain ⟨d, digit, -⟩ := Option.map_eq_some_iff.mp first
      simpa [digit] using ih others
  unfold hexNatural? at read
  split at read
  · cases read
  · exact fold read

/-- A number that is not too long has four digits, which stand for it. -/
theorem hexPadded_four {n : Nat} (upper : Bool) (short : n < 16 ^ 4) :
    ∃ a b c d, (hexPadded upper 4 n).toList = [a, b, c, d] ∧
      hexNatural? [a, b, c, d] = some n := by
  have read := hexNatural?_hexPadded upper 4 n
  match written : (hexPadded upper 4 n).toList, length_hexPadded upper (by decide) short with
  | [a, b, c, d], _ => exact ⟨a, b, c, d, rfl, by rw [← written, read]⟩

/-- Four digits spell a number one after another. -/
theorem hexNatural?_four {a b c d : Char} {n : Nat} (read : hexNatural? [a, b, c, d] = some n) :
    ∃ w x y z, hexValue? a = some w ∧ hexValue? b = some x ∧ hexValue? c = some y ∧
      hexValue? d = some z ∧ ((w * 16 + x) * 16 + y) * 16 + z = n := by
  -- Of four characters that are read each one is a digit.
  have digits := isSome_of_hexNatural? read
  simp only [List.mem_cons, List.not_mem_nil, or_false, forall_eq_or_imp, forall_eq,
    Option.isSome_iff_exists] at digits
  obtain ⟨⟨w, first⟩, ⟨x, second⟩, ⟨y, third⟩, ⟨z, fourth⟩⟩ := digits
  refine ⟨w, x, y, z, first, second, third, fourth, ?_⟩
  simpa [hexNatural?, first, second, third, fourth] using read

theorem hexValue?_lt {c : Char} {d : Nat} (digit : hexValue? c = some d) : d < 16 := by
  unfold hexValue? at digit
  -- There are three ranges of digits, and each of them ends below sixteen.
  simp only [Bool.and_eq_true, decide_eq_true_eq] at digit
  split at digit
  · rename_i decimal
    have range := isDigit_iff.mp decimal
    have same : c.toNat - 48 = d := Option.some.inj digit
    omega
  · split at digit
    · rename_i lower
      have range : 97 ≤ c.toNat ∧ c.toNat ≤ 102 := lower
      have same : c.toNat - 97 + 10 = d := Option.some.inj digit
      omega
    · split at digit
      · rename_i upper
        have range : 65 ≤ c.toNat ∧ c.toNat ≤ 70 := upper
        have same : c.toNat - 65 + 10 = d := Option.some.inj digit
        omega
      · cases digit

/-- So many hexadecimal digits are worth less than that power of sixteen. -/
theorem hexNatural?_lt {cs : List Char} {n : Nat} (read : hexNatural? cs = some n) :
    n < 16 ^ cs.length := by
  -- What has been read so far weighs sixteen times as much with every further digit.
  have fold {cs : List Char} {value n : Nat} (read : cs.foldlM hexStep value = some n) :
      n + 1 ≤ (value + 1) * 16 ^ cs.length := by
    induction cs generalizing value with
    | nil =>
      cases read
      simp
    | cons c cs ih =>
      rw [List.foldlM_cons] at read
      obtain ⟨next, first, others⟩ := Option.bind_eq_some_iff.mp read
      obtain ⟨d, digit, same⟩ := Option.map_eq_some_iff.mp first
      have small := hexValue?_lt digit
      calc n + 1 ≤ (next + 1) * 16 ^ cs.length := ih others
        _ ≤ ((value + 1) * 16) * 16 ^ cs.length := Nat.mul_le_mul_right _ (by omega)
        _ = (value + 1) * 16 ^ (c :: cs).length := by
          rw [List.length_cons, Nat.pow_succ', Nat.mul_assoc]
  unfold hexNatural? at read
  split at read
  · cases read
  · have bound := fold read
    omega

end Hexadecimal

end DeviceUpdate.Text
