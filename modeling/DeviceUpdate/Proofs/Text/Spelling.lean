import DeviceUpdate.Text.Percent
import Mathlib.Algebra.GroupWithZero.Nat
import Mathlib.Algebra.Order.Group.Nat

/-! What texts spell. Numbers are read as they are written. Texts with percent signs never spell a
longer text, and spell themselves only where no percent sign starts an escape. -/

namespace DeviceUpdate.Text

section Numerals

/-- A number is written with digits only. -/
theorem isDigit_of_mem_decimal {n : Nat} {c : Char} (member : c ∈ (decimal n).toList) :
    isDigit c = true := by
  rw [decimal, Nat.toString_eq_ofList_toDigits, String.toList_ofList] at member
  exact Nat.isDigit_of_mem_toDigits (by decide) (by decide) member

/-- The digits of a number have its value. -/
theorem numeralValue_decimal (n : Nat) : numeralValue (decimal n).toList = n := by
  rw [decimal, Nat.toString_eq_ofList_toDigits, String.toList_ofList]
  have value := Nat.ofDigitChars_ten_toDigits (n := n)
  rw [Nat.ofDigitChars_eq_foldl] at value
  simpa only [numeralValue, digitValue, Nat.mul_comm] using value

theorem decimal_ne_empty (n : Nat) : decimal n ≠ "" := by
  rw [decimal, Nat.toString_eq_ofList_toDigits]
  intro empty
  exact Nat.toDigits_ne_nil (String.ofList_eq_empty_iff.mp empty)

theorem isNumeral_decimal (n : Nat) : isNumeral (decimal n).toList = true := by
  have some : (decimal n).toList ≠ [] := by simpa using decimal_ne_empty n
  simp only [isNumeral, Bool.and_eq_true, List.all_eq_true]
  exact ⟨by simpa using some, fun c => isDigit_of_mem_decimal⟩

/-- A number is read from its digits. -/
theorem natural?_decimal (n : Nat) : natural? (decimal n).toList = some n := by
  rw [natural?, if_pos (isNumeral_decimal n), numeralValue_decimal]

/-- A number below the limit is read as it is written. -/
theorem unsigned?_decimal {limit n : Nat} (small : n < limit) :
    unsigned? limit (decimal n).toList = some n := by
  have digits := fun c => @isDigit_of_mem_decimal n c
  have read := natural?_decimal n
  -- No sign stands in front of the digits.
  unfold unsigned?
  split
  · rename_i rest signed
    rw [signed] at digits
    cases digits '+' List.mem_cons_self
  · simp [read, small]

end Numerals

section Escapes

/-- How many bytes some characters take. -/
def size (cs : List Char) : Nat :=
  (cs.map Char.utf8Size).sum

@[simp] theorem size_nil : size [] = 0 := rfl

@[simp] theorem size_cons (c : Char) (cs : List Char) : size (c :: cs) = c.utf8Size + size cs :=
  rfl

@[simp] theorem size_append (cs ds : List Char) : size (cs ++ ds) = size cs + size ds := by
  simp [size]

/-- Every character takes a byte. -/
theorem eq_nil_of_size {cs : List Char} (none : size cs = 0) : cs = [] := by
  cases cs with
  | nil => rfl
  | cons c rest =>
    have positive := c.utf8Size_pos
    rw [size_cons] at none
    omega

/-- The bytes of a text are those of its characters. -/
theorem length_encoded (cs : List Char) : (cs.flatMap String.utf8EncodeChar).length = size cs := by
  simp [size, List.length_flatMap]

theorem utf8ByteSize_eq (s : String) : s.utf8ByteSize = size s.toList := by
  rw [← String.size_toByteArray, ← String.utf8Encode_toList, List.utf8Encode,
    List.size_toByteArray, length_encoded]

/-- A part of a text in front of it takes all of its bytes only if it is the whole. -/
theorem eq_of_prefix_of_size {front whole : List Char} (starts : front <+: whole)
    (long : size whole ≤ size front) : front = whole := by
  obtain ⟨rest, rfl⟩ := starts
  rw [size_append] at long
  have empty : rest = [] := eq_nil_of_size (by omega)
  rw [empty, List.append_nil]

/-- Whether some percent sign is followed by two hexadecimal digits. -/
def hasEscape : List Char → Bool
  | '%' :: high :: low :: rest =>
    (hexValue? high).isSome && (hexValue? low).isSome || hasEscape (high :: low :: rest)
  | _ :: rest => hasEscape rest
  | [] => false

/-- Characters with an escape spell fewer bytes than they take, and others spell themselves. -/
inductive Resolves (cs : List Char) : Prop
  | shortened (escape : hasEscape cs = true) (less : (percentBytes cs).length < size cs)
  | same (plain : hasEscape cs = false) (bytes : percentBytes cs = cs.flatMap String.utf8EncodeChar)

/-- What is spelled takes no more bytes than its spelling. -/
theorem Resolves.length_le {cs : List Char} (resolves : Resolves cs) :
    (percentBytes cs).length ≤ size cs := by
  cases resolves with
  | shortened escape less => exact less.le
  | same plain bytes => rw [bytes, length_encoded]

/-- A character in front that starts no escape makes no difference. -/
theorem Resolves.cons {c : Char} {cs : List Char} (resolves : Resolves cs)
    (escape : hasEscape (c :: cs) = hasEscape cs)
    (bytes : percentBytes (c :: cs) = String.utf8EncodeChar c ++ percentBytes cs) :
    Resolves (c :: cs) := by
  -- One more plain character adds the same number of bytes to both sides.
  cases resolves with
  | shortened found less =>
    refine .shortened (escape.trans found) ?_
    rw [bytes, List.length_append, String.length_utf8EncodeChar, size_cons]
    omega
  | same plain own => exact .same (escape.trans plain) (by rw [bytes, own, List.flatMap_cons])

theorem resolves (cs : List Char) : Resolves cs := by
  -- The induction follows the reading, which goes on behind an escape or behind one character.
  induction cs using percentBytes.induct with
  -- An escape takes three characters and leaves one byte.
  | case1 high low rest h l second first ih =>
    have one := high.utf8Size_pos
    have two := low.utf8Size_pos
    have short := ih.length_le
    refine .shortened (by simp [hasEscape, first, second]) ?_
    simp only [percentBytes, first, second, List.length_cons, size_cons]
    omega
  -- A percent sign without two digits behind it stands for itself.
  | case2 high low rest none ih =>
    have digits : ((hexValue? high).isSome && (hexValue? low).isSome) = false := by
      cases first : hexValue? high with
      | none => rfl
      | some h =>
        cases second : hexValue? low with
        | none => rfl
        | some l => exact (none h l first second).elim
    refine ih.cons (by simp [hasEscape, digits]) ?_
    rw [percentBytes]
    split
    · rename_i h l first second
      exact (none h l first second).elim
    · rfl
  | case3 c rest none ih =>
    refine ih.cons ?_ ?_
    · rw [hasEscape]
      exact none
    · rw [percentBytes]
      exact none
  | case4 => exact .same rfl rfl

/-- A text that spells another one, with its percent signs resolved. -/
def Spells (raw text : String) : Prop :=
  percentDecoded? raw.toList = some text

variable {raw text : String}

/-- The bytes of a text are those that it is spelled with. -/
theorem Spells.bytes (spells : Spells raw text) :
    text.toByteArray = (percentBytes raw.toList).toByteArray := by
  unfold Spells percentDecoded? String.fromUTF8? at spells
  split at spells
  · rw [← Option.some.inj spells]
    rfl
  · cases spells

/-- No text is spelled with fewer bytes than it takes. -/
theorem Spells.size_le (spells : Spells raw text) : size text.toList ≤ size raw.toList := by
  have length := (resolves raw.toList).length_le
  rw [← utf8ByteSize_eq, ← String.size_toByteArray, spells.bytes, List.size_toByteArray]
  exact length

/-- A text spells itself exactly if it has no escape. -/
theorem spells_self_iff : Spells text text ↔ hasEscape text.toList = false := by
  constructor
  · intro spells
    -- With an escape the spelling would be longer than the text.
    cases resolves text.toList with
    | shortened escape less =>
      have size := congrArg ByteArray.size spells.bytes
      rw [List.size_toByteArray, String.size_toByteArray, utf8ByteSize_eq] at size
      omega
    | same plain bytes => exact plain
  -- Without an escape every character is read as its own bytes.
  · intro plain
    cases resolves text.toList with
    | shortened escape less => simp [plain] at escape
    | same plain bytes =>
      have own : (percentBytes text.toList).toByteArray = text.toByteArray := by
        rw [bytes, ← String.utf8Encode_toList, List.utf8Encode]
      unfold Spells percentDecoded? String.fromUTF8?
      rw [dif_pos (own ▸ text.isValidUTF8)]
      exact congrArg some (String.toByteArray_inj.mp own)

end Escapes

end DeviceUpdate.Text
