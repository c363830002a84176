import DeviceUpdate.Json.Token
import DeviceUpdate.Json.Writer
import DeviceUpdate.Proofs.Text.Digits

/-! Which tokens a text is taken apart into: marks, quoted texts, numbers and literals. -/

namespace DeviceUpdate.Json

variable {cs rest front back : List Char} {c : Char} {t : Token} {found ahead behind : List Token}

/-- The tokens of what is left of a text, after those that have been found, last first. -/
def scan (tokens : List Token) (cs : List Char) : Option (List Token) :=
  (cs.foldlM Scan.step? ⟨tokens, .between⟩).bind Scan.finish?

/-- No number or literal goes on at the start of a text. -/
def EndsWord (cs : List Char) : Prop :=
  ∀ c ∈ cs.head?, isWordChar c = false

theorem endsWord_nil : EndsWord [] := by
  simp [EndsWord]

theorem endsWord_cons (other : isWordChar c = false) : EndsWord (c :: cs) := by
  simpa [EndsWord] using other

/-- A text gives these tokens, wherever it stands before the end of words. -/
def Spells (cs : List Char) (found : List Token) : Prop :=
  ∀ tokens rest, EndsWord rest → scan tokens (cs ++ rest) = scan (found.reverse ++ tokens) rest

section Texts

/-- Nothing gives no tokens. -/
theorem spells_nil : Spells [] [] :=
  fun _ _ _ => rfl

/-- A mark is a token by itself, whatever follows it. -/
theorem scan_mark (mark : mark? c = some t) (tokens : List Token) (cs : List Char) :
    scan tokens (c :: cs) = scan (t :: tokens) cs := by
  simp [scan, Scan.step?, Scan.stepBetween?, mark]

/-- No mark continues a number or a literal. -/
theorem isWordChar_of_mark (mark : mark? c = some t) : isWordChar c = false := by
  unfold mark? at mark
  split at mark
  case h_7 => cases mark
  all_goals decide

/-- A mark in front of a text. -/
theorem Spells.mark (spells : Spells cs found) (mark : mark? c = some t) :
    Spells (c :: cs) (t :: found) := by
  intro tokens rest ends
  rw [List.cons_append, scan_mark mark, spells _ _ ends, List.reverse_cons, List.append_assoc,
    List.singleton_append]

/-- Two texts with a mark between them. -/
theorem Spells.between (before : Spells front ahead) (after : Spells back behind)
    (mark : mark? c = some t) : Spells (front ++ c :: back) (ahead ++ t :: behind) := by
  intro tokens rest ends
  have next : EndsWord (c :: (back ++ rest)) := endsWord_cons (isWordChar_of_mark mark)
  rw [List.append_assoc, List.cons_append, before _ _ next, scan_mark mark, after _ _ ends,
    List.reverse_append, List.reverse_cons, List.append_assoc, List.append_assoc,
    List.singleton_append]

/-- A whole text gives the tokens that it spells. -/
theorem Spells.tokens? (spells : Spells cs found) : tokens? cs = some found := by
  have all := spells [] [] endsWord_nil
  rw [List.append_nil, List.append_nil] at all
  have last : scan found.reverse [] = some found := by
    simp [scan, Scan.finish?]
  rw [last] at all
  exact all

end Texts

section Words

/-- The characters of a word are gathered up to its end. -/
theorem foldlM_word (word : ∀ c ∈ cs, isWordChar c = true) (tokens : List Token)
    (chars : List Char) :
    cs.foldlM Scan.step? ⟨tokens, .word chars⟩ = some ⟨tokens, .word (cs.reverse ++ chars)⟩ := by
  induction cs generalizing chars with
  | nil => rfl
  | cons c cs ih =>
    have first : isWordChar c = true := word c List.mem_cons_self
    have others : ∀ c ∈ cs, isWordChar c = true :=
      fun c member => word c (List.mem_cons_of_mem _ member)
    -- Characters of a word are kept in reverse, so the new one stands in front of those gathered.
    simp [Scan.step?, first, ih others]

/-- What continues a word neither is a mark nor opens a quotation. -/
theorem stepBetween?_word (word : isWordChar c = true) (tokens : List Token) :
    Scan.stepBetween? tokens c = some ⟨tokens, .word [c]⟩ := by
  -- A mark is no character of a word, and neither is a space or a quotation mark.
  have unmarked : mark? c = none := by
    cases mark : mark? c with
    | none => rfl
    | some t => simp [isWordChar_of_mark mark] at word
  have solid : isSpace c = false := by
    unfold isSpace
    simp only [Bool.or_eq_false_iff, beq_eq_false_iff_ne]
    refine ⟨⟨⟨?_, ?_⟩, ?_⟩, ?_⟩ <;> (rintro rfl; revert word; decide)
  have bare : c ≠ '"' := by
    rintro rfl
    revert word
    decide
  simp [Scan.stepBetween?, unmarked, solid, bare, word]

/-- A word spells what it stands for. -/
theorem spells_word {j : Json} (word : ∀ c ∈ cs, isWordChar c = true) (some : cs ≠ [])
    (value : wordValue? cs = .some j) : Spells cs [.scalar j] := by
  intro tokens rest ends
  obtain ⟨c, cs, rfl⟩ := List.exists_cons_of_ne_nil some
  have first : isWordChar c = true := word c List.mem_cons_self
  have others : ∀ c ∈ cs, isWordChar c = true :=
    fun c member => word c (List.mem_cons_of_mem _ member)
  -- The whole word has been gathered when the rest begins.
  have gathered : (c :: cs).foldlM Scan.step? ⟨tokens, .between⟩ =
      .some ⟨tokens, .word (c :: cs).reverse⟩ := by
    simp [Scan.step?, stepBetween?_word first, foldlM_word others]
  unfold scan
  rw [List.foldlM_append, gathered]
  -- The word ends with the text or at the first character that is not part of it.
  cases rest with
  | nil => simp [Scan.finish?, value]
  | cons d rest =>
    have stops : isWordChar d = false := ends d rfl
    simp [Scan.step?, stops, value]

end Words

section Quotations

/-- A character is taken in as it is quoted. -/
theorem foldlM_escape (tokens : List Token) (chars : List Char) (c : Char) :
    (escape c).foldlM Scan.step? ⟨tokens, .quoted ⟨chars, none, true⟩⟩ =
      some ⟨tokens, .quoted ⟨c :: chars, none, true⟩⟩ := by
  unfold escape
  split
  case h_8 =>
    rename_i unquoted unslashed _ _ _ _ _
    have unquoted : c ≠ '"' := unquoted
    have unslashed : c ≠ '\\' := unslashed
    split
    · -- A control character is too small for a half of a surrogate pair.
      rename_i control
      obtain ⟨a, b, d, e, digits, value⟩ :=
        Text.hexPadded_four false (Nat.lt_trans control (by decide))
      have hex : ∀ x ∈ [a, b, d, e], (Text.hexValue? x).isNone = false := by
        simpa using Text.isSome_of_hexNatural? value
      have whole : ¬ (0xD800 ≤ c.toNat ∧ c.toNat < 0xDC00) ∧
          ¬ (0xDC00 ≤ c.toNat ∧ c.toNat < 0xE000) := by
        omega
      simp only [List.forall_mem_cons] at hex
      simp [digits, Scan.step?, hex, value, Quotation.pushUnit, whole, Quotation.push]
    · rename_i usual
      simp [Scan.step?, unquoted, unslashed, usual, Quotation.push]
  -- The seven characters with an escape of their own are computed.
  all_goals simp [Scan.step?, escapedChar?, Quotation.push]

/-- A text is taken in as it is quoted. -/
theorem foldlM_escapes (tokens : List Token) (chars cs : List Char) :
    (cs.flatMap escape).foldlM Scan.step? ⟨tokens, .quoted ⟨chars, none, true⟩⟩ =
      some ⟨tokens, .quoted ⟨cs.reverse ++ chars, none, true⟩⟩ := by
  induction cs generalizing chars with
  | nil => rfl
  | cons c cs ih =>
    rw [List.flatMap_cons, List.foldlM_append, foldlM_escape]
    simp [ih]

/-- A quoted text is one token, whatever follows it. -/
theorem spells_quote (s : String) : Spells (quote s).toList [.text (some s)] := by
  intro tokens rest _
  -- Between its quotation marks the text is a run of escapes, one for each character.
  have opened : Scan.step? ⟨tokens, .between⟩ '"' = some ⟨tokens, .quoted ⟨[], none, true⟩⟩ := rfl
  have closed : Scan.step? ⟨tokens, .quoted ⟨s.toList.reverse, none, true⟩⟩ '"' =
      some ⟨.text (some s) :: tokens, .between⟩ := by
    simp [Scan.step?, Quotation.finish]
  unfold scan
  rw [quote, String.toList_ofList, List.cons_append, List.cons_append, List.append_assoc,
    List.singleton_append, List.foldlM_cons, opened]
  simp [List.foldlM_append, foldlM_escapes, closed]

end Quotations

section Numbers

/-- The text of a number is taken apart into its sign and its digits. -/
theorem parts_decimal (negative : Bool) (n : Nat) :
    Decimal.Parts.read? ((if negative then ['-'] else []) ++ (Text.decimal n).toList) =
      some ⟨negative, (Text.decimal n).toList, none, none⟩ := by
  -- Only these four facts about the digits matter to the reader.
  have digits : ∀ c ∈ (Text.decimal n).toList, Text.isDigit c = true :=
    fun _ => Text.isDigit_of_mem_decimal
  have zero {rest : List Char} : (Text.decimal n).toList = '0' :: rest → rest = [] :=
    Text.decimal_zero_first
  have some : (Text.decimal n).toList ≠ [] := by simpa using Text.decimal_ne_empty n
  generalize (Text.decimal n).toList = ds at digits zero some
  have spanned : Text.spanDigits ds = (ds, []) := by
    have spanned := Text.spanDigits_append digits Text.stops_nil
    rwa [List.append_nil] at spanned
  have unsigned : ∀ rest, ds ≠ '-' :: rest := by
    rintro rest rfl
    exact absurd (digits _ List.mem_cons_self) (by decide)
  unfold Decimal.Parts.read?
  split
  rename_i sign whole signed
  have taken : (sign, whole) = (negative, ds) := by
    rw [← signed]
    cases negative with
    | true => rfl
    | false =>
      -- A digit is no sign.
      split
      · exact absurd ‹_› (unsigned _)
      · rfl
  cases taken
  rw [spanned]
  -- The digits are neither missing nor preceded by a zero.
  split
  · rename_i empty
    exact absurd (congrArg Prod.fst empty) some
  · rename_i longer
    cases zero (congrArg Prod.fst longer)
  · rename_i same
    cases same
    rfl

/-- What is taken apart as a number is no literal. -/
theorem wordValue?_of_parts {parts : Decimal.Parts} (read : Decimal.Parts.read? cs = some parts) :
    wordValue? cs = some (match parts.value? with
      | some (.integer n) => .integer n
      | some (.float x) => .float x
      | none => .valueless) := by
  -- None of the three literals reads as a number.
  have number {word : String} (literal : Decimal.Parts.read? word.toList = none) :
      String.ofList cs ≠ word := by
    rintro rfl
    rw [String.toList_ofList, read] at literal
    cases literal
  unfold wordValue?
  split
  · exact absurd ‹_› (number (by decide))
  · exact absurd ‹_› (number (by decide))
  · exact absurd ‹_› (number (by decide))
  · rw [read]
    rfl

/-- A whole number is written with its sign and its digits. -/
theorem toList_integer (n : Int) : (toString n).toList =
    (if decide (n < 0) then ['-'] else []) ++ (Text.decimal n.natAbs).toList := by
  -- A negative number is written as a minus and the digits of its magnitude.
  cases n with
  | ofNat n =>
    have written : toString (Int.ofNat n) = Text.decimal n := rfl
    have unsigned : ¬ Int.ofNat n < 0 := by simp
    rw [written, decide_eq_false unsigned]
    rfl
  | negSucc n =>
    have written : toString (Int.negSucc n) = "-" ++ Text.decimal (n + 1) := rfl
    have signed : Int.negSucc n < 0 := Int.negSucc_lt_zero n
    rw [written, decide_eq_true signed, String.toList_append]
    rfl

/-- A whole number of 64 bits is read from its digits. -/
theorem wordValue?_integer {n : Int} (least : -Int.pow 2 63 ≤ n) (greatest : n < Int.pow 2 64) :
    wordValue? (toString n).toList = some (.integer n) := by
  rw [toList_integer, wordValue?_of_parts (parts_decimal (decide (n < 0)) n.natAbs)]
  simp only [Int.reducePow, Int.pow_eq] at least greatest
  -- The range is that of 64 bits, with a sign below zero and without one above.
  by_cases negative : n < 0
  · obtain ⟨m, rfl⟩ : ∃ m : Nat, n = -(m : Int) := ⟨n.natAbs, by omega⟩
    have small : m ≤ 9223372036854775808 := by omega
    have nonzero : 0 < m := by omega
    simp [Decimal.Parts.value?, Text.numeralValue_decimal, small, nonzero]
  · obtain ⟨m, rfl⟩ : ∃ m : Nat, n = (m : Int) := ⟨n.natAbs, by omega⟩
    have small : m < 18446744073709551616 := by omega
    simp [Decimal.Parts.value?, Text.numeralValue_decimal, small, negative]

/-- A whole number of 64 bits is one token. -/
theorem spells_integer {n : Int} (least : -Int.pow 2 63 ≤ n) (greatest : n < Int.pow 2 64) :
    Spells (toString n).toList [.scalar (.integer n)] := by
  refine spells_word (fun c member => ?_) ?_ (wordValue?_integer least greatest)
  -- Sign and digits alike are characters of a word.
  · rw [toList_integer, List.mem_append] at member
    rcases member with sign | digit
    · split at sign
      · rw [List.mem_singleton.mp sign]
        decide
      · cases sign
    · simp [isWordChar, Text.isAlphanum_of_isDigit (Text.isDigit_of_mem_decimal digit)]
  · rw [toList_integer]
    simp [Text.decimal_ne_empty]

end Numbers

end DeviceUpdate.Json
