import DeviceUpdate.Proofs.Toml.Quotation

/-! Texts and the parts of keys are read as they are written, in the quotation that suits them. -/

namespace DeviceUpdate.Toml

open Quotation (Unmarked Quotes Escaping)

section Texts

variable {cs rest : List Char}

/-- Neither kind of mark stands at the start of a text. -/
def Unquoted (cs : List Char) : Prop :=
  ∀ c ∈ cs.head?, c ≠ '"' ∧ c ≠ '\''

theorem escaping_basic : Escaping .basic :=
  ⟨rfl, rfl⟩

theorem escaping_multilineBasic : Escaping .multilineBasic :=
  ⟨rfl, rfl⟩

/-- A single mark opens a text on one line. -/
theorem openQuotation?_basic (single : ∀ tail, cs ≠ '"' :: '"' :: tail) :
    openQuotation? ('"' :: cs) = some (.basic, cs) :=
  openQuotation?.eq_2 cs fun tail same => single tail same

theorem openQuotation?_literal (single : ∀ tail, cs ≠ '\'' :: '\'' :: tail) :
    openQuotation? ('\'' :: cs) = some (.literal, cs) :=
  openQuotation?.eq_4 cs fun tail same => single tail same

/-- A text on one line is opened by one mark. -/
theorem openQuotation?_line {q : Quotation} {text body : List Char}
    (line : q = .basic ∨ q = .literal) (quotes : Quotes q 0 text body)
    (unmarked : Unmarked q rest) :
    openQuotation? (q.delimiter ++ (body ++ (q.delimiter ++ rest))) =
      some (q, body ++ (q.delimiter ++ rest)) := by
  have width : q.delimiter = [q.mark] := by rcases line with rfl | rfl <;> rfl
  -- Two marks can stand there only if the text is empty, and then its end is the first of them.
  have single : ∀ tail, body ++ (q.delimiter ++ rest) ≠ q.mark :: q.mark :: tail := by
    intro tail same
    cases quotes with
    | nil =>
      rw [width] at same
      have next : rest = q.mark :: tail := (List.cons.inj same).2
      exact unmarked q.mark (by simp [next]) rfl
    | mark few _ => rcases line with rfl | rfl <;> cases few
    | spell spells _ =>
      obtain ⟨d, after, rfl, other⟩ := spells.unmarked
      exact other (List.cons.inj same).1
  rcases line with rfl | rfl
  · exact openQuotation?_basic single
  · exact openQuotation?_literal single

/-- A text on several lines is opened by three marks. -/
theorem openQuotation?_lines {q : Quotation} (lines : q = .multilineBasic ∨ q = .multilineLiteral)
    (cs : List Char) : openQuotation? (q.delimiter ++ cs) = some (q, cs) := by
  rcases lines with rfl | rfl <;> rfl

/-- A text on one line is read from between its marks. -/
theorem readText?_line {q : Quotation} {text body : List Char}
    (line : q = .basic ∨ q = .literal) (quotes : Quotes q 0 text body)
    (unmarked : Unmarked q rest) :
    readText? (q.delimiter ++ (body ++ (q.delimiter ++ rest))) =
      some (String.ofList text, rest) := by
  -- A text on one line is content from its first mark on.
  have single : q.multiline = false := by rcases line with rfl | rfl <;> rfl
  have width : 0 < q.width := by rcases line with rfl | rfl <;> decide
  have read := quotes.readFrom width unmarked
  have start : Quotation.after 0 = .content := rfl
  rw [start] at read
  simp [readText?, openQuotation?_line line quotes unmarked, single, read]

/-- A text on several lines is read from between its marks, after a line end that does not count. -/
theorem readText?_lines {q : Quotation} {text body start : List Char}
    (lines : q = .multilineBasic ∨ q = .multilineLiteral) (quotes : Quotes q 0 text body)
    (unmarked : Unmarked q rest)
    (begins : (newline? (start ++ (body ++ (q.delimiter ++ rest)))).getD
      (start ++ (body ++ (q.delimiter ++ rest))) = body ++ (q.delimiter ++ rest)) :
    readText? (q.delimiter ++ (start ++ (body ++ (q.delimiter ++ rest)))) =
      some (String.ofList text, rest) := by
  -- Behind the opening marks of a text of several lines one line end is dropped.
  have several : q.multiline = true := by rcases lines with rfl | rfl <;> rfl
  have width : 0 < q.width := by rcases lines with rfl | rfl <;> decide
  have read := quotes.readFrom width unmarked
  have start : Quotation.after 0 = .content := rfl
  rw [start] at read
  simp [readText?, openQuotation?_lines lines, several, begins, read]

/-- No line ends before a visible character. -/
theorem newline?_of_visible (visible : ∀ c ∈ cs.head?, isVisible c = true) :
    newline? cs = none := by
  unfold newline?
  split
  · exact absurd (visible '\n' rfl) (by decide)
  · exact absurd (visible '\r' rfl) (by decide)
  · rfl

/-- What stands between the marks of a text. -/
def bodyOf (q : Quotation) (cs : List Char) : List Char :=
  if q.escapes then q.escapeFrom 0 cs else cs

/-- A text is read as it is written, if it stands between its marks and starts visibly. -/
theorem readText?_write {q : Quotation}
    (four : q ∈ [.basic, .literal, .multilineBasic, .multilineLiteral])
    (quotes : Quotes q 0 cs (bodyOf q cs))
    (begins : q.multiline = true → '\n' ∉ cs → ∀ c ∈ (bodyOf q cs).head?, isVisible c = true)
    (unmarked : Unmarked q rest) :
    readText? (q.write cs ++ rest) = some (String.ofList cs, rest) := by
  -- What is written is the delimiter, perhaps a line end, the body, and the delimiter again.
  have written (start : List Char)
      (same : (if q.multiline && cs.contains '\n' then ['\n'] else []) = start) :
      q.write cs ++ rest = q.delimiter ++ (start ++ (bodyOf q cs ++ (q.delimiter ++ rest))) := by
    simp only [Quotation.write, same, bodyOf, List.append_assoc]
  cases several : q.multiline with
  | false =>
    have line : q = .basic ∨ q = .literal := by
      simp only [List.mem_cons, List.not_mem_nil, or_false] at four
      rcases four with rfl | rfl | rfl | rfl
      · exact Or.inl rfl
      · exact Or.inr rfl
      · cases several
      · cases several
    rw [written [] (by simp [several]), List.nil_append]
    exact readText?_line line quotes unmarked
  | true =>
    have lines : q = .multilineBasic ∨ q = .multilineLiteral := by
      simp only [List.mem_cons, List.not_mem_nil, or_false] at four
      rcases four with rfl | rfl | rfl | rfl
      · cases several
      · cases several
      · exact Or.inl rfl
      · exact Or.inr rfl
    by_cases ends : '\n' ∈ cs
    · rw [written ['\n'] (by simp [several, ends])]
      exact readText?_lines lines quotes unmarked rfl
    · -- Without a line end the text starts right after the marks.
      have visible : ∀ c ∈ (bodyOf q cs ++ (q.delimiter ++ rest)).head?, isVisible c = true := by
        intro c first
        -- An empty body is followed by the closing marks, which are visible as well.
        cases body : bodyOf q cs with
        | nil =>
          rw [body] at first
          rcases lines with rfl | rfl <;> cases first <;> decide
        | cons d tail =>
          rw [body] at first
          cases first
          exact begins several ends _ (by rw [body]; rfl)
      rw [written [] (by simp [ends])]
      refine readText?_lines lines quotes unmarked ?_
      rw [List.nil_append, newline?_of_visible visible]
      rfl

/-- Where no line ends, a text with escapes starts visibly. -/
theorem visible_escapeFrom {q : Quotation} (escaping : Escaping q) (lineless : '\n' ∉ cs) :
    ∀ c ∈ (q.escapeFrom 0 cs).head?, isVisible c = true := by
  intro d first
  cases cs with
  | nil => cases first
  -- The first character that is written is a backslash or stands for itself.
  | cons c cs =>
    have other : c ≠ '\n' := fun same => lineless (by simp [same])
    rw [Quotation.escapeFrom] at first
    split at first
    · rename_i marked
      have marked : c = '"' := by simpa [escaping.mark] using marked
      subst marked
      split at first <;> cases first <;> decide
    -- Of the characters that are written as they stand only a line end is not visible.
    · unfold spell at first
      split at first
      case h_3 => exact absurd rfl other
      case h_7 =>
        split at first
        · cases first
          assumption
        · cases first
          decide
      all_goals cases first; decide

/-- What is no control character is visible or a line end. -/
theorem visible_of_plain (plain : cs.any isControl = false) :
    ∀ c ∈ cs, isVisible c = true ∨ c = '\n' := by
  intro c member
  have free := List.any_eq_false.mp plain c member
  -- A control character other than the line end is excluded.
  simp only [isControl, Bool.and_eq_true, Bool.not_eq_true', bne_iff_ne, ne_eq, not_and,
    not_not] at free
  cases visible : isVisible c with
  | true => exact Or.inl rfl
  | false => exact Or.inr (free visible)

/-- On one line a text without apostrophes and control characters stands as it is. -/
theorem quotes_line (plain : cs.any isControl = false) (lineless : '\n' ∉ cs) (bare : '\'' ∉ cs) :
    Quotes .literal 0 cs cs := by
  refine Quotation.quotes_self rfl 0 (fun c member => Or.inl ?_) ?_
  · rcases visible_of_plain plain c member with visible | rfl
    · exact visible
    · exact absurd member lineless
  · exact (Quotation.longestRun_of_not_mem bare).le

/-- On several lines a text without three apostrophes in a row stands as it is. -/
theorem quotes_lines (plain : cs.any isControl = false) (sparse : longestRun '\'' cs ≤ 2) :
    Quotes .multilineLiteral 0 cs cs := by
  refine Quotation.quotes_self rfl 0 (fun c member => ?_) sparse
  exact (visible_of_plain plain c member).imp id fun ends => ⟨rfl, ends⟩

/-- A quoted text starts with a mark. -/
theorem exists_writeText (s : String) :
    ∃ c cs, writeText s = c :: cs ∧ (c = '"' ∨ c = '\'') := by
  -- Each of the four ways to quote starts with its mark.
  have written (q : Quotation) (cs : List Char) : ∃ tail, q.write cs = q.mark :: tail := by
    have some : q.delimiter = q.mark :: List.replicate (q.width - 1) q.mark := by
      rw [Quotation.delimiter, ← List.replicate_succ]
      congr 1
      unfold Quotation.width
      split <;> rfl
    exact ⟨_, by rw [Quotation.write, some, List.cons_append, List.cons_append, List.cons_append]⟩
  obtain ⟨tail, opens⟩ := written (quotationOf s.toList) s.toList
  refine ⟨_, tail, opens, ?_⟩
  unfold quotationOf
  dsimp only
  repeat' split
  all_goals simp [Quotation.basic, Quotation.literal, Quotation.multilineBasic,
    Quotation.multilineLiteral]

/-- A text is read as it is written, in the quotation that suits it. -/
theorem readText?_writeText (s : String) (unquoted : Unquoted rest) :
    readText? (writeText s ++ rest) = some (s, rest) := by
  -- The text is replaced by its characters, of which the quotation is chosen.
  have same : s = String.ofList s.toList := String.ofList_toList.symm
  have double : Unmarked .basic rest := fun c first => (unquoted c first).1
  have single : Unmarked .literal rest := fun c first => (unquoted c first).2
  unfold writeText
  conv => rhs; rw [same]
  generalize s.toList = cs
  -- The two ways with escapes can write every text.
  have basic : readText? (Quotation.basic.write cs ++ rest) = some (String.ofList cs, rest) :=
    readText?_write (by simp) (escaping_basic.quotes_escapeFrom 0 cs) (fun lines => by cases lines)
      double
  have lines : readText? (Quotation.multilineBasic.write cs ++ rest) =
      some (String.ofList cs, rest) :=
    readText?_write (by simp) (escaping_multilineBasic.quotes_escapeFrom 0 cs)
      (fun _ lineless => visible_escapeFrom escaping_multilineBasic lineless) double
  unfold quotationOf
  simp only [Bool.and_eq_true, Bool.not_eq_true', decide_eq_true_eq]
  -- Which of the four was chosen shows that it can write the text.
  split
  · exact basic
  · split
    · rename_i literal
      obtain ⟨⟨plain, lineless⟩, bare⟩ := literal
      have quotes := quotes_line plain (by simpa using lineless) (by simpa using bare)
      exact readText?_write (by simp) quotes (fun lines => by cases lines) single
    · split
      · exact lines
      · split
        · rename_i literal
          obtain ⟨plain, sparse⟩ := literal
          refine readText?_write (by simp) (quotes_lines plain sparse)
            (fun _ lineless c first => ?_) single
          rcases visible_of_plain plain c (List.mem_of_mem_head? first) with visible | rfl
          · exact visible
          · exact absurd (List.mem_of_mem_head? first) lineless
        · split
          · exact lines
          · exact basic

end Texts

section Keys

variable {cs rest : List Char}

/-- What may follow a part of a key. -/
def EndsKey (cs : List Char) : Prop :=
  ∀ c ∈ cs.head?, isKeyChar c = false ∧ c ≠ '"' ∧ c ≠ '\''

/-- A part of a key without marks is read up to the first character that belongs to no key. -/
theorem readKey?_bare (bare : ∀ c ∈ cs, isKeyChar c = true) (some : cs ≠ [])
    (ends : ∀ c ∈ rest.head?, isKeyChar c = false) :
    readKey? (cs ++ rest) = .some (String.ofList cs, rest) := by
  have run : (cs ++ rest).takeWhile isKeyChar = cs := Text.takeWhile_run bare ends
  obtain ⟨c, tail, rfl⟩ := List.exists_cons_of_ne_nil some
  have first : isKeyChar c = true := bare c List.mem_cons_self
  unfold readKey?
  -- A bare key starts with neither of the marks.
  split
  · rename_i same
    rw [(List.cons.inj same).1] at first
    exact absurd first (by decide)
  · rename_i same
    rw [(List.cons.inj same).1] at first
    exact absurd first (by decide)
  · simp only [run]
    simp

/-- A part of a key is read from between its marks. -/
theorem readKey?_quoted {q : Quotation} (line : q = .basic ∨ q = .literal)
    (quotes : Quotes q 0 cs (bodyOf q cs)) (unmarked : Unmarked q rest) :
    readKey? (q.write cs ++ rest) = some (String.ofList cs, rest) := by
  -- A quoted key is a text on one line.
  have width : 0 < q.width := by rcases line with rfl | rfl <;> decide
  have read := quotes.readFrom width unmarked
  have start : Quotation.after 0 = .content := rfl
  rw [start] at read
  have written : q.write cs ++ rest = q.mark :: (bodyOf q cs ++ (q.delimiter ++ rest)) := by
    rcases line with rfl | rfl <;>
      simp [Quotation.write, bodyOf, Quotation.basic, Quotation.literal, Quotation.delimiter,
        Quotation.width]
  rw [written]
  rcases line with rfl | rfl
  · exact congrArg (Option.map _) read
  · exact congrArg (Option.map _) read

/-- A part of a key is read as it is written. -/
theorem readKey?_writeKey (s : String) (ends : EndsKey rest) :
    readKey? (writeKey s ++ rest) = some (s, rest) := by
  have same : s = String.ofList s.toList := String.ofList_toList.symm
  -- Quoted with escapes, every key can be read back.
  have basic := readKey?_quoted (Or.inl rfl) (escaping_basic.quotes_escapeFrom 0 s.toList)
    fun c first => (ends c first).2.1
  unfold writeKey
  conv => rhs; rw [same]
  simp only [Bool.and_eq_true, Bool.not_eq_true', List.all_eq_true]
  -- A key that cannot stand bare is quoted, literally where no escape is needed.
  split
  · rename_i bare
    exact readKey?_bare bare.2 (by simpa using bare.1) fun c first => (ends c first).1
  · split
    · exact basic
    · split
      · rename_i literal
        obtain ⟨plain, bare⟩ := literal
        -- A key for which no escape is needed has neither line breaks nor other controls.
        have lineless : '\n' ∉ s.toList := fun member => by
          simpa using List.any_eq_false.mp plain _ member
        have visible : s.toList.any isControl = false := by
          refine List.any_eq_false.mpr fun c member => ?_
          have free := List.any_eq_false.mp plain c member
          simp only [Bool.or_eq_true, not_or] at free
          exact free.1
        exact readKey?_quoted (Or.inr rfl) (quotes_line visible lineless (by simpa using bare))
          fun c first => (ends c first).2.2
      · exact basic

end Keys

end DeviceUpdate.Toml
