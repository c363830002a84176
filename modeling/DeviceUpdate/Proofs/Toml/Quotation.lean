import DeviceUpdate.Proofs.Text.Digits
import DeviceUpdate.Toml.Writer

/-! What stands between the marks of a quotation, with escapes or without, is read as the text that
it spells. -/

namespace DeviceUpdate.Toml

namespace Quotation

variable {q : Quotation} {c : Char} {cs rest text body spelled : List Char} {run : Nat}

/-- Where a reading stands after so many marks in a row. -/
def after : Nat → Cursor
  | 0 => .content
  | n + 1 => .marks (n + 1)

/-- A text does not begin with a mark. -/
def Unmarked (q : Quotation) (cs : List Char) : Prop :=
  ∀ c ∈ cs.head?, c ≠ q.mark

/-- One character is read, before which the text does not end. -/
theorem readFrom_step {cursor next : Cursor} {out : List Char}
    (goes : q.end? cursor (some c) = none) (step : q.step? cursor c = some (out, next)) :
    q.readFrom cursor (c :: rest) =
      (q.readFrom next rest).map fun (text, rest) => (out ++ text, rest) := by
  rw [readFrom, goes]
  simp only [step, Option.bind_eq_bind, Option.bind_some]
  cases q.readFrom next rest <;> rfl

section Marks

/-- No text ends before a mark, or after fewer marks than its end has. -/
theorem end?_after (few : run < q.width ∨ c = q.mark) : q.end? (after run) (some c) = none := by
  cases run with
  | zero => rfl
  | succ run =>
    simp only [after, end?]
    -- Too few marks in a row do not end the quotation, and neither does one more mark.
    rcases few with few | rfl
    · rw [if_neg]
      simp
      omega
    · simp

/-- A text ends after a full row of marks, of which those at the front belong to it. -/
theorem readFrom_ended (full : q.width ≤ run) (unmarked : Unmarked q rest) :
    q.readFrom (after run) rest = some (List.replicate (run - q.width) q.mark, rest) := by
  have some : 0 < q.width := by
    unfold width
    split <;> decide
  obtain ⟨n, rfl⟩ : ∃ n, run = n + 1 := ⟨run - 1, by omega⟩
  cases rest with
  | nil => simp [readFrom, after, end?, full]
  -- A different character behind the closing marks shows that the row has ended.
  | cons d rest =>
    have other : d ≠ q.mark := unmarked d rfl
    simp [readFrom, after, end?, full, other]

/-- One more mark in a row is read. -/
theorem readFrom_mark (room : run + 1 < 2 * q.width) :
    q.readFrom (after run) (q.mark :: rest) = q.readFrom (after (run + 1)) rest := by
  have goes : q.end? (after run) (some q.mark) = none := end?_after (Or.inr rfl)
  -- From the first mark on, a row of marks is counted until it is too long.
  have step : q.step? (after run) q.mark = some ([], after (run + 1)) := by
    cases run with
    | zero => simp [after, step?, stepContent?]
    | succ run => simp [after, step?, room]
  rw [readFrom_step goes step]
  simp

/-- A row of marks ends a text, together with those in front of it. -/
theorem readFrom_delimiter (few : run < q.width) (unmarked : Unmarked q rest) :
    q.readFrom (after run) (q.delimiter ++ rest) = some (List.replicate run q.mark, rest) := by
  -- The row grows by the marks that are missing, up to those that close the quotation.
  have row {missing run : Nat} (room : run + missing < 2 * q.width)
      (full : q.width ≤ run + missing) :
      q.readFrom (after run) (List.replicate missing q.mark ++ rest) =
        some (List.replicate (run + missing - q.width) q.mark, rest) := by
    induction missing generalizing run with
    | zero => exact readFrom_ended full unmarked
    | succ missing ih =>
      rw [List.replicate_succ, List.cons_append, readFrom_mark (by omega), ih (by omega) (by omega)]
      congr 4
      omega
  rw [delimiter, row (by omega) (by omega)]
  congr 4
  omega

/-- What is read after some marks is read as at the start, with the marks in front. -/
theorem readFrom_after (few : run < q.width) (other : c ≠ q.mark) :
    q.readFrom (after run) (c :: rest) = (q.readFrom .content (c :: rest)).map
      fun found => (List.replicate run q.mark ++ found.1, found.2) := by
  cases run with
  | zero => simp [after]
  | succ run =>
    -- A row that stays short belongs to the text, and what follows is content again.
    have goes : q.end? (after (run + 1)) (some c) = none := end?_after (Or.inl few)
    have start : q.end? .content (some c) = none := rfl
    have same : q.step? .content c = q.stepContent? c := rfl
    have step : q.step? (after (run + 1)) c = (q.stepContent? c).map
        fun next => (List.replicate (run + 1) q.mark ++ next.1, next.2) := by
      simp [after, step?, other]
    -- A character refused as content is refused behind the marks too.
    cases read : q.stepContent? c with
    | none =>
      rw [read] at step same
      simp [readFrom, goes, start, step, same]
    | some next =>
      obtain ⟨out, cursor⟩ := next
      rw [read] at step same
      rw [readFrom_step goes step, readFrom_step start same, Option.map_map]
      congr 1
      funext final
      simp

end Marks

/-- Characters spell one, at the start of a reading and after marks. -/
structure Spells (q : Quotation) (spelled : List Char) (c : Char) : Prop where
  unmarked : ∃ d tail, spelled = d :: tail ∧ d ≠ q.mark
  reads : ∀ rest, q.readFrom .content (spelled ++ rest) =
    (q.readFrom .content rest).map fun (text, rest) => (c :: text, rest)

/-- What stands between the marks of a text, after so many marks in a row that belong to it. -/
inductive Quotes (q : Quotation) : Nat → List Char → List Char → Prop where
  | nil (run : Nat) : Quotes q run [] []
  | mark {run : Nat} {text body : List Char} (few : run < q.freeMarks)
      (quotes : Quotes q (run + 1) text body) : Quotes q run (q.mark :: text) (q.mark :: body)
  | spell {run : Nat} {c : Char} {text spelled body : List Char} (spells : Spells q spelled c)
      (quotes : Quotes q 0 text body) : Quotes q run (c :: text) (spelled ++ body)

/-- A text is read from its quotation. -/
theorem Quotes.readFrom (quotes : Quotes q run text body) (few : run < q.width)
    (unmarked : Unmarked q rest) :
    q.readFrom (after run) (body ++ (q.delimiter ++ rest)) =
      some (List.replicate run q.mark ++ text, rest) := by
  -- Marks that belong to the text lie behind those in front of it.
  induction quotes with
  | nil run => simpa using readFrom_delimiter few unmarked
  | @mark run text body room _ ih =>
    unfold freeMarks at room
    have more := ih (by omega)
    rw [List.cons_append, readFrom_mark (by omega), more, List.replicate_succ',
      List.append_assoc, List.singleton_append]
  -- A character that is spelled out starts with no mark, so the row before it has ended.
  | @spell run c text spelled body spells _ ih =>
    have others := ih (by omega)
    have some : 0 < q.width := by omega
    obtain ⟨d, tail, rfl, other⟩ := spells.unmarked
    have read := spells.reads (body ++ (q.delimiter ++ rest))
    simp only [List.cons_append, List.append_assoc] at read ⊢
    rw [readFrom_after few other, read]
    have start : after 0 = .content := rfl
    rw [start] at others
    rw [others]
    simp

section Characters

/-- A character that stands for itself. -/
theorem spells_self (other : c ≠ q.mark) (step : q.stepContent? c = some ([c], .content)) :
    Spells q [c] c where
  unmarked := ⟨c, [], rfl, other⟩
  reads _ := by
    have same : q.step? .content c = some ([c], .content) := step
    exact readFrom_step rfl same

/-- A visible character stands for itself where it is neither the mark nor a backslash. -/
theorem spells_visible (visible : isVisible c = true) (other : c ≠ q.mark)
    (plain : q.escapes = true → c ≠ '\\') : Spells q [c] c := by
  refine spells_self other ?_
  have escape : (q.escapes && c == '\\') = false := by
    cases escapes : q.escapes with
    | false => rfl
    | true => simpa using plain escapes
  simp [stepContent?, other, escape, visible]

/-- A line end stands for itself in a text on several lines. -/
theorem spells_lineEnd (multiline : q.multiline = true) (other : '\n' ≠ q.mark) :
    Spells q ['\n'] '\n' := by
  refine spells_self other ?_
  have hidden : isVisible '\n' = false := by decide
  simp [stepContent?, other, hidden, multiline]

/-- A quotation with escapes between quotation marks. -/
structure Escaping (q : Quotation) : Prop where
  escapes : q.escapes = true
  mark : q.mark = '"'

theorem Escaping.opens (escaping : Escaping q) : q.step? .content '\\' = some ([], .escape) := by
  simp [step?, stepContent?, escaping.mark, escaping.escapes]

/-- A letter after a backslash stands for another character. -/
theorem Escaping.spells_escape (escaping : Escaping q) {letter : Char}
    (stands : escaped? letter = some c) : Spells q ['\\', letter] c where
  unmarked := ⟨'\\', [letter], rfl, by rw [escaping.mark]; decide⟩
  reads rest := by
    have reads : q.step? .escape letter = some ([c], .content) := by
      -- The backslash opens the escape and the letter closes it again.
      unfold escaped? at stands
      split at stands <;> cases stands <;> simp [step?, stepEscape?, isBlank, escaped?]
    rw [List.cons_append, readFrom_step rfl escaping.opens, List.singleton_append,
      readFrom_step rfl reads, Option.map_map]
    rfl

/-- Four digits after a backslash and a letter stand for a character. -/
theorem Escaping.spells_digits (escaping : Escaping q) (short : c.toNat < 16 ^ 4) :
    Spells q ('\\' :: 'u' :: (Text.hexPadded true 4 c.toNat).toList) c where
  unmarked := ⟨'\\', _, rfl, by rw [escaping.mark]; decide⟩
  reads rest := by
    -- The four digits are taken one by one, and their value is built up on the way.
    obtain ⟨a, b, d, e, written, value⟩ := Text.hexPadded_four true short
    obtain ⟨w, x, y, z, first, second, third, fourth, same⟩ := Text.hexNatural?_four value
    have valid : Nat.isValidChar c.toNat := c.valid
    have starts : q.step? .escape 'u' = some ([], .digits 4 0) := rfl
    have one : q.step? (.digits 4 0) a = some ([], .digits 3 w) := by
      simp [step?, stepDigits?, first]
    have two : q.step? (.digits 3 w) b = some ([], .digits 2 (w * 16 + x)) := by
      simp [step?, stepDigits?, second]
    have three : q.step? (.digits 2 (w * 16 + x)) d =
        some ([], .digits 1 ((w * 16 + x) * 16 + y)) := by
      simp [step?, stepDigits?, third]
    have four : q.step? (.digits 1 ((w * 16 + x) * 16 + y)) e = some ([c], .content) := by
      simp [step?, stepDigits?, fourth, same, valid]
    simp only [written, List.cons_append, List.nil_append]
    rw [readFrom_step rfl escaping.opens, readFrom_step rfl starts, readFrom_step rfl one,
      readFrom_step rfl two, readFrom_step rfl three, readFrom_step rfl four]
    simp only [Option.map_map]
    rfl

/-- A character that is not visible is one of the first few. -/
theorem toNat_of_hidden (hidden : isVisible c = false) : c.toNat < 16 ^ 4 := by
  unfold isVisible at hidden
  simp only [Bool.or_eq_false_iff, Bool.and_eq_false_iff, decide_eq_false_iff_not,
    bne_eq_false_iff_eq] at hidden
  obtain ⟨-, low | rfl⟩ := hidden
  · have low : ¬ 32 ≤ c.toNat := low
    omega
  · decide

/-- Every character is read from the spelling that it has between quotation marks. -/
theorem Escaping.spells_spell (escaping : Escaping q) (other : c ≠ '"') :
    Spells q (spell q.multiline c) c := by
  -- Five characters have letters of their own, and a line end may stand as it is.
  unfold spell
  split
  · exact escaping.spells_escape rfl
  · exact escaping.spells_escape rfl
  · split
    · rename_i multiline
      exact spells_lineEnd multiline (by rw [escaping.mark]; decide)
    · exact escaping.spells_escape rfl
  · exact escaping.spells_escape rfl
  · exact escaping.spells_escape rfl
  · exact escaping.spells_escape rfl
  -- What is visible stands for itself, and anything else is written by its number.
  · split
    · rename_i unslashed visible
      exact spells_visible visible (by rw [escaping.mark]; exact other) fun _ => unslashed
    · rename_i hidden
      exact escaping.spells_digits (toNat_of_hidden (by simpa using hidden))

end Characters

section Bodies

/-- Between quotation marks a text stands with its escapes. -/
theorem Escaping.quotes_escapeFrom (escaping : Escaping q) (run : Nat) (cs : List Char) :
    Quotes q run cs (q.escapeFrom run cs) := by
  induction cs generalizing run with
  | nil => exact .nil run
  | cons c cs ih =>
    rw [escapeFrom]
    split
    -- Marks stand for themselves while a row of them is short enough.
    · rename_i marked
      have marked : c = q.mark := by simpa using marked
      subst marked
      split
      · exact .mark ‹_› (ih (run + 1))
      · have spells : Spells q ['\\', q.mark] q.mark := by
          rw [escaping.mark]
          exact escaping.spells_escape rfl
        exact .spell spells (ih 0)
    · rename_i other
      have other : c ≠ '"' := by simpa [escaping.mark] using other
      exact .spell (escaping.spells_spell other) (ih 0)

/-- What a run of marks counts up to at the next character, and the longest one so far. -/
def countRun (mark : Char) (run : Nat × Nat) (c : Char) : Nat × Nat :=
  if c == mark then (run.1 + 1, max run.2 (run.1 + 1)) else (0, run.2)

/-- The longest run only grows. -/
theorem le_longest (mark : Char) (run : Nat × Nat) (cs : List Char) :
    run.2 ≤ (cs.foldl (countRun mark) run).2 := by
  -- The maximum never falls along the text.
  induction cs generalizing run with
  | nil => exact le_rfl
  | cons c cs ih =>
    have next : run.2 ≤ (countRun mark run c).2 := by
      unfold countRun
      split
      · exact Nat.le_max_left _ _
      · exact le_rfl
    exact next.trans (ih _)

/-- A text that holds no mark has no run of them. -/
theorem longestRun_of_not_mem {mark : Char} (absent : mark ∉ cs) : longestRun mark cs = 0 := by
  -- No run is ever begun, so the count and the maximum stay zero.
  have stays : cs.foldl (countRun mark) (0, 0) = (0, 0) := by
    induction cs with
    | nil => rfl
    | cons c cs ih =>
      have other : c ≠ mark := fun same => absent (by simp [same])
      have step : countRun mark (0, 0) c = (0, 0) := by simp [countRun, other]
      rw [List.foldl_cons, step]
      exact ih fun here => absent (List.mem_cons_of_mem _ here)
  exact congrArg Prod.snd stays

/-- Without escapes a text stands as it is, if its marks do not end it. -/
theorem quotes_self (literal : q.escapes = false) (best : Nat)
    (plain : ∀ c ∈ cs, isVisible c = true ∨ (q.multiline = true ∧ c = '\n'))
    (sparse : (cs.foldl (countRun q.mark) (run, best)).2 ≤ q.freeMarks) : Quotes q run cs cs := by
  induction cs generalizing run best with
  | nil => exact .nil run
  | cons c cs ih =>
    rw [List.foldl_cons] at sparse
    have others := fun c member => plain c (List.mem_cons_of_mem _ member)
    -- The longest run from here on bounds the one that is being counted.
    have bound := le_longest q.mark (countRun q.mark (run, best) c) cs
    by_cases marked : c = q.mark
    · subst marked
      have step : countRun q.mark (run, best) q.mark = (run + 1, max best (run + 1)) := by
        simp [countRun]
      rw [step] at sparse bound
      have few : run < q.freeMarks := by
        have least := Nat.le_max_right best (run + 1)
        simp only at bound
        omega
      exact .mark few (ih _ others sparse)
    -- Any other character ends the run.
    · have step : countRun q.mark (run, best) c = (0, best) := by simp [countRun, marked]
      rw [step] at sparse
      have spells : Spells q [c] c := by
        rcases plain c List.mem_cons_self with visible | ⟨multiline, rfl⟩
        · exact spells_visible visible marked (by simp [literal])
        · exact spells_lineEnd multiline marked
      exact .spell spells (ih _ others sparse)

end Bodies

end Quotation

end DeviceUpdate.Toml
