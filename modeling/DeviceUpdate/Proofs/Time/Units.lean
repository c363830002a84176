import DeviceUpdate.Proofs.Result
import DeviceUpdate.Proofs.Text.Digits
import DeviceUpdate.Proofs.Text.Splitting
import DeviceUpdate.Time.Span

/-! Which texts are read as sums of units, and that they are read as the exact sums. -/

namespace DeviceUpdate.Span

open Text (Blank Worth isDigit trim)

/-- The letter of a unit in either case with its seconds, by the side of the letter T. -/
inductive Denotes : (timeSide : Bool) → (letter : Char) → (seconds : Nat) → Prop
  | week {c : Char} (letter : c = 'W' ∨ c = 'w') : Denotes false c 604800
  | day {c : Char} (letter : c = 'D' ∨ c = 'd') : Denotes false c 86400
  | hour {c : Char} (letter : c = 'H' ∨ c = 'h') : Denotes true c 3600
  | minute {c : Char} (letter : c = 'M' ∨ c = 'm') : Denotes true c 60
  | second {c : Char} (letter : c = 'S' ∨ c = 's') : Denotes true c 1

/-- Numbers with their units one after another, how many there are and how many seconds in all:
weeks and days first, and then perhaps the letter T with hours, minutes and seconds behind it. -/
inductive Sums : (timeSide : Bool) → (count total : Nat) → List Char → Prop
  | nil (timeSide : Bool) : Sums timeSide 0 0 []
  | mark {count total : Nat} {c : Char} {cs : List Char} (letter : c = 'T' ∨ c = 't')
      (rest : Sums true count total cs) : Sums false count total (c :: cs)
  | unit {timeSide : Bool} {value seconds count total : Nat} {c : Char} {digits cs : List Char}
      (worth : Worth value digits) (denotes : Denotes timeSide c seconds)
      (rest : Sums timeSide count total cs) :
      Sums timeSide (count + 1) (value * seconds + total) (digits ++ c :: cs)

/-- A text that says a sum of units: the letter P with at least one of them behind it, and blanks
around the whole. -/
inductive SaysUnits (total : Nat) (cs : List Char) : Prop
  | written (count : Nat) (before units behind : List Char) (c : Char)
      (text : cs = before ++ (c :: units) ++ behind) (blank : Blank before ∧ Blank behind)
      (letter : c = 'P' ∨ c = 'p') (sums : Sums false count total units) (some : 0 < count)

variable {text : String} {c : Char} {cs ds : List Char} {timeSide : Bool}
  {n count total count' total' seconds seconds' : Nat} {p q last : Progress}

section Letters

/-- A small letter. -/
def IsSmall (c : Char) : Prop :=
  'a'.val ≤ c.val ∧ c.val ≤ 'z'.val

instance (c : Char) : Decidable (IsSmall c) :=
  inferInstanceAs (Decidable (_ ∧ _))

/-- Small letters are all moved by the same distance. -/
theorem val_toUpper (small : IsSmall c) : c.toUpper.val = c.val + ('A'.val - 'a'.val) := by
  unfold IsSmall at small
  delta Char.toUpper
  rw [dif_pos small]

/-- All other characters stay as they are. -/
theorem toUpper_of_not_small (other : ¬ IsSmall c) : c.toUpper = c :=
  dif_neg other

/-- Only a small letter and its capital have that capital. -/
theorem toUpper_eq_iff (upper lower : Char) (small : IsSmall lower) (folds : lower.toUpper = upper)
    (fixed : upper.toUpper = upper) : c.toUpper = upper ↔ c = upper ∨ c = lower := by
  constructor
  -- Small letters are moved by the same distance, and nothing else becomes a capital.
  · intro same
    by_cases also : IsSmall c
    · have moved := congrArg Char.val (same.trans folds.symm)
      rw [val_toUpper also, val_toUpper small] at moved
      exact .inr (Char.ext ((UInt32.add_left_inj _).mp moved))
    · rw [toUpper_of_not_small also] at same
      exact .inl same
  · rintro (rfl | rfl)
    · exact fixed
    · exact folds

/-- No small letter is a digit, and none has a digit for its capital. -/
theorem isDigit_toUpper : isDigit c.toUpper = isDigit c := by
  -- Digits are no small letters, and no small letter becomes a digit.
  by_cases small : IsSmall c
  · have moved : c.toUpper.toNat = (c.toNat + 4294967264) % 4294967296 := by
      rw [Char.toNat, val_toUpper small]
      exact UInt32.toNat_add c.val _
    have bounds : 97 ≤ c.toNat ∧ c.toNat ≤ 122 := small
    rw [Bool.eq_iff_iff, Text.isDigit_iff, Text.isDigit_iff]
    omega
  · rw [toUpper_of_not_small small]

/-- Digits have no capitals. -/
theorem toUpper_of_isDigit (digit : isDigit c = true) : c.toUpper = c := by
  have range := Text.isDigit_iff.mp digit
  refine toUpper_of_not_small fun small => ?_
  have above : 97 ≤ c.toNat := small.1
  omega

/-- A capital is looked up with its seconds exactly if the letter denotes a unit. -/
theorem unitSeconds?_eq_some :
    unitSeconds? timeSide c.toUpper = some seconds ↔ Denotes timeSide c seconds := by
  -- Each unit has a capital, and the small letter that folds to it.
  constructor
  · intro found
    unfold unitSeconds? at found
    split at found <;> cases found <;> rename_i capital
    · exact .week ((toUpper_eq_iff 'W' 'w' (by decide) rfl rfl).mp capital)
    · exact .day ((toUpper_eq_iff 'D' 'd' (by decide) rfl rfl).mp capital)
    · exact .hour ((toUpper_eq_iff 'H' 'h' (by decide) rfl rfl).mp capital)
    · exact .minute ((toUpper_eq_iff 'M' 'm' (by decide) rfl rfl).mp capital)
    · exact .second ((toUpper_eq_iff 'S' 's' (by decide) rfl rfl).mp capital)
  · intro denotes
    cases denotes with
    | week letter | day letter | hour letter | minute letter | second letter =>
      rcases letter with rfl | rfl <;> rfl

/-- The letter of a unit is neither the letter T nor a digit. -/
theorem Denotes.other (denotes : Denotes timeSide c seconds) :
    c.toUpper ≠ 'T' ∧ isDigit c = false := by
  cases denotes with
  | week letter | day letter | hour letter | minute letter | second letter =>
    rcases letter with rfl | rfl <;> decide

theorem Denotes.pos (denotes : Denotes timeSide c seconds) : 1 ≤ seconds := by
  cases denotes <;> decide

end Letters

section Steps

/-- What one character adds to a reading. -/
inductive Reads (p : Progress) (c : Char) : Progress → Prop
  | mark (letter : c = 'T' ∨ c = 't') (first : p.timeSide = false) (none : p.digits = []) :
    Reads p c { p with timeSide := true }
  | digit (digit : isDigit c = true) : Reads p c { p with digits := p.digits ++ [c] }
  | unit {value seconds : Nat} (worth : Worth value p.digits)
      (denotes : Denotes p.timeSide c seconds)
      (within : p.total + value * seconds < secondLimit) :
    Reads p c ⟨p.total + value * seconds, p.timeSide, [], true⟩

theorem step_eq_ok : p.step c = .ok q ↔ Reads p c q := by
  have capital : c.toUpper = 'T' ↔ c = 'T' ∨ c = 't' := toUpper_eq_iff 'T' 't' (by decide) rfl rfl
  -- A step is read off the branch that it takes: a mark, a digit, or a letter behind digits.
  constructor
  · intro done
    unfold Progress.step at done
    simp only at done
    split at done
    · rename_i letter
      split at done
      · cases done
      · rename_i placed
        cases done
        simp only [Bool.or_eq_true, Bool.not_eq_true', List.isEmpty_eq_false_iff, not_or,
          Bool.not_eq_true, not_not] at placed
        exact .mark (capital.mp (by simpa using letter)) placed.1 placed.2
    · split at done
      · rename_i digit
        rw [isDigit_toUpper] at digit
        cases done
        rw [toUpper_of_isDigit digit]
        exact .digit digit
      · split at done
        · cases done
        · rename_i value read
          split at done
          · cases done
          · rename_i seconds found
            split at done
            · rename_i within
              cases done
              exact .unit (Text.natural?_eq_some.mp (Option.filter_eq_some_iff.mp read).1)
                (unitSeconds?_eq_some.mp found) within
            · cases done
  -- The branches are told apart by their first characters, so each step takes its own.
  · intro reads
    unfold Progress.step
    cases reads with
    | mark letter first none => simp [capital.mpr letter, first, none]
    | digit digit =>
      have same : c.toUpper = c := toUpper_of_isDigit digit
      have other : c ≠ 'T' := by
        rintro rfl
        cases digit
      simp [same, other, digit]
    | @unit value seconds worth denotes within =>
      obtain ⟨other, letter⟩ := denotes.other
      -- A number that makes up a part of the sum can be counted like the sum.
      have countable : value < secondLimit := by
        have least := Nat.mul_le_mul_left value denotes.pos
        omega
      have read : (Text.natural? p.digits).filter (· < secondLimit) = some value :=
        Option.filter_eq_some_iff.mpr ⟨Text.natural?_eq_some.mpr worth, by simpa using countable⟩
      simp [other, isDigit_toUpper, letter, read, unitSeconds?_eq_some.mpr denotes, within]

end Steps

section Runs

/-- What a reading has come to after so many further units, with nothing left over. -/
structure Ends (p : Progress) (count total : Nat) (last : Progress) : Prop where
  total : last.total = p.total + total
  digits : last.digits = []
  anyUnit : last.anyUnit = true ↔ p.anyUnit = true ∨ 0 < count

/-- Digits are collected until a letter comes. -/
theorem foldlM_digits (digits : ∀ c ∈ ds, isDigit c = true) :
    ds.foldlM Progress.step p = .ok { p with digits := p.digits ++ ds } := by
  -- Every digit is kept behind those before it.
  induction ds generalizing p with
  | nil => simp [pure, Except.pure]
  | cons c ds ih =>
    have step := step_eq_ok.mpr (.digit (p := p) (digits c List.mem_cons_self))
    have rest := ih (p := { p with digits := p.digits ++ [c] })
      fun d member => digits d (List.mem_cons_of_mem c member)
    rw [List.foldlM_cons, step]
    simpa [bind, Except.bind] using rest

/-- A sum is read from wherever no number is pending, if it can be counted. -/
theorem Sums.read (sums : Sums timeSide count total cs) (side : p.timeSide = timeSide)
    (none : p.digits = []) (within : p.total + total < secondLimit) :
    ∃ last, cs.foldlM Progress.step p = .ok last ∧ Ends p count total last := by
  -- The sum so far is carried along, since it must stay countable at every unit.
  induction sums generalizing p with
  | nil => exact ⟨p, rfl, rfl, none, by simp⟩
  | mark letter rest ih =>
    obtain ⟨last, run, ends⟩ := ih (p := { p with timeSide := true }) rfl none within
    refine ⟨last, ?_, ends.total, ends.digits, ends.anyUnit⟩
    rw [List.foldlM_cons, step_eq_ok.mpr (.mark letter side none)]
    exact run
  | @unit _ value seconds count total c digits cs worth denotes rest ih =>
    subst side
    -- The number is pending when its unit comes, and nothing is after that.
    have number : digits.foldlM Progress.step p = .ok { p with digits := digits } := by
      simpa [none] using foldlM_digits (p := p) worth.digits
    have step : Progress.step { p with digits := digits } c =
        .ok ⟨p.total + value * seconds, p.timeSide, [], true⟩ :=
      step_eq_ok.mpr (.unit worth denotes (by dsimp only; omega))
    obtain ⟨last, run, ends⟩ :=
      ih (p := ⟨p.total + value * seconds, p.timeSide, [], true⟩) rfl rfl (by dsimp only; omega)
    refine ⟨last, ?_, by rw [ends.total, Nat.add_assoc], ends.digits, ?_⟩
    · rw [List.foldlM_append, number]
      show (c :: cs).foldlM Progress.step { p with digits := digits } = .ok last
      rw [List.foldlM_cons, step]
      exact run
    · rw [ends.anyUnit]
      simp

/-- Whatever is read to the end is a sum, which begins with the number that was pending. -/
theorem sums_of_read (pending : ∀ c ∈ p.digits, isDigit c = true) (counted : p.total < secondLimit)
    (run : cs.foldlM Progress.step p = .ok last) (done : last.digits = []) :
    last.total < secondLimit ∧
      ∃ count total, Sums p.timeSide count total (p.digits ++ cs) ∧ Ends p count total last := by
  -- The digits that are pending belong to what comes next, so they are put in front of the rest.
  induction cs generalizing p with
  | nil =>
    cases run
    refine ⟨counted, 0, 0, ?_, rfl, done, by simp⟩
    rw [done]
    exact .nil _
  | cons c cs ih =>
    rw [List.foldlM_cons] at run
    obtain ⟨q, step, run⟩ := Result.bind_eq_ok.mp run
    -- Each step extends the sums in its own way.
    cases step_eq_ok.mp step with
    | mark letter first none =>
      obtain ⟨within, count, total, sums, ends⟩ :=
        ih (p := { p with timeSide := true }) pending counted run
      refine ⟨within, count, total, ?_, ends.total, ends.digits, ends.anyUnit⟩
      rw [none, List.nil_append, first]
      exact .mark letter (by simpa [none] using sums)
    | digit digit =>
      have digits : ∀ d ∈ p.digits ++ [c], isDigit d = true :=
        List.forall_mem_append.mpr ⟨pending, by simpa using digit⟩
      obtain ⟨within, count, total, sums, ends⟩ :=
        ih (p := { p with digits := p.digits ++ [c] }) digits counted run
      refine ⟨within, count, total, ?_, ends.total, ends.digits, ends.anyUnit⟩
      simpa using sums
    | @unit value seconds worth denotes below =>
      obtain ⟨within, count, total, sums, ends⟩ := ih (by simp) below run
      refine ⟨within, count + 1, value * seconds + total, .unit worth denotes sums, ?_,
        ends.digits, ?_⟩
      · rw [ends.total, Nat.add_assoc]
      · rw [ends.anyUnit]
        simp

end Runs

section Texts

/-- Neither the letter T nor that of a unit is a digit. -/
theorem isDigit_mark (letter : c = 'T' ∨ c = 't') : isDigit c = false := by
  rcases letter with rfl | rfl <;> rfl

/-- No blanks are inside of a sum. -/
theorem Sums.solid (sums : Sums timeSide count total cs) : ∀ c ∈ cs, Text.isBlank c = false := by
  -- Digits and letters are no blanks.
  induction sums with
  | nil => simp
  | mark letter rest ih =>
    refine List.forall_mem_cons.mpr ⟨?_, ih⟩
    rcases letter with rfl | rfl <;> rfl
  | unit worth denotes rest ih =>
    refine List.forall_mem_append.mpr
      ⟨fun c member => Text.isBlank_of_isDigit (worth.digits c member),
        List.forall_mem_cons.mpr ⟨?_, ih⟩⟩
    cases denotes with
    | week letter | day letter | hour letter | minute letter | second letter =>
      rcases letter with rfl | rfl <;> rfl

/-- A letter denotes one unit on each side of the letter T. -/
theorem Denotes.unique (denotes : Denotes timeSide c seconds)
    (again : Denotes timeSide c seconds') : seconds' = seconds := by
  have first := unitSeconds?_eq_some.mpr denotes
  have second := unitSeconds?_eq_some.mpr again
  exact Option.some.inj (second.symm.trans first)

/-- The first letter of a sum is the letter T, or the unit of the number in front of it. -/
theorem Sums.first (digits : ∀ d ∈ ds, isDigit d = true) (letter : isDigit c = false)
    (sums : Sums timeSide count total (ds ++ c :: cs)) :
    (ds = [] ∧ timeSide = false ∧ Sums true count total cs) ∨
      ∃ value seconds fewer rest, Worth value ds ∧ Denotes timeSide c seconds ∧
        Sums timeSide fewer rest cs ∧ total = value * seconds + rest := by
  have span : Text.spanDigits (ds ++ c :: cs) = (ds, c :: cs) :=
    Text.spanDigits_append digits (Text.stops_cons letter)
  -- Both ways to see the text have the same digits at its start.
  generalize ds ++ c :: cs = whole at sums span
  cases sums with
  | nil => cases span
  | @mark _ _ d rest letter sums =>
    have alone : Text.spanDigits ([] ++ d :: rest) = ([], d :: rest) :=
      Text.spanDigits_append (by simp) (Text.stops_cons (isDigit_mark letter))
    rw [List.nil_append, span] at alone
    cases alone
    exact .inl ⟨rfl, rfl, sums⟩
  | @unit _ value seconds fewer rest d digits behind worth denotes sums =>
    rw [Text.spanDigits_append worth.digits (Text.stops_cons denotes.other.2)] at span
    cases span
    exact .inr ⟨value, seconds, fewer, rest, worth, denotes, sums, rfl⟩

/-- A sum has one total only. -/
theorem Sums.unique (sums : Sums timeSide count total cs) (again : Sums timeSide count' total' cs) :
    total' = total := by
  -- The text tells at each point whether a mark or a number with its unit comes next.
  induction sums generalizing count' total' with
  | nil =>
    generalize same : ([] : List Char) = cs at again
    cases again with
    | nil => rfl
    | mark | unit => simp at same
  | mark letter rest ih =>
    have none : ∀ d ∈ ([] : List Char), isDigit d = true := by simp
    rcases Sums.first none (isDigit_mark letter) again with
      ⟨-, -, again⟩ | ⟨value, seconds, fewer, total, worth, -⟩
    · exact ih again
    · exact absurd rfl worth.some
  | unit worth denotes rest ih =>
    rcases Sums.first worth.digits denotes.other.2 again with
      ⟨none, -⟩ | ⟨value, seconds, fewer, total, worth', denotes', again, same⟩
    · exact absurd none worth.some
    · rw [same, ih again, denotes.unique denotes', ← worth'.value, worth.value]

/-- What is left of a text that says a sum is the letter P with the units. -/
theorem SaysUnits.trim_eq (said : SaysUnits total cs) : ∃ c count units, trim cs = c :: units ∧
    (c = 'P' ∨ c = 'p') ∧ Sums false count total units ∧ 0 < count := by
  obtain ⟨count, before, units, behind, c, rfl, blank, letter, sums, some⟩ := said
  refine ⟨c, count, units, ?_, letter, sums, some⟩
  have first : Text.isBlank c = false := by
    rcases letter with rfl | rfl <;> rfl
  exact Text.trim_append blank.1
    (Text.trimmed_of_solid (List.forall_mem_cons.mpr ⟨first, sums.solid⟩)) blank.2

/-- A text says one sum only. -/
theorem SaysUnits.unique (said : SaysUnits total cs) (again : SaysUnits total' cs) :
    total' = total := by
  obtain ⟨c, count, units, body, -, sums, -⟩ := said.trim_eq
  obtain ⟨c', count', units', body', -, sums', -⟩ := again.trim_eq
  rw [body] at body'
  cases body'
  exact sums.unique sums'

/-- A text is read as units exactly if it says a sum of them that can be counted. -/
theorem readUnits_eq_ok : readUnits text = .ok n ↔ SaysUnits n text.toList ∧ n < secondLimit := by
  have positive : Progress.start.total < secondLimit := by decide
  constructor
  -- Each check that is passed gives one part of the text.
  · intro found
    unfold readUnits at found
    split at found
    · cases found
    rename_i first units body
    split at found
    · cases found
    rename_i letter
    split at found
    · cases found
    obtain ⟨last, run, found⟩ := Result.bind_eq_ok.mp found
    split at found
    · cases found
    rename_i whole
    cases found
    simp only [Bool.or_eq_true, Bool.not_eq_true', List.isEmpty_eq_false_iff, not_or, not_not,
      Bool.not_eq_false] at whole
    obtain ⟨within, count, total, sums, ends⟩ := sums_of_read (by simp [Progress.start]) positive
      run whole.1
    -- The text is put together again from what was taken away at each step.
    obtain ⟨before, behind, start, stop, same⟩ := Text.exists_trim text.toList
    rw [body] at same
    have number : last.total = total := ends.total.trans (Nat.zero_add total)
    refine ⟨.written count before units behind first same ⟨start, stop⟩ ?_ (number ▸ sums) ?_,
      within⟩
    · simpa [or_iff_not_imp_left] using letter
    · exact (ends.anyUnit.mp whole.2).resolve_left (by simp [Progress.start])
  · rintro ⟨said, within⟩
    obtain ⟨c, count, units, body, letter, sums, some⟩ := said.trim_eq
    -- The sums run through without fail, and something has been read when they end.
    obtain ⟨last, run, ends⟩ := sums.read (p := .start) rfl rfl
      (by simpa [Progress.start] using within)
    have any : last.anyUnit = true := ends.anyUnit.mpr (.inr some)
    have named : (c != 'P' && c != 'p') = false := by
      rcases letter with rfl | rfl <;> rfl
    unfold readUnits
    rw [body]
    cases units with
    | nil =>
      cases run
      cases any
    | cons d rest =>
      have sum : last.total = n := ends.total.trans (Nat.zero_add n)
      simp only [named, run, List.isEmpty_cons, Bool.false_eq_true, ↓reduceIte]
      simp [bind, Except.bind, ends.digits, any, sum]

/-- How a text is read as a sum of units. -/
structure ReadsUnits (text : String) : Prop where
  reads : ∀ n, readUnits text = .ok n ↔ SaysUnits n text.toList ∧ n < secondLimit
  /-- The sum that a text says is the only one, whether it can be counted or not. -/
  unique : ∀ {total total' : Nat}, SaysUnits total text.toList → SaysUnits total' text.toList →
    total' = total

/-- Exactly the texts that say a sum of units are read, as long as it can be counted, and they are
read as the sum that they say. -/
theorem units_read (text : String) : ReadsUnits text where
  reads _ := readUnits_eq_ok
  unique := SaysUnits.unique

/-- Units may be repeated, and the letter T may stand at the end. -/
example : readUnits " p1d001DT " = .ok 172800 := by decide +kernel

end Texts

end DeviceUpdate.Span
