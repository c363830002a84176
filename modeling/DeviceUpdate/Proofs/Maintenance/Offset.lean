import DeviceUpdate.Proofs.Maintenance.Window
import DeviceUpdate.Proofs.Text.Digits
import DeviceUpdate.Proofs.Text.Splitting
import DeviceUpdate.Proofs.Time.Clock

/-! Which texts are read as offsets from universal time, and which of them as what they say. -/

namespace DeviceUpdate.Maintenance

open Text (Blank CutAt Signed Worth isBlank isDigit lowerAscii trim)

namespace Offset

/-- A number of digits alone. -/
def Bare (n : Int) (cs : List Char) : Prop :=
  ∃ value : Nat, n = value ∧ Worth value cs

/-- A name of universal time in any case. -/
def IsUniversal (name : List Char) : Prop :=
  lowerAscii name = ['z'] ∨ lowerAscii name = ['u', 't', 'c']

/-- A text that names universal time, with blanks around the name. -/
inductive SaysUniversal (cs : List Char) : Prop
  | written (before name behind : List Char) (text : cs = before ++ name ++ behind)
      (blank : Blank before ∧ Blank behind) (named : IsUniversal name)

/-- The mark in front of an offset with its sign. -/
inductive Marks : (mark : Char) → (sign : Int) → Prop
  | ahead : Marks '+' 1
  | behind : Marks '-' (-1)

/-- A text that says a sign, hours and minutes: a colon between the two numbers, and blanks around
the whole. What counts as a number is left open. -/
inductive SaysOffset (Number : Int → List Char → Prop) (sign hours minutes : Int)
    (cs : List Char) : Prop
  | written (before first second behind : List Char) (mark : Char)
      (text : cs = before ++ (mark :: (first ++ ':' :: second)) ++ behind)
      (blank : Blank before ∧ Blank behind) (marks : Marks mark sign)
      (numbers : Number hours first ∧ Number minutes second)

/-- An offset is the one that its text says, in hours and minutes of digits alone. -/
inductive Literal (o : Offset) (cs : List Char) : Prop
  | universal (said : SaysUniversal cs) (zero : o = .zero)
  | fields {sign hours minutes : Int} (said : SaysOffset Bare sign hours minutes cs)
      (range : hours ≤ hourLimit ∧ minutes < 60)
      (exact : o.seconds = sign * (hours * 3600 + minutes * 60))

/-- Hours and minutes that are let through before their seconds are computed. -/
structure Admits (hours minutes : Int) : Prop where
  /-- There may be any number of hours below zero that 32 bits can hold. -/
  hour : -2 ^ 31 ≤ hours ∧ hours ≤ hourLimit
  minute : 0 ≤ minutes ∧ minutes < 60

/-- An offset is the one that its text is read as: each of the two numbers may have another sign. -/
inductive Means (o : Offset) (cs : List Char) : Prop
  | universal (said : SaysUniversal cs) (zero : o = .zero)
  | fields {sign hours minutes : Int} (said : SaysOffset Signed sign hours minutes cs)
      (admits : Admits hours minutes) (exact : o.seconds = sign * (hours * 3600 + minutes * 60))

/-- The hours of a text are let through, but are so far below zero that 32 bits cannot hold their
seconds. -/
inductive Overruns (cs : List Char) : Prop
  | fields {sign hours minutes : Int} (said : SaysOffset Signed sign hours minutes cs)
      (admits : Admits hours minutes) (beyond : hours * 3600 < -2 ^ 31)

/-- An offset has the direction of the sign in its text, and is not longer than may be said. -/
structure Faithful (o : Offset) (cs : List Char) : Prop where
  ahead : (trim cs).head? = some '+' → 0 ≤ o.seconds
  behind : (trim cs).head? = some '-' → o.seconds ≤ 0
  most : o.seconds.natAbs ≤ hourLimit * 3600 + 59 * 60

/-- Either of the two signs. -/
def isSign (c : Char) : Bool :=
  c == '+' || c == '-'

/-- How many signs there are in a text. -/
def signs (cs : List Char) : Nat :=
  cs.countP isSign

variable {o : Offset} {text : String} {c mark : Char} {cs rest first second name : List Char}
  {n sign hours minutes : Int}

section Characters

theorem isSign_iff : isSign c = true ↔ c = '+' ∨ c = '-' := by
  simp [isSign]

/-- Digits are no signs. -/
theorem isSign_of_isDigit (digit : isDigit c = true) : isSign c = false := by
  rw [Bool.eq_false_iff, ne_eq, isSign_iff]
  rintro (rfl | rfl) <;> cases digit

/-- Blanks are no signs. -/
theorem isSign_of_isBlank (blank : isBlank c = true) : isSign c = false := by
  rw [Bool.eq_false_iff, ne_eq, isSign_iff]
  rintro (rfl | rfl) <;> cases blank

/-- The characters of a number are digits and signs. -/
theorem isDigit_or_isSign (signed : Signed n cs) :
    ∀ c ∈ cs, isDigit c = true ∨ isSign c = true := by
  cases signed with
  | plain worth => exact fun c member => .inl (worth.digits c member)
  | plus worth | minus worth =>
    exact List.forall_mem_cons.mpr ⟨.inr rfl, fun c member => .inl (worth.digits c member)⟩

/-- A number has neither blanks nor colons in it. -/
theorem solid_of_signed (signed : Signed n cs) :
    (∀ c ∈ cs, isBlank c = false) ∧ ':' ∉ cs := by
  -- Digits and signs are neither blank nor a colon.
  constructor
  · intro c member
    rcases isDigit_or_isSign signed c member with digit | sign
    · exact Text.isBlank_of_isDigit digit
    · rcases isSign_iff.mp sign with rfl | rfl <;> rfl
  · intro member
    rcases isDigit_or_isSign signed ':' member with digit | sign
    · cases digit
    · cases sign

/-- Blanks and signs are the same in lower case. -/
theorem toLower_of_isBlank_or_isSign (other : isBlank c = true ∨ isSign c = true) :
    c.toLower = c := by
  refine dif_neg fun capital => ?_
  have range : 65 ≤ c.toNat ∧ c.toNat ≤ 90 := capital
  rcases other with blank | sign
  · simp [isBlank] at blank
    omega
  · rcases isSign_iff.mp sign with rfl | rfl <;> exact absurd range.1 (by decide)

/-- A name of universal time has no blanks and no signs in it. -/
theorem IsUniversal.solid (named : IsUniversal name) :
    ∀ c ∈ name, isBlank c = false ∧ isSign c = false := by
  intro c member
  have lowered : c.toLower ∈ lowerAscii name := List.mem_map_of_mem member
  have letters : ∀ d ∈ lowerAscii name, isBlank d = false ∧ isSign d = false := by
    rcases named with named | named <;> simp [named, isBlank, isSign]
  -- A blank or a sign would be found again among the small letters.
  by_contra other
  rw [← Bool.not_eq_true, ← Bool.not_eq_true, ← not_or, not_not] at other
  rw [toLower_of_isBlank_or_isSign other] at lowered
  simp [letters c lowered] at other

/-- A name of universal time has no mark in front. -/
theorem Marks.not_isUniversal (marks : Marks mark sign) : ¬ IsUniversal (mark :: rest) := by
  cases marks <;> simp [IsUniversal, lowerAscii]

end Characters

section Signs

theorem signs_append (front back : List Char) : signs (front ++ back) = signs front + signs back :=
  List.countP_append

theorem signs_cons (c : Char) (cs : List Char) :
    signs (c :: cs) = signs cs + if isSign c then 1 else 0 :=
  List.countP_cons

theorem signs_eq_zero : signs cs = 0 ↔ ∀ c ∈ cs, isSign c = false := by
  simp [signs]

theorem signs_of_worth {n : Nat} (worth : Worth n cs) : signs cs = 0 :=
  signs_eq_zero.mpr fun c member => isSign_of_isDigit (worth.digits c member)

theorem signs_of_blank (blank : Blank cs) : signs cs = 0 :=
  signs_eq_zero.mpr fun c member => isSign_of_isBlank (blank c member)

/-- A number without signs is one of digits alone. -/
theorem bare_iff : Bare n cs ↔ Signed n cs ∧ signs cs = 0 := by
  -- A sign in front is all that tells the two spellings apart.
  constructor
  · rintro ⟨value, rfl, worth⟩
    exact ⟨.plain worth, signs_of_worth worth⟩
  · rintro ⟨signed, none⟩
    cases signed with
    | plain worth => exact ⟨_, rfl, worth⟩
    | plus worth => simp [signs, isSign] at none
    | minus worth => simp [signs, isSign] at none

end Signs

section Texts

/-- Of a text that names universal time, trimming leaves the name. -/
theorem saysUniversal_iff : SaysUniversal cs ↔ IsUniversal (trim cs) := by
  constructor
  · rintro ⟨before, name, behind, rfl, blank, named⟩
    rwa [Text.trim_append blank.1
      (Text.trimmed_of_solid fun c member => (named.solid c member).1) blank.2]
  · intro named
    obtain ⟨before, behind, start, stop, same⟩ := Text.exists_trim cs
    exact .written before _ behind same ⟨start, stop⟩ named

/-- There are no signs in a text that names universal time. -/
theorem SaysUniversal.signs_eq (said : SaysUniversal cs) : signs cs = 0 := by
  obtain ⟨before, name, behind, rfl, blank, named⟩ := said
  rw [signs_append, signs_append, signs_of_blank blank.1, signs_of_blank blank.2,
    signs_eq_zero.mpr fun c member => (named.solid c member).2]

/-- Of a text that says hours and minutes, trimming leaves the mark, the numbers and the colon. -/
theorem SaysOffset.trim_eq (said : SaysOffset Signed sign hours minutes cs) :
    ∃ mark first second, trim cs = mark :: (first ++ ':' :: second) ∧ Marks mark sign ∧
      Signed hours first ∧ Signed minutes second := by
  obtain ⟨before, first, second, behind, mark, rfl, blank, marks, numbers⟩ := said
  refine ⟨mark, first, second, Text.trim_append blank.1 ?_ blank.2, marks, numbers⟩
  -- What lies between the blanks starts and ends with characters that are none.
  refine Text.trimmed_of_solid (List.forall_mem_cons.mpr ⟨?_, List.forall_mem_append.mpr
    ⟨(solid_of_signed numbers.1).1, List.forall_mem_cons.mpr
      ⟨by decide, (solid_of_signed numbers.2).1⟩⟩⟩)
  cases marks <;> rfl

/-- The signs of such a text are the one in front and those of its numbers. -/
theorem signs_written {before behind : List Char} (blank : Blank before ∧ Blank behind)
    (marks : Marks mark sign) : signs (before ++ (mark :: (first ++ ':' :: second)) ++ behind) =
      signs first + signs second + 1 := by
  have marked : isSign mark = true := by cases marks <;> rfl
  have colon : isSign ':' = false := rfl
  simp [signs_append, signs_cons, signs_of_blank blank.1, signs_of_blank blank.2, marked, colon]

/-- The numbers have digits alone exactly if there is no sign but the one in front. -/
theorem saysOffset_bare_iff : SaysOffset Bare sign hours minutes cs ↔
    SaysOffset Signed sign hours minutes cs ∧ signs cs ≤ 1 := by
  -- Both numbers are bare exactly if the mark is the only sign in the text.
  constructor
  · rintro ⟨before, first, second, behind, mark, rfl, blank, marks, hour, minute⟩
    rw [bare_iff] at hour minute
    refine ⟨.written before first second behind mark rfl blank marks ⟨hour.1, minute.1⟩, ?_⟩
    rw [signs_written blank marks]
    omega
  · rintro ⟨⟨before, first, second, behind, mark, rfl, blank, marks, hour, minute⟩, once⟩
    rw [signs_written blank marks] at once
    exact .written before first second behind mark rfl blank marks
      ⟨bare_iff.mpr ⟨hour, by omega⟩, bare_iff.mpr ⟨minute, by omega⟩⟩

/-- What digits alone are worth is not below zero. -/
theorem SaysOffset.nonneg (said : SaysOffset Bare sign hours minutes cs) :
    0 ≤ hours ∧ 0 ≤ minutes := by
  obtain ⟨_, _, _, _, _, -, -, -, ⟨h, rfl, -⟩, ⟨m, rfl, -⟩⟩ := said
  exact ⟨Int.natCast_nonneg h, Int.natCast_nonneg m⟩

theorem SaysOffset.sign_eq {Number : Int → List Char → Prop}
    (said : SaysOffset Number sign hours minutes cs) : sign = 1 ∨ sign = -1 := by
  obtain ⟨_, _, _, _, _, -, -, marks, -⟩ := said
  cases marks with
  | ahead => exact .inl rfl
  | behind => exact .inr rfl

end Texts

section Reading

theorem ofSeconds?_eq_some : ofSeconds? n = some o ↔ o.seconds = n := by
  -- Within a day of zero the offset is made, and beyond it there is none.
  unfold ofSeconds?
  split
  · rw [Option.some_inj]
    constructor
    · rintro rfl
      rfl
    · rintro rfl
      rfl
  · rename_i outside
    refine iff_of_false nofun ?_
    rintro rfl
    exact outside o.bounded

theorem word_eq_ok {m : Int} : word n = .ok m ↔ m = n ∧ -2 ^ 31 ≤ n ∧ n < 2 ^ 31 := by
  unfold word
  split
  · rename_i fits
    rw [Except.ok.injEq]
    exact ⟨fun same => ⟨same.symm, fits⟩, fun both => both.1.symm⟩
  · rename_i beyond
    exact ⟨nofun, fun both => (beyond both.2).elim⟩

/-- Seconds are computed exactly, unless the hours are too many below zero for 32 bits. The hours above
zero and the minutes are too few for that, and the sign makes no number greater. -/
theorem total_cases (signed : sign = 1 ∨ sign = -1) (admits : Admits hours minutes) :
    total sign hours minutes = .ok (sign * (hours * 3600 + minutes * 60)) ∧
        -2 ^ 31 ≤ hours * 3600 ∨
      total sign hours minutes = .error .overrun ∧ hours * 3600 < -2 ^ 31 := by
  have limit : hourLimit = 18 := rfl
  obtain ⟨-, most⟩ := admits.hour
  obtain ⟨least, last⟩ := admits.minute
  -- Only the hours times 3600 can leave 32 bits, and only downwards.
  by_cases fits : -2 ^ 31 ≤ hours * 3600
  · left
    have ofHours : word (hours * 3600) = .ok (hours * 3600) :=
      word_eq_ok.mpr ⟨rfl, fits, by omega⟩
    have ofMinutes : word (minutes * 60) = .ok (minutes * 60) :=
      word_eq_ok.mpr ⟨rfl, by omega, by omega⟩
    have sum : word (hours * 3600 + minutes * 60) = .ok (hours * 3600 + minutes * 60) :=
      word_eq_ok.mpr ⟨rfl, by omega, by omega⟩
    have whole : word (sign * (hours * 3600 + minutes * 60)) =
        .ok (sign * (hours * 3600 + minutes * 60)) := by
      -- The least number of 32 bits is no whole number of minutes, so its negation is not met.
      rcases signed with rfl | rfl <;> exact word_eq_ok.mpr ⟨rfl, by omega, by omega⟩
    refine ⟨?_, fits⟩
    simp only [total, ofHours, ofMinutes, sum, whole, bind, Except.bind]
  · right
    have ofHours : word (hours * 3600) = .error .overrun := if_neg fun both => fits both.1
    refine ⟨?_, by omega⟩
    rw [total, ofHours]
    rfl

/-- Hours and minutes are found in the numbers on the two sides of a colon. -/
theorem fields?_eq_some : fields? rest = some (hours, minutes) ↔ Admits hours minutes ∧
    ∃ first second, rest = first ++ ':' :: second ∧ Signed hours first ∧ Signed minutes second := by
  have positive : 0 < Nat.pow 2 31 := by decide
  unfold fields?
  constructor
  -- Reading takes the text apart: the cut at the colon, the two numbers, and their ranges.
  · intro found
    obtain ⟨⟨first, second⟩, cut, found⟩ := Option.bind_eq_some_iff.mp found
    obtain ⟨h, hoursRead, found⟩ := Option.bind_eq_some_iff.mp found
    obtain ⟨m, minutesRead, found⟩ := Option.bind_eq_some_iff.mp found
    rw [Text.splitOnce_eq_some] at cut
    rw [Text.signed?_eq_some positive] at hoursRead minutesRead
    split at found
    · cases found
    · rename_i range
      simp only [Bool.or_eq_true, decide_eq_true_eq] at range
      cases found
      exact ⟨⟨⟨hoursRead.2.1, by omega⟩, by omega⟩, first, second, by simpa using cut.whole,
        hoursRead.1, minutesRead.1⟩
  · rintro ⟨⟨⟨low, high⟩, least, most⟩, first, second, rfl, hour, minute⟩
    have limit : hourLimit = 18 := rfl
    have bits : Nat.pow 2 31 = 2147483648 := rfl
    -- The first number has no colon in it, so the text is cut behind it.
    have cut := Text.splitOnce_eq_some.mpr
      (Text.cutAt_of_not_mem (solid_of_signed hour).2 second)
    have hoursRead := (Text.signed?_eq_some positive).mpr ⟨hour, by omega, by omega⟩
    have minutesRead := (Text.signed?_eq_some positive).mpr ⟨minute, by omega, by omega⟩
    rw [cut, Option.bind_eq_bind, Option.bind_some]
    dsimp only
    rw [hoursRead, Option.bind_eq_bind, Option.bind_some, minutesRead, Option.bind_some, if_neg]
    simp only [Bool.or_eq_true, decide_eq_true_eq]
    omega

/-- A text that says hours and minutes does not name universal time. -/
theorem SaysOffset.not_universal (said : SaysOffset Signed sign hours minutes cs) :
    ¬ SaysUniversal cs := by
  obtain ⟨mark, first, second, same, marks, -⟩ := said.trim_eq
  rw [saysUniversal_iff, same]
  exact marks.not_isUniversal

/-- The two names of universal time are looked for in lower case. -/
theorem isNamed_iff : (String.ofList (lowerAscii (trim text.toList)) == "z" ||
    String.ofList (lowerAscii (trim text.toList)) == "utc") = true ↔
      SaysUniversal text.toList := by
  rw [Bool.or_eq_true, beq_iff_eq, beq_iff_eq, ← String.toList_inj, ← String.toList_inj,
    String.toList_ofList, saysUniversal_iff]
  rfl

theorem read_of_universal (universal : SaysUniversal text.toList) : read text = .ok .zero :=
  if_pos (isNamed_iff.mpr universal)

/-- What becomes of a text that says hours and minutes which are let through. -/
theorem read_of_said (said : SaysOffset Signed sign hours minutes text.toList)
    (admits : Admits hours minutes) : read text =
      if hours * 3600 < -2 ^ 31 then .error .overrun
      else
        match ofSeconds? (sign * (hours * 3600 + minutes * 60)) with
        | some offset => .ok offset
        | none => .error (.refused ()) := by
  obtain ⟨mark, first, second, trimmed, marks, numbers⟩ := said.trim_eq
  have fields : fields? (first ++ ':' :: second) = some (hours, minutes) :=
    fields?_eq_some.mpr ⟨admits, first, second, rfl, numbers⟩
  -- The text is no name of the universal zone, so the mark decides the sign.
  have behind : read text = ofFields sign (first ++ ':' :: second) := by
    unfold read
    dsimp only
    rw [if_neg (mt isNamed_iff.mp said.not_universal), trimmed]
    cases marks <;> rfl
  rw [behind, ofFields, fields]
  dsimp only
  -- Either the product leaves 32 bits or all the arithmetic is exact.
  rcases total_cases said.sign_eq admits with ⟨total, fits⟩ | ⟨total, beyond⟩
  · rw [if_neg (by omega), total]
    rfl
  · rw [if_pos beyond, total]
    rfl

/-- All other texts are refused. -/
theorem read_of_unsaid (other : ¬ SaysUniversal text.toList)
    (unsaid : ∀ sign hours minutes, SaysOffset Signed sign hours minutes text.toList →
      ¬ Admits hours minutes) : read text = .error (.refused ()) := by
  -- Were there hours and minutes behind a mark, the text would say them.
  have refused {mark : Char} {sign : Int} {rest : List Char} (marks : Marks mark sign)
      (trimmed : trim text.toList = mark :: rest) :
      ofFields sign rest = .error (.refused ()) := by
    unfold ofFields
    cases found : fields? rest with
    | none => rfl
    | some fields =>
      obtain ⟨admits, first, second, rfl, numbers⟩ := fields?_eq_some.mp found
      obtain ⟨before, behind, start, stop, same⟩ := Text.exists_trim text.toList
      rw [trimmed] at same
      have said := SaysOffset.written before first second behind mark same ⟨start, stop⟩ marks numbers
      exact (unsaid _ _ _ said admits).elim
  unfold read
  dsimp only
  rw [if_neg (mt isNamed_iff.mp other)]
  split
  · exact refused .ahead ‹_›
  · exact refused .behind ‹_›
  · rfl

/-- A text names universal time, or says hours and minutes that are let through, or is refused. -/
theorem read_cases (text : String) : SaysUniversal text.toList ∧ read text = .ok .zero ∨
    (∃ sign hours minutes, SaysOffset Signed sign hours minutes text.toList ∧
      Admits hours minutes) ∨ read text = .error (.refused ()) := by
  -- A text that says the universal zone says no hours, so the two cases exclude each other.
  by_cases universal : SaysUniversal text.toList
  · exact .inl ⟨universal, read_of_universal universal⟩
  by_cases said : ∃ sign hours minutes, SaysOffset Signed sign hours minutes text.toList ∧
      Admits hours minutes
  · exact .inr (.inl said)
  · exact .inr (.inr (read_of_unsaid universal fun sign hours minutes fits admits =>
      said ⟨sign, hours, minutes, fits, admits⟩))

/-- An offset is read from a text exactly if the text means it. -/
theorem read_eq_ok : read text = .ok o ↔ Means o text.toList := by
  constructor
  · intro done
    rcases read_cases text with
      ⟨universal, zero⟩ | ⟨sign, hours, minutes, said, admits⟩ | refused
    · rw [zero] at done
      exact .universal universal (Except.ok.inj done).symm
    · rw [read_of_said said admits] at done
      split at done
      · cases done
      split at done
      · rename_i offset within
        cases done
        exact .fields said admits (ofSeconds?_eq_some.mp within)
      · cases done
    · rw [refused] at done
      cases done
  -- Either spelling of the same offset reads to it.
  · rintro (⟨universal, rfl⟩ | @⟨sign, hours, minutes, said, admits, exact⟩)
    · exact read_of_universal universal
    · have bounded := o.bounded
      obtain ⟨least, most⟩ := admits.minute
      -- An offset of less than a day is far from the ends of 32 bits.
      have fits : ¬ hours * 3600 < -2 ^ 31 := by
        rcases said.sign_eq with rfl | rfl <;> omega
      rw [read_of_said said admits, if_neg fits, ofSeconds?_eq_some.mpr exact]

/-- The reading of an offset comes to too large a number exactly if its text overruns. -/
theorem read_eq_overrun : read text = .error .overrun ↔ Overruns text.toList := by
  constructor
  · intro stopped
    -- Of the three outcomes only the middle one can overrun.
    rcases read_cases text with ⟨-, zero⟩ | ⟨sign, hours, minutes, said, admits⟩ | refused
    · rw [zero] at stopped
      cases stopped
    · rw [read_of_said said admits] at stopped
      split at stopped
      · rename_i beyond
        exact .fields said admits beyond
      · split at stopped <;> cases stopped
    · rw [refused] at stopped
      cases stopped
  · rintro ⟨said, admits, beyond⟩
    rw [read_of_said said admits, if_pos beyond]

example : read "+-596524:00" = .error .overrun ∧ read "+-596523:00" = .error (.refused ()) := by
  decide +kernel

end Reading

section Truth

/-- An offset is literal exactly if it is meant by a text with at most one sign. -/
theorem literal_iff : Literal o cs ↔ Means o cs ∧ signs cs ≤ 1 := by
  -- A text with one sign at most has bare numbers behind its mark.
  constructor
  · rintro (⟨said, zero⟩ | ⟨said, range, exact⟩)
    · exact ⟨.universal said zero, by simp [said.signs_eq]⟩
    · obtain ⟨signed, once⟩ := saysOffset_bare_iff.mp said
      have nonneg := said.nonneg
      exact ⟨.fields signed ⟨⟨by omega, range.1⟩, nonneg.2, range.2⟩ exact, once⟩
  · rintro ⟨⟨said, zero⟩ | ⟨said, admits, exact⟩, once⟩
    · exact .universal said zero
    · exact .fields (saysOffset_bare_iff.mpr ⟨said, once⟩) ⟨admits.hour.2, admits.minute.2⟩ exact

/-- An offset that is what its text says has the direction of its sign. -/
theorem Literal.faithful (literal : Literal o cs) : Faithful o cs := by
  -- The mark tells on which side of zero the offset lies, the numbers being no less than zero.
  rcases literal with ⟨-, rfl⟩ | ⟨said, range, exact⟩
  · exact ⟨fun _ => le_rfl, fun _ => le_rfl, by decide⟩
  · have nonneg := said.nonneg
    have limit : hourLimit = 18 := rfl
    obtain ⟨mark, first, second, same, marks, -⟩ := (saysOffset_bare_iff.mp said).1.trim_eq
    cases marks with
    | ahead => exact ⟨fun _ => by omega, by simp [same], by omega⟩
    | behind => exact ⟨by simp [same], fun _ => by omega, by omega⟩

end Truth

end Offset

namespace Window

open Offset (Faithful Literal Means signs)

variable {schedule duration timeZone : String} {w : Window}

/-- A window is read from its three texts, each of them on its own. -/
theorem reads_iff : read schedule duration timeZone = .ok w ↔
    Described schedule duration w ∧ Means w.offset timeZone.toList := by
  rw [read_eq_ok, Offset.read_eq_ok]

/-- The texts of a window lead to a number that its bits cannot hold: in a duration that is said in
hours, minutes and seconds, or in an offset behind a duration that is admitted. -/
def Overruns (schedule duration timeZone : String) : Prop :=
  (∃ s, Planned schedule s) ∧ (Span.Overruns duration ∨
    ∃ seconds, Span.readEither duration = .ok seconds ∧ Admitted seconds ∧
      Offset.Overruns timeZone.toList)

theorem overruns_iff :
    read schedule duration timeZone = .error .overrun ↔ Overruns schedule duration timeZone := by
  rw [read_eq_overrun, Span.readEither_eq_overrun, Offset.read_eq_overrun, Overruns]

/-- How the offset of a window is read. -/
structure ReadsOffset (schedule duration timeZone : String) : Prop where
  reads : ∀ w, read schedule duration timeZone = .ok w ↔
    Described schedule duration w ∧ Means w.offset timeZone.toList
  overruns :
    read schedule duration timeZone = .error .overrun ↔ Overruns schedule duration timeZone
  /-- The offset is the one that is said, unless there is a second sign. -/
  literal_iff : ∀ w, read schedule duration timeZone = .ok w →
    (Literal w.offset timeZone.toList ↔ signs timeZone.toList ≤ 1)
  faithful : ∀ w, read schedule duration timeZone = .ok w →
    signs timeZone.toList ≤ 1 → Faithful w.offset timeZone.toList

/-- Offsets are read from the texts that say them, and from those with more signs than one. -/
theorem offsets_read (schedule duration timeZone : String) :
    ReadsOffset schedule duration timeZone where
  reads _ := reads_iff
  overruns := overruns_iff
  literal_iff w accepted := by
    rw [Offset.literal_iff]
    exact and_iff_right (reads_iff.mp accepted).2
  faithful w accepted once :=
    (Offset.literal_iff.mpr ⟨(reads_iff.mp accepted).2, once⟩).faithful

/-- Five hours behind are read from a text that starts with the sign for ahead. -/
theorem contrary_sign_misread : ∃ w, read "0 0 2 * * *" "PT3H" "+-05:00" = .ok w ∧
    w.offset.seconds = -18000 ∧ ¬ Literal w.offset "+-05:00".toList ∧
      ¬ Faithful w.offset "+-05:00".toList := by
  -- The second sign makes the hours negative, and the first one leaves them so.
  have behind : ∃ w, read "0 0 2 * * *" "PT3H" "+-05:00" = .ok w ∧ w.offset.seconds = -18000 := by
    have decided : (read "0 0 2 * * *" "PT3H" "+-05:00").toOption.any
        (fun w => decide (w.offset.seconds = -18000)) = true := by
      decide +kernel
    match read "0 0 2 * * *" "PT3H" "+-05:00", decided with
    | .ok w, decided => exact ⟨w, rfl, of_decide_eq_true decided⟩
  obtain ⟨w, done, seconds⟩ := behind
  refine ⟨w, done, seconds, fun literal => ?_, fun faithful => ?_⟩
  -- There are two signs in the text, and the first of them is the one for ahead.
  · have twice : signs "+-05:00".toList = 2 := by decide
    have once := (Offset.literal_iff.mp literal).2
    omega
  · have ahead := faithful.ahead (by decide +kernel)
    omega

end Window

end DeviceUpdate.Maintenance
