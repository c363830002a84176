import DeviceUpdate.Text.Blank
import Mathlib.Data.List.TakeWhile

/-! Texts cut at a separator, read after a mark, and freed of the blanks around them. -/

namespace DeviceUpdate.Text

variable {separator mark c d : Char} {cs front body back piece : List Char}

section Pieces

theorem splitOn_eq (separator : Char) (cs : List Char) :
    splitOn separator cs = List.splitOn separator cs := by
  induction cs with
  | nil => rfl
  | cons c rest ih =>
    rw [List.splitOn_cons_eq_if_modifyHead, ← ih]
    -- There is always a first piece, to which the character may belong.
    cases split : splitOn separator rest with
    | nil => exact (splitOn_ne_nil separator rest split).elim
    | cons piece pieces => simp only [splitOn, split, List.modifyHead_cons]

/-- No piece has a separator in it. -/
theorem separator_not_mem (member : piece ∈ splitOn separator cs) : separator ∉ piece := by
  -- The pieces are made from the end, where the first one is still open.
  induction cs generalizing piece with
  | nil =>
    rw [List.mem_singleton.mp member]
    exact List.not_mem_nil
  | cons c rest ih =>
    cases split : splitOn separator rest with
    | nil => exact (splitOn_ne_nil separator rest split).elim
    | cons first pieces =>
      rw [split] at ih
      simp only [splitOn, split] at member
      by_cases ends : c = separator
      · rw [if_pos (beq_iff_eq.mpr ends)] at member
        rcases List.mem_cons.mp member with rfl | member
        · exact List.not_mem_nil
        · exact ih member
      -- A character other than the separator joins the piece in front.
      · rw [if_neg (by simpa using ends)] at member
        rcases List.mem_cons.mp member with rfl | member
        · have other := ih List.mem_cons_self
          simp [other, Ne.symm ends]
        · exact ih (List.mem_cons_of_mem _ member)

/-- A text without separators is one piece. -/
theorem splitOn_of_not_mem (absent : separator ∉ cs) : splitOn separator cs = [cs] := by
  induction cs with
  | nil => rfl
  | cons c cs ih =>
    have other : c ≠ separator := fun same => absent (by simp [same])
    have rest := ih fun member => absent (List.mem_cons_of_mem _ member)
    simp [splitOn, rest, other]

/-- The first piece ends at the first separator. -/
theorem splitOn_append (absent : separator ∉ front) :
    splitOn separator (front ++ separator :: back) = front :: splitOn separator back := by
  -- The first piece takes in one character after another until the separator.
  induction front with
  | nil =>
    cases split : splitOn separator back with
    | nil => exact (splitOn_ne_nil separator back split).elim
    | cons piece pieces => simp [splitOn, split]
  | cons c front ih =>
    have other : c ≠ separator := fun same => absent (by simp [same])
    have rest := ih fun member => absent (List.mem_cons_of_mem _ member)
    simp [splitOn, rest, other]

end Pieces

section Marks

/-- What follows a mark is the text behind it. -/
theorem dropMark?_eq_some {mark rest : List Char} :
    dropMark? mark cs = some rest ↔ cs = mark ++ rest := by
  unfold dropMark?
  split
  -- The mark is a prefix, and what is dropped is the mark itself.
  · rename_i start
    obtain ⟨back, rfl⟩ := List.isPrefixOf_iff_prefix.mp start
    simp
  · rename_i other
    refine ⟨nofun, fun same => absurd ?_ other⟩
    rw [List.isPrefixOf_iff_prefix, same]
    exact List.prefix_append mark rest

@[simp] theorem dropMark?_self (mark : Char) (cs : List Char) :
    dropMark? [mark] (mark :: cs) = some cs := by
  simp [dropMark?]

@[simp] theorem dropMark?_nil (mark : Char) : dropMark? [mark] [] = none := rfl

/-- No mark stands before another character. -/
theorem dropMark?_other (other : c ≠ mark) : dropMark? [mark] (c :: cs) = none := by
  simp [dropMark?, other.symm]

/-- A mark is found only where it stands. -/
theorem dropMark?_of_not_mem (absent : mark ∉ cs) : dropMark? [mark] cs = none := by
  cases cs with
  | nil => rfl
  | cons c cs => exact dropMark?_other fun same => absent (by simp [same])

end Marks

section Cuts

variable {mark before after : List Char}

/-- A text is cut into two at the first occurrence of a mark. -/
structure CutAt (mark cs before after : List Char) : Prop where
  whole : cs = before ++ mark ++ after
  first : ∀ {earlier later : List Char}, cs = earlier ++ mark ++ later →
    before.length ≤ earlier.length

/-- There is one first occurrence. -/
theorem CutAt.unique {other rest : List Char} (cut : CutAt mark cs before after)
    (again : CutAt mark cs other rest) : other = before ∧ rest = after := by
  have same : other.length = before.length :=
    Nat.le_antisymm (again.first cut.whole) (cut.first again.whole)
  have parts : other ++ (mark ++ rest) = before ++ (mark ++ after) := by
    rw [← List.append_assoc, ← List.append_assoc, ← again.whole, ← cut.whole]
  obtain ⟨fronts, backs⟩ := List.append_inj parts same
  exact ⟨fronts, List.append_cancel_left backs⟩

/-- A character that does not occur earlier is its own first occurrence. -/
theorem cutAt_of_not_mem {mark : Char} (absent : mark ∉ before) (after : List Char) :
    CutAt [mark] (before ++ mark :: after) before after := by
  refine ⟨by simp, fun {earlier later} same => Nat.le_of_not_lt fun shorter => absent ?_⟩
  -- An earlier occurrence would stand among the characters in front.
  have there : (before ++ mark :: after)[earlier.length]? = some mark := by
    rw [same, List.append_assoc, List.getElem?_append_right le_rfl]
    simp
  rw [List.getElem?_append_left shorter] at there
  exact List.mem_of_getElem? there

/-- The search for a mark finds the first occurrence, or there is none. -/
theorem splitOnce_cases (mark cs : List Char) :
    (splitOnce mark cs = none ∧ ¬ mark <:+: cs) ∨
      ∃ before after, splitOnce mark cs = some (before, after) ∧ CutAt mark cs before after := by
  -- The mark is looked for at every place, from the start on.
  induction cs with
  | nil =>
    cases mark with
    | nil => exact .inr ⟨[], [], rfl, rfl, fun _ => Nat.zero_le _⟩
    -- An empty text has no mark in it that is not empty itself.
    | cons m mark => exact .inl ⟨rfl, by simp⟩
  | cons c rest ih =>
    rw [splitOnce]
    by_cases here : mark <+: c :: rest
    · obtain ⟨after, same⟩ := here
      refine .inr ⟨[], after, ?_, same.symm, fun _ => Nat.zero_le _⟩
      rw [← same, if_pos (List.isPrefixOf_iff_prefix.mpr (List.prefix_append mark after)),
        List.drop_left]
    -- No mark starts here, so the first one behind is the first one at all.
    · rw [if_neg fun start => here (List.isPrefixOf_iff_prefix.mp start)]
      obtain ⟨none, absent⟩ | ⟨before, after, found, cut⟩ := ih
      · refine .inl ⟨by rw [none]; rfl, fun present => ?_⟩
        exact (List.infix_cons_iff.mp present).elim here absent
      · refine .inr ⟨c :: before, after, by rw [found]; rfl, by rw [cut.whole]; rfl, ?_⟩
        intro earlier later same
        cases earlier with
        | nil => exact absurd ⟨later, same.symm⟩ here
        | cons d earlier =>
          have behind : rest = earlier ++ mark ++ later := (List.cons.inj same).2
          exact Nat.succ_le_succ (cut.first behind)

theorem splitOnce_eq_some : splitOnce mark cs = some (before, after) ↔
    CutAt mark cs before after := by
  obtain ⟨none, absent⟩ | ⟨front, back, found, cut⟩ := splitOnce_cases mark cs
  · rw [none]
    exact ⟨nofun, fun cut => absurd ⟨before, after, cut.whole.symm⟩ absent⟩
  -- The cut is the only one, so what is cut elsewhere is cut here.
  · rw [found]
    constructor
    · rintro ⟨⟩
      exact cut
    · intro again
      obtain ⟨rfl, rfl⟩ := cut.unique again
      rfl

theorem splitOnce_eq_none : splitOnce mark cs = none ↔ ¬ mark <:+: cs := by
  obtain ⟨none, absent⟩ | ⟨before, after, found, cut⟩ := splitOnce_cases mark cs
  · exact iff_of_true none absent
  · rw [found]
    exact iff_of_false nofun fun absent => absent ⟨before, after, cut.whole.symm⟩

end Cuts

section Trimming

/-- A text of blanks alone. -/
def Blank (cs : List Char) : Prop :=
  ∀ c ∈ cs, isBlank c = true

/-- A text that neither starts nor ends with a blank. -/
structure Trimmed (cs : List Char) : Prop where
  start : ∀ c ∈ cs.head?, isBlank c = false
  stop : ∀ c ∈ cs.getLast?, isBlank c = false

theorem trimStart_append (blank : Blank front) (start : ∀ c ∈ cs.head?, isBlank c = false) :
    trimStart (front ++ cs) = cs := by
  rw [trimStart, List.dropWhile_append_of_pos blank]
  cases cs with
  | nil => rfl
  | cons c cs => rw [List.dropWhile_cons_of_neg (by simp [start c rfl])]

/-- Trimming at the end is trimming at the start, seen from the other side. -/
theorem trimEnd_append (blank : Blank back) (stop : ∀ c ∈ cs.getLast?, isBlank c = false) :
    trimEnd (cs ++ back) = cs := by
  have turned : trimStart (back.reverse ++ cs.reverse) = cs.reverse :=
    trimStart_append (fun c member => blank c (List.mem_reverse.mp member))
      (by simpa using stop)
  rw [trimEnd, List.reverse_append]
  rw [trimStart] at turned
  rw [turned, List.reverse_reverse]

/-- Blanks around a trimmed text are all that trimming takes away. -/
theorem trim_append (before : Blank front) (trimmed : Trimmed body) (behind : Blank back) :
    trim (front ++ body ++ back) = body := by
  -- A body without characters has no ends, and then the blanks around it are one run.
  cases body with
  | nil =>
    have blank : Blank (front ++ back) := List.forall_mem_append.mpr ⟨before, behind⟩
    have none : trimStart (front ++ back ++ []) = [] := trimStart_append blank (by simp)
    rw [List.append_nil] at none
    rw [List.append_nil, trim, none]
    rfl
  | cons c rest =>
    have start : trimStart (front ++ (c :: rest ++ back)) = c :: rest ++ back :=
      trimStart_append before trimmed.start
    rw [trim, List.append_assoc, start, trimEnd_append behind trimmed.stop]

/-- A text is what trimming leaves of it, with blanks on both sides. -/
theorem exists_trim (cs : List Char) :
    ∃ front back, Blank front ∧ Blank back ∧ cs = front ++ trim cs ++ back := by
  have blank (l : List Char) : Blank (l.takeWhile isBlank) := fun c member =>
    List.mem_takeWhile_imp member
  refine ⟨cs.takeWhile isBlank, ((trimStart cs).reverse.takeWhile isBlank).reverse, blank cs,
    fun c member => blank _ c (List.mem_reverse.mp member), ?_⟩
  -- What is trimmed at the end is put back there.
  have ending : trimEnd (trimStart cs) ++ ((trimStart cs).reverse.takeWhile isBlank).reverse =
      trimStart cs := by
    rw [trimEnd, ← List.reverse_append, List.takeWhile_append_dropWhile, List.reverse_reverse]
  rw [List.append_assoc, trim, ending, trimStart, List.takeWhile_append_dropWhile]

/-- Nothing is left exactly of a text of blanks. -/
theorem trim_eq_nil : trim cs = [] ↔ Blank cs := by
  constructor
  -- All that trimming takes away is blank.
  · intro none
    obtain ⟨front, back, before, behind, same⟩ := exists_trim cs
    rw [same, none, List.append_nil]
    exact List.forall_mem_append.mpr ⟨before, behind⟩
  · intro blank
    have none : trim (cs ++ [] ++ []) = [] := trim_append blank ⟨by simp, by simp⟩ (by simp [Blank])
    rwa [List.append_nil, List.append_nil] at none

/-- A text that is trimmed already stays as it is. -/
theorem trim_of_trimmed (trimmed : Trimmed cs) : trim cs = cs := by
  have same : trim ([] ++ cs ++ []) = cs := trim_append (by simp [Blank]) trimmed (by simp [Blank])
  simpa using same

/-- A text without blanks has none at its ends. -/
theorem trimmed_of_solid (solid : ∀ c ∈ cs, isBlank c = false) : Trimmed cs :=
  ⟨fun c first => solid c (List.mem_of_mem_head? first),
    fun c last => solid c (List.mem_of_getLast? last)⟩

end Trimming

end DeviceUpdate.Text
