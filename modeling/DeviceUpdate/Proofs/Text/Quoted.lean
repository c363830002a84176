import DeviceUpdate.Text.Quoted
import Mathlib.Data.List.Basic

/-! What can be read off a text that starts with a numeral, a word or a quotation. -/

namespace DeviceUpdate.Text

/-- What is written for a value tells where it ends, whatever follows it. -/
def SelfDelimiting {α : Type} (write : α → List Char) : Prop :=
  ∀ ⦃a b : α⦄ ⦃x y : List Char⦄, write a ++ x = write b ++ y → a = b ∧ x = y

/-- Runs of marked characters end where the first unmarked one stands. -/
theorem append_inj_of_span {p : Char → Bool} {a b x y : List Char} (marked : ∀ c ∈ a, p c = true)
    (markedToo : ∀ c ∈ b, p c = true) (ends : ∀ c ∈ x.head?, p c = false)
    (endsToo : ∀ c ∈ y.head?, p c = false) (same : a ++ x = b ++ y) : a = b ∧ x = y := by
  -- Both runs are followed together, until one of them ends.
  induction a generalizing b with
  | nil =>
    cases b with
    | nil => exact ⟨rfl, same⟩
    | cons d ds =>
      -- The other run would go on where this one has ended.
      have stops : p d = false := ends d (by rw [show x = _ from same]; rfl)
      rw [markedToo d List.mem_cons_self] at stops
      cases stops
  | cons c cs ih =>
    cases b with
    | nil =>
      have stops : p c = false := endsToo c (by rw [← show _ = y from same]; rfl)
      rw [marked c List.mem_cons_self] at stops
      cases stops
    | cons d ds =>
      obtain ⟨head, tail⟩ := List.cons.inj same
      obtain ⟨rest, after⟩ := ih (fun e member => marked e (List.mem_cons_of_mem c member))
        (fun e member => markedToo e (List.mem_cons_of_mem d member)) tail
      exact ⟨by rw [head, rest], after⟩

section Digits

variable {base : Nat} (plural : 1 < base) (readable : base ≤ 16)
include plural readable

/-- Every digit stands for one value. -/
theorem digitChar_inj {m n : Nat} (small : m < base) (smallToo : n < base)
    (same : Nat.digitChar m = Nat.digitChar n) : m = n := by
  have all : ∀ i j : Fin 16, Nat.digitChar i = Nat.digitChar j → i = j := by decide
  exact congrArg Fin.val (all ⟨m, by omega⟩ ⟨n, by omega⟩ same)

/-- Digits are no brackets. -/
theorem ne_brace_of_mem_toDigits {n : Nat} {c : Char} (member : c ∈ Nat.toDigits base n) :
    c ≠ '\x7d' := by
  -- A digit in front of or behind the last one is looked up in the same table of sixteen.
  have all : ∀ i : Fin 16, Nat.digitChar i ≠ '\x7d' := by decide
  induction n using Nat.strongRecOn with | ind n ih =>
  rw [Nat.toDigits_eq_if plural] at member
  split at member
  · rename_i small
    rw [List.mem_singleton.mp member]
    exact all ⟨n, by omega⟩
  · rename_i large
    rcases List.mem_append.mp member with before | last
    · exact ih (n / base) (Nat.div_lt_self (by omega) plural) before
    · have small : n % base < base := Nat.mod_lt n (by omega)
      rw [List.mem_singleton.mp last]
      exact all ⟨n % base, by omega⟩

/-- Different numbers have different digits. -/
theorem toDigits_inj {m n : Nat} (same : Nat.toDigits base m = Nat.toDigits base n) : m = n := by
  -- The last digits are equal and so are all digits before them, which are those of smaller
  -- numbers.
  induction m using Nat.strongRecOn generalizing n with | ind m ih =>
  have single {k : Nat} {d : Char}
      (short : Nat.toDigits base (k / base) ++ [(k % base).digitChar] = [d]) : False := by
    -- There is a digit in front of the last one.
    rcases List.append_eq_singleton_iff.mp short with ⟨none, -⟩ | ⟨-, none⟩
    · exact Nat.toDigits_ne_nil none
    · cases none
  rw [Nat.toDigits_eq_if plural, Nat.toDigits_eq_if (n := n) plural] at same
  split at same <;> rename_i first <;> split at same <;> rename_i second
  · exact digitChar_inj plural readable first second (List.singleton_inj.mp same)
  · exact (single same.symm).elim
  · exact (single same).elim
  · obtain ⟨front, last⟩ := List.append_inj' same rfl
    have high : m / base = n / base := ih (m / base) (Nat.div_lt_self (by omega) plural) front
    have low : m % base = n % base :=
      digitChar_inj plural readable (Nat.mod_lt m (by omega)) (Nat.mod_lt n (by omega))
        (List.singleton_inj.mp last)
    rw [← Nat.div_add_mod m base, ← Nat.div_add_mod n base, high, low]

end Digits

/-- Different numbers are written in different decimals. -/
theorem decimal_inj {m n : Nat} (same : decimal m = decimal n) : m = n := by
  refine @toDigits_inj 10 (by decide) (by decide) m n ?_
  rw [decimal, decimal, Nat.toString_eq_ofList_toDigits, Nat.toString_eq_ofList_toDigits] at same
  exact String.ofList_inj.mp same

/-- The characters that are spelled with one other character, each after its spelling. -/
def escapes : List (Char × Char) :=
  [('0', '\x00'), ('t', '\t'), ('r', '\r'), ('n', '\n'), ('\\', '\\'), ('"', '"')]

/-- The ways in which a character is spelled. -/
inductive Spelled (c : Char) : List Char → Prop
  | plain (visible : c ≠ '\\') (inside : c ≠ '"') : Spelled c [c]
  | named (e : Char) (escape : (e, c) ∈ escapes) : Spelled c ['\\', e]
  | numbered : Spelled c (['\\', 'u', '\x7b'] ++ Nat.toDigits 16 c.toNat ++ ['\x7d'])

/-- Every character is spelled in one of these ways. -/
theorem spelled (c : Char) : Spelled c (spell c) := by
  unfold spell
  split
  case h_7 _ backslash quote =>
    split
    · exact .numbered
    · exact .plain backslash quote
  all_goals exact .named _ (by decide)

/-- A spelling with a backslash names one character. -/
theorem escapes_unique {e c d : Char} (first : (e, c) ∈ escapes) (second : (e, d) ∈ escapes) :
    c = d := by
  have all : ∀ p ∈ escapes, ∀ q ∈ escapes, p.1 = q.1 → p.2 = q.2 := by decide
  exact all (e, c) first (e, d) second rfl

/-- No character is named by the letter that introduces a number. -/
theorem not_escape_u (c : Char) : ('u', c) ∉ escapes := by
  simp [escapes]

/-- A spelled character tells where its spelling ends. -/
theorem spell_selfDelimiting : SelfDelimiting spell := by
  intro c d x y same
  have first := spelled c
  have second := spelled d
  generalize spell c = left at first same
  generalize spell d = right at second same
  -- The first characters tell the three forms of an escape apart.
  cases first with
  | plain visible inside =>
    cases second with
    | plain => simpa using same
    | named => exact absurd (List.cons.inj same).1 visible
    | numbered => exact absurd (List.cons.inj same).1 visible
  -- After a backslash, a letter of its own name stands for one character only.
  | named e escape =>
    cases second with
    | plain visible => exact absurd (List.cons.inj same).1.symm visible
    | named e' escape' =>
      obtain ⟨letter, rest⟩ := List.cons.inj (List.cons.inj same).2
      subst letter
      exact ⟨escapes_unique escape escape', rest⟩
    | numbered =>
      have letter : e = 'u' := (List.cons.inj (List.cons.inj same).2).1
      subst letter
      exact absurd escape (not_escape_u c)
  | numbered =>
    cases second with
    | plain visible => exact absurd (List.cons.inj same).1.symm visible
    | named e' escape' =>
      have letter : 'u' = e' := (List.cons.inj (List.cons.inj same).2).1
      subst letter
      exact absurd escape' (not_escape_u d)
    | numbered =>
      -- Both numbers end at the first closing bracket.
      simp only [List.cons_append, List.append_assoc, List.nil_append, List.cons.injEq,
        true_and] at same
      obtain ⟨digits, rest⟩ := append_inj_of_span (p := (· != '\x7d'))
        (fun e member => by simpa using ne_brace_of_mem_toDigits (by decide) (Nat.le_refl 16) member)
        (fun e member => by simpa using ne_brace_of_mem_toDigits (by decide) (Nat.le_refl 16) member)
        (by simp) (by simp) same
      have number := toDigits_inj (by decide) (Nat.le_refl 16) digits
      exact ⟨Char.toNat_inj.mp number, (List.cons.inj rest).2⟩

/-- No spelled character starts with the mark that ends a quotation. -/
theorem spell_ne_quote (c : Char) (x y : List Char) : spell c ++ x ≠ '"' :: y := by
  intro same
  have ways := spelled c
  generalize spell c = written at ways same
  cases ways with
  | plain visible inside => exact inside (List.cons.inj same).1
  | named => cases (List.cons.inj same).1
  | numbered => cases (List.cons.inj same).1

/-- Spelled characters end where the quotation does. -/
theorem flatMap_spell_inj {cs ds x y : List Char}
    (same : cs.flatMap spell ++ '"' :: x = ds.flatMap spell ++ '"' :: y) : cs = ds ∧ x = y := by
  -- Characters are read one after another, and none of them is written with the quotation mark.
  induction cs generalizing ds with
  | nil =>
    cases ds with
    | nil => exact ⟨rfl, (List.cons.inj same).2⟩
    | cons d ds =>
      rw [List.flatMap_cons, List.append_assoc] at same
      exact absurd same.symm (spell_ne_quote d _ _)
  | cons c cs ih =>
    cases ds with
    | nil =>
      rw [List.flatMap_cons, List.append_assoc] at same
      exact absurd same (spell_ne_quote c _ _)
    | cons d ds =>
      rw [List.flatMap_cons, List.append_assoc, List.flatMap_cons, List.append_assoc] at same
      obtain ⟨head, rest⟩ := spell_selfDelimiting same
      obtain ⟨tail, after⟩ := ih rest
      exact ⟨by rw [head, tail], after⟩

/-- A quotation tells where it ends. -/
theorem quoted_selfDelimiting : SelfDelimiting quoted := by
  intro s t x y same
  simp only [quoted, List.cons_append, List.append_assoc, List.cons.injEq, true_and] at same
  obtain ⟨characters, rest⟩ := flatMap_spell_inj same
  exact ⟨String.toList_inj.mp characters, rest⟩

end DeviceUpdate.Text
