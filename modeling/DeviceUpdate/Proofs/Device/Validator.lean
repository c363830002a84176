import DeviceUpdate.Device.Validator
import DeviceUpdate.Proofs.Text.Quoted
import Mathlib.Data.List.Nodup

/-! Validators: the text from which a tag is made can be read back, part by part. -/

namespace DeviceUpdate.Validator

open Text (SelfDelimiting append_inj_of_span)

/-- A text that ends, or goes on with what stands behind a value. -/
def Delimited (cs : List Char) : Prop :=
  ∀ c ∈ cs.head?, c = ',' ∨ c = ')' ∨ c = '\x00'

@[simp] theorem delimited_nil : Delimited [] := by
  simp [Delimited]

@[simp] theorem delimited_close (cs : List Char) : Delimited (')' :: cs) := by
  simp [Delimited]

@[simp] theorem delimited_comma (cs : List Char) : Delimited (',' :: cs) := by
  simp [Delimited]

@[simp] theorem delimited_part (cs : List Char) : Delimited ('\x00' :: cs) := by
  simp [Delimited]

/-- What stands behind a value is no part of a word. -/
theorem Delimited.ends {cs : List Char} (delimited : Delimited cs) :
    ∀ c ∈ cs.head?, c.isAlphanum = false := by
  intro c first
  rcases delimited c first with rfl | rfl | rfl <;> decide

namespace Value

/-- The forms in which values are written. -/
inductive Form where
  /-- Letters or digits alone. -/
  | word
  | quotation
  | wrapped
  | bracketed
  deriving DecidableEq

/-- The form of a value. -/
def form : Value → Form
  | number _ | flag _ | status _ | directive _ | availability _ | absent => .word
  | text _ => .quotation
  | present _ => .wrapped
  | tuple _ => .bracketed

/-- The form of the value at the start of a text. -/
def formOf : List Char → Form
  | '"' :: _ => .quotation
  | '(' :: _ => .bracketed
  | cs => if (cs.dropWhile Char.isAlphanum).head? = some '(' then .wrapped else .word

/-- The values that are written as words of letters. -/
def named : List Value :=
  [flag true, flag false, absent] ++ Status.all.map status ++
    [Directive.skip, .attempt, .forced].map directive ++
    [Availability.available, .unavailable].map availability

/-- A value that is written as a word is a number, or it is named. -/
theorem number_or_named {v : Value} (word : v.form = .word) :
    (∃ n, v = number n) ∨ v ∈ named := by
  -- Numbers have infinitely many words; the rest are a handful of names.
  cases v with
  | number n => exact Or.inl ⟨n, rfl⟩
  | flag b => cases b <;> simp [named]
  | status s => cases s <;> simp [named, Status.all]
  | directive d => cases d <;> simp [named]
  | availability a => cases a <;> simp [named]
  | absent => simp [named]
  | text | present | tuple => cases word

/-- The digits of a number. -/
theorem write_number (n : Nat) : (number n).write = Nat.toDigits 10 n := by
  have decimal : (number n).write = (Text.decimal n).toList := rfl
  rw [decimal, Text.decimal, Nat.toString_eq_ofList_toDigits, String.toList_ofList]

theorem isDigit_of_mem_write {n : Nat} {c : Char} (member : c ∈ (number n).write) :
    c.isDigit = true := by
  rw [write_number] at member
  exact Nat.isDigit_of_mem_toDigits (by decide) (by decide) member

theorem write_number_ne_nil (n : Nat) : (number n).write ≠ [] := by
  rw [write_number]
  exact Nat.toDigits_ne_nil

/-- A named value is written in letters. -/
theorem isAlpha_of_named {v : Value} (member : v ∈ named) :
    v.write ≠ [] ∧ ∀ c ∈ v.write, c.isAlpha = true := by
  have all : (named.all fun v => !v.write.isEmpty && v.write.all Char.isAlpha) = true := by
    decide +kernel
  have own := List.all_eq_true.mp all v member
  rw [Bool.and_eq_true, Bool.not_eq_true', List.isEmpty_eq_false_iff, List.all_eq_true] at own
  exact own

/-- Every name stands for one value. -/
theorem nodup_named : (named.map write).Nodup := by
  decide +kernel

/-- A word is a nonempty run of letters or digits. -/
theorem isAlphanum_of_word {v : Value} (word : v.form = .word) :
    v.write ≠ [] ∧ ∀ c ∈ v.write, c.isAlphanum = true := by
  rcases number_or_named word with ⟨n, rfl⟩ | member
  · refine ⟨write_number_ne_nil n, fun c here => ?_⟩
    simp [Char.isAlphanum, isDigit_of_mem_write here]
  · obtain ⟨some, letters⟩ := isAlpha_of_named member
    exact ⟨some, fun c here => by simp [Char.isAlphanum, letters c here]⟩

/-- Different words are written for different values. -/
theorem word_inj {v w : Value} (word : v.form = .word) (wordToo : w.form = .word)
    (same : v.write = w.write) : v = w := by
  -- A number has digits where a name has letters.
  have apart {n : Nat} {u : Value} (member : u ∈ named) (same : (number n).write = u.write) :
      False := by
    obtain ⟨c, here⟩ := List.exists_mem_of_ne_nil _ (write_number_ne_nil n)
    have digit : (decide ('0'.val ≤ c.val) && decide (c.val ≤ '9'.val)) = true :=
      isDigit_of_mem_write here
    have letter : (decide ('A'.val ≤ c.val ∧ c.val ≤ 'Z'.val) ||
        decide ('a'.val ≤ c.val) && decide (c.val ≤ 'z'.val)) = true :=
      (isAlpha_of_named member).2 c (same ▸ here)
    simp only [Bool.and_eq_true, Bool.or_eq_true, decide_eq_true_eq, UInt32.le_iff_toNat_le]
      at digit letter
    have nine : '9'.val.toNat = 57 := rfl
    have upper : 'A'.val.toNat = 65 := rfl
    have lower : 'a'.val.toNat = 97 := rfl
    omega
  -- Numbers differ by their digits, names by being listed once each.
  rcases number_or_named word with ⟨m, rfl⟩ | member <;>
    rcases number_or_named wordToo with ⟨n, rfl⟩ | memberToo
  · exact congrArg number (Text.decimal_inj (String.toList_inj.mp same))
  · exact (apart memberToo same).elim
  · exact (apart member same.symm).elim
  · exact List.inj_on_of_nodup_map nodup_named member memberToo same

/-- What follows a word tells whether it wraps another value. -/
theorem formOf_word {w cs : List Char} (nonempty : w ≠ []) (word : ∀ c ∈ w, c.isAlphanum = true)
    (ends : ∀ c ∈ cs.head?, c.isAlphanum = false) :
    formOf (w ++ cs) = if cs.head? = some '(' then .wrapped else .word := by
  have rest : (w ++ cs).dropWhile Char.isAlphanum = cs := by
    rw [List.dropWhile_append_of_pos word]
    cases cs with
    | nil => rfl
    | cons d ds => rw [List.dropWhile_cons_of_neg (by simp [ends d rfl])]
  -- The form is told by the first character, and for a word by the one behind it as well.
  cases w with
  | nil => exact absurd rfl nonempty
  | cons c w =>
    have letter := word c List.mem_cons_self
    rw [List.cons_append] at rest ⊢
    -- The first character of a word is neither a quotation mark nor a bracket.
    unfold formOf
    split
    · rename_i same
      rw [(List.cons.inj same).1] at letter
      cases letter
    · rename_i same
      rw [(List.cons.inj same).1] at letter
      cases letter
    · rw [rest]

/-- The word that wraps a value. -/
theorem write_present (v : Value) (cs : List Char) :
    (present v).write ++ cs = "Some".toList ++ '(' :: (v.write ++ ')' :: cs) := by
  have written : (present v).write = "Some(".toList ++ v.write ++ [')'] := rfl
  have word : "Some(".toList = "Some".toList ++ ['('] := by decide
  simp [written, word]

/-- The start of a text tells the form of the value that it starts with. -/
theorem formOf_write (v : Value) {cs : List Char} (delimited : Delimited cs) :
    formOf (v.write ++ cs) = v.form := by
  cases form : v.form with
  | word =>
    obtain ⟨nonempty, word⟩ := isAlphanum_of_word form
    rw [formOf_word nonempty word delimited.ends, if_neg]
    intro bracket
    rcases delimited '(' bracket with same | same | same <;> cases same
  | quotation =>
    cases v with
    | text s => rfl
    | _ => cases form
  | wrapped =>
    -- Only a value that is present is wrapped, and its text starts with the word Some.
    cases v with
    | present v =>
      rw [write_present]
      have word : "Some".toList.all Char.isAlphanum = true := by decide
      exact (formOf_word (by decide) (List.all_eq_true.mp word) (by simp)).trans (if_pos rfl)
    | _ => cases form
  | bracketed =>
    cases v with
    | tuple vs => rfl
    | _ => cases form

/-- What is written behind the first value of a tuple. -/
def more (vs : List Value) : List Char :=
  vs.flatMap fun v => [',', ' '] ++ v.write

theorem writeAll_cons (v : Value) (vs : List Value) :
    writeAll (v :: vs) = v.write ++ more vs := by
  induction vs generalizing v with
  | nil => exact (List.append_nil v.write).symm
  | cons w vs ih =>
    have written : writeAll (v :: w :: vs) = v.write ++ [',', ' '] ++ writeAll (w :: vs) := rfl
    rw [written, ih w]
    simp [more]

/-- What stands behind a value of a tuple ends that value. -/
theorem delimited_more (vs : List Value) (cs : List Char) : Delimited (more vs ++ ')' :: cs) := by
  cases vs with
  | nil => simp [more]
  | cons v vs => simp [more]

/-- No value is written with a closing bracket in front. -/
theorem write_ne_close (v : Value) (cs ds : List Char) : v.write ++ cs ≠ ')' :: ds := by
  -- A closing bracket starts no value, whatever the form of the value is.
  intro same
  cases form : v.form with
  | word =>
    obtain ⟨nonempty, word⟩ := isAlphanum_of_word form
    obtain ⟨c, rest, written⟩ := List.exists_cons_of_ne_nil nonempty
    have letter := word c (by rw [written]; exact List.mem_cons_self)
    rw [written] at same
    rw [(List.cons.inj same).1] at letter
    cases letter
  | quotation =>
    cases v with
    | text s => cases (List.cons.inj same).1
    | _ => cases form
  | wrapped =>
    cases v with
    | present v =>
      rw [write_present] at same
      cases (List.cons.inj same).1
    | _ => cases form
  | bracketed =>
    cases v with
    | tuple vs => cases (List.cons.inj same).1
    | _ => cases form

/-- The text of a tuple. -/
theorem write_tuple (vs : List Value) (cs : List Char) :
    (tuple vs).write ++ cs = '(' :: (writeAll vs ++ ')' :: cs) := by
  have written : (tuple vs).write = '(' :: writeAll vs ++ [')'] := rfl
  simp [written]

mutual

/-- A value can be read back from what is written for it, whatever ends it. -/
theorem write_inj (v w : Value) {cs ds : List Char} (delimited : Delimited cs)
    (delimitedToo : Delimited ds) (same : v.write ++ cs = w.write ++ ds) : v = w ∧ cs = ds := by
  have form : v.form = w.form := by
    rw [← formOf_write v delimited, same, formOf_write w delimitedToo]
  -- The texts of equal form are compared part by part; unequal forms were told apart above.
  cases v with
  | text s =>
    cases w with
    | text t =>
      obtain ⟨text, rest⟩ := Text.quoted_selfDelimiting same
      exact ⟨congrArg Value.text text, rest⟩
    | _ => cases form
  | present v =>
    cases w with
    | present w =>
      rw [write_present, write_present] at same
      have wrapped := (List.cons.inj (List.append_cancel_left same)).2
      obtain ⟨value, rest⟩ := write_inj v w (delimited_close cs) (delimited_close ds) wrapped
      exact ⟨congrArg present value, (List.cons.inj rest).2⟩
    | _ => cases form
  | tuple vs =>
    cases w with
    | tuple ws =>
      rw [write_tuple, write_tuple] at same
      -- The values of a tuple are read in turn, up to the bracket that closes it.
      obtain ⟨values, rest⟩ := writeAll_inj vs ws (List.cons.inj same).2
      exact ⟨congrArg tuple values, rest⟩
    | _ => cases form
  -- A word ends where its letters and digits end, which is at one place in both texts.
  | number | flag | status | directive | availability | absent =>
    obtain ⟨word, rest⟩ := append_inj_of_span (isAlphanum_of_word rfl).2
      (isAlphanum_of_word form.symm).2 delimited.ends delimitedToo.ends same
    exact ⟨word_inj rfl form.symm word, rest⟩

/-- The values of a tuple can be read back up to its closing bracket. -/
theorem writeAll_inj (vs ws : List Value) {cs ds : List Char}
    (same : writeAll vs ++ ')' :: cs = writeAll ws ++ ')' :: ds) : vs = ws ∧ cs = ds := by
  -- One list is not the start of the other, for a value never starts with the closing bracket.
  cases vs with
  | nil =>
    cases ws with
    | nil => exact ⟨rfl, (List.cons.inj same).2⟩
    | cons w ws =>
      rw [writeAll_cons, List.append_assoc] at same
      exact absurd same.symm (write_ne_close w _ _)
  | cons v vs =>
    cases ws with
    | nil =>
      rw [writeAll_cons, List.append_assoc] at same
      exact absurd same (write_ne_close v _ _)
    | cons w ws =>
      rw [writeAll_cons, writeAll_cons, List.append_assoc, List.append_assoc] at same
      obtain ⟨head, others⟩ := write_inj v w (delimited_more vs cs) (delimited_more ws ds) same
      obtain ⟨tail, rest⟩ := more_inj vs ws others
      exact ⟨by rw [head, tail], rest⟩

/-- The further values of a tuple can be read back up to its closing bracket. -/
theorem more_inj (vs ws : List Value) {cs ds : List Char}
    (same : more vs ++ ')' :: cs = more ws ++ ')' :: ds) : vs = ws ∧ cs = ds := by
  -- A comma goes on with the list and a bracket closes it, so both end together.
  cases vs with
  | nil =>
    cases ws with
    | nil => exact ⟨rfl, (List.cons.inj same).2⟩
    | cons w ws => cases (List.cons.inj same).1
  | cons v vs =>
    cases ws with
    | nil => cases (List.cons.inj same).1
    | cons w ws =>
      simp only [more, List.flatMap_cons, List.append_assoc, List.cons_append, List.nil_append,
        List.cons.injEq, true_and] at same
      obtain ⟨head, others⟩ := write_inj v w (delimited_more vs cs) (delimited_more ws ds) same
      obtain ⟨tail, rest⟩ := more_inj vs ws others
      exact ⟨by rw [head, tail], rest⟩

end

end Value

/-- What is written for parts. -/
theorem delimited_parts (parts : List (String × Value)) :
    Delimited (parts.flatMap fun (name, value) => '\x00' :: name.toList ++ '=' :: value.write) := by
  cases parts <;> simp

/-- Parts that have the first names of a list can be read back from the text from which a tag is
made, however many they are. -/
theorem input_inj_of_prefix (kind : String) {names : List String}
    {parts others : List (String × Value)} (named : parts.map Prod.fst <+: names)
    (namedToo : others.map Prod.fst <+: names)
    (same : input kind parts = input kind others) : parts = others := by
  replace same := List.append_cancel_left same
  induction parts generalizing others names with
  | nil =>
    cases others with
    | nil => rfl
    | cons other others => cases same
  | cons part parts ih =>
    obtain ⟨name, value⟩ := part
    cases others with
    | nil => cases same
    | cons other others =>
      obtain ⟨name', value'⟩ := other
      cases names with
      | nil => cases List.prefix_nil.mp named
      | cons first names =>
        -- Both parts stand at the start, so both have the first of the names.
        obtain ⟨own, rest⟩ := List.cons_prefix_cons.mp named
        obtain ⟨ownToo, restToo⟩ := List.cons_prefix_cons.mp namedToo
        have equal : name = name' := own.trans ownToo.symm
        subst equal
        simp only [List.flatMap_cons, List.cons_append, List.append_assoc, List.cons.injEq,
          true_and] at same
        have values := (List.cons.inj (List.append_cancel_left same)).2
        obtain ⟨value, behind⟩ :=
          Value.write_inj value value' (delimited_parts parts) (delimited_parts others) values
        rw [value, ih rest restToo behind]

/-- Parts with the same names can be read back from the text from which a tag is made. -/
theorem input_inj (kind : String) {parts others : List (String × Value)}
    (names : parts.map Prod.fst = others.map Prod.fst)
    (same : input kind parts = input kind others) : parts = others :=
  input_inj_of_prefix kind List.prefix_rfl (names ▸ List.prefix_rfl) same

/-- The bytes of an array from a position on are listed behind those before it. -/
theorem toList_loop (bs : ByteArray) (i : Nat) (done : List UInt8) :
    ByteArray.toList.loop bs i done = done.reverse ++ bs.data.toList.drop i := by
  fun_induction ByteArray.toList.loop bs i done with
  | case1 i done within ih =>
    have inside : i < bs.data.toList.length := by simpa using within
    -- The safe access of the array is the one of its list.
    have here : bs.get! i = bs.data.toList[i] := by
      rw [Array.getElem_toList]
      exact getElem!_pos bs.data i within
    rw [ih, List.drop_eq_getElem_cons inside, here]
    simp
  | case2 i done beyond =>
    rw [List.drop_eq_nil_of_le (Nat.not_lt.mp beyond), List.append_nil]

/-- Different texts have different bytes. -/
theorem bytes_inj {cs ds : List Char} (same : bytes cs = bytes ds) : cs = ds := by
  have listed (bs : ByteArray) : bs.toList = bs.data.toList := toList_loop bs 0 []
  rw [bytes, bytes, listed, listed] at same
  have arrays : (String.ofList cs).toUTF8 = (String.ofList ds).toUTF8 :=
    ByteArray.ext (Array.toList_inj.mp same)
  exact String.ofList_inj.mp (String.toByteArray_inj.mp arrays)

/-- Values are given the first of the names. -/
theorem named_zip (names : List String) (vs : List Value) :
    (names.zip vs).map Prod.fst <+: names := by
  induction names generalizing vs with
  | nil => exact List.prefix_rfl
  | cons name names ih =>
    cases vs with
    | nil => exact List.nil_prefix
    | cons v vs => exact List.cons_prefix_cons.mpr ⟨rfl, ih vs⟩

/-- The bytes from which a tag is made tell the values that are given names of a list, and how many
there are. -/
theorem values_determined (kind : String) (names : List String) {vs ws : List Value}
    (named : vs.length ≤ names.length) (namedToo : ws.length ≤ names.length) :
    bytes (input kind (names.zip vs)) = bytes (input kind (names.zip ws)) ↔ vs = ws := by
  -- The names are given, so the parts are determined by the values alone.
  constructor
  · intro same
    have parts : names.zip vs = names.zip ws :=
      input_inj_of_prefix kind (named_zip names vs) (named_zip names ws) (bytes_inj same)
    rw [← List.map_snd_zip named, parts, List.map_snd_zip namedToo]
  · rintro rfl
    rfl

/-- A text that holds the end of its own part and a second part is not taken for two parts. -/
theorem values_determined_forged :
    let names := ["version", "history_head"]
    let forged : List Value := [.text "1\"\x00history_head=\"2"]
    let honest : List Value := [.text "1", .text "2"]
    (forged.length ≤ names.length ∧ honest.length ≤ names.length) ∧
      bytes (input "deployment" (names.zip forged)) ≠
        bytes (input "deployment" (names.zip honest)) := by
  intro names forged honest
  have few : forged.length ≤ names.length := by decide
  -- Both lists are of the length the names allow, though they differ in it.
  have enough : honest.length ≤ names.length := by decide
  refine ⟨⟨few, enough⟩, fun same => ?_⟩
  have values : forged = honest := (values_determined "deployment" names few enough).mp same
  cases congrArg List.length values

end DeviceUpdate.Validator
