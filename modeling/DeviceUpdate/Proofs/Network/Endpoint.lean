import DeviceUpdate.Network.Endpoint
import DeviceUpdate.Proofs.Text.Digits
import DeviceUpdate.Proofs.Text.Splitting

/-! Addresses with ports are read as they are written, and whatever is read can be written. -/

namespace DeviceUpdate.Network

open Text (Stops stops_cons)

variable {cs rest : List Char} {bytes groups : List Nat} {n room : Nat}

section Bytes

/-- A byte is read from its digits. -/
theorem readByte?_decimal (small : n < 256) (stops : Stops rest) :
    readByte? ((Text.decimal n).toList ++ rest) = some (n, rest) := by
  have digits : ∀ c ∈ (Text.decimal n).toList, Text.isDigit c = true :=
    fun _ => Text.isDigit_of_mem_decimal
  have value := Text.numeralValue_decimal n
  have zero {rest : List Char} : (Text.decimal n).toList = '0' :: rest → rest = [] :=
    Text.decimal_zero_first
  have some : (Text.decimal n).toList ≠ [] := by simpa using Text.decimal_ne_empty n
  -- A number below 256 has at most three digits, which is all that is taken.
  have short : (Text.decimal n).toList.length ≤ 3 := by
    rw [String.length_toList]
    exact (Text.length_decimal_le (by decide)).mpr (by omega)
  generalize (Text.decimal n).toList = ds at digits value zero some short
  unfold readByte?
  rw [Text.spanDigits_append digits stops]
  split
  · rename_i same
    exact (some (Prod.mk.inj same).1).elim
  · rename_i same
    cases zero (Prod.mk.inj same).1
  · rename_i same
    obtain ⟨rfl, rfl⟩ := Prod.mk.inj same
    simp [value, short, small]

/-- What is read as a byte is one, and the text goes on behind its digits. -/
theorem readByte?_some (read : readByte? cs = some (n, rest)) : n < 256 ∧ rest <:+ cs := by
  -- What is read is a run of digits, bounded both in its length and in its value.
  unfold readByte? at read
  split at read
  · cases read
  · cases read
  · rename_i spanned
    dsimp only at read
    split at read
    · rename_i fits
      cases read
      simp only [Bool.and_eq_true, decide_eq_true_eq] at fits
      rw [← (Prod.mk.inj spanned).2]
      exact ⟨fits.2, List.dropWhile_suffix _⟩
    · cases read

/-- What does not start with a digit is no byte. -/
theorem readByte?_stops (stops : Stops cs) : readByte? cs = none := by
  have nothing : Text.spanDigits cs = ([], cs) := by
    have alone := @Text.spanDigits_append [] cs (by simp) stops
    simpa using alone
  rw [readByte?, nothing]

/-- There are no four bytes without points between them. -/
theorem readV4?_of_not_mem (absent : '.' ∉ cs) : readV4? cs = none := by
  unfold readV4?
  cases first : readByte? cs with
  | none => rfl
  | some read =>
    obtain ⟨n, later⟩ := read
    have missing : '.' ∉ later := fun member => absent ((readByte?_some first).2.subset member)
    simp [Text.dropMark?_of_not_mem missing]

theorem toList_dotted (a b c d : Nat) : (dotted [a, b, c, d]).toList =
    (Text.decimal a).toList ++ '.' :: ((Text.decimal b).toList ++ '.' ::
      ((Text.decimal c).toList ++ '.' :: (Text.decimal d).toList)) := by
  simp [dotted, Text.joinWith]

/-- Four bytes are read from their digits with points between them. -/
theorem readV4?_dotted {a b c d : Nat} (small : ∀ n ∈ [a, b, c, d], n < 256)
    (stops : Stops rest) :
    readV4? ((dotted [a, b, c, d]).toList ++ rest) = some ([a, b, c, d], rest) := by
  -- Every number but the last is followed by a point, which ends its digits.
  have point (cs : List Char) : Stops ('.' :: cs) := stops_cons (by decide)
  simp only [List.mem_cons, List.not_mem_nil, or_false, forall_eq_or_imp, forall_eq] at small
  obtain ⟨first, second, third, fourth⟩ := small
  simp [toList_dotted, readV4?, readByte?_decimal first (point _),
    readByte?_decimal second (point _), readByte?_decimal third (point _),
    readByte?_decimal fourth stops]

theorem readV4?_some (read : readV4? cs = some (bytes, rest)) :
    ∃ a b c d, bytes = [a, b, c, d] ∧ ∀ n ∈ bytes, n < 256 := by
  obtain ⟨⟨a, _⟩, first, read⟩ := Option.bind_eq_some_iff.mp read
  obtain ⟨⟨b, _⟩, second, read⟩ := Option.bind_eq_some_iff.mp read
  obtain ⟨⟨c, _⟩, third, read⟩ := Option.bind_eq_some_iff.mp read
  obtain ⟨⟨d, _⟩, fourth, read⟩ := Option.bind_eq_some_iff.mp read
  obtain ⟨_, -, second⟩ := Option.bind_eq_some_iff.mp second
  obtain ⟨_, -, third⟩ := Option.bind_eq_some_iff.mp third
  obtain ⟨_, -, fourth⟩ := Option.bind_eq_some_iff.mp fourth
  cases read
  refine ⟨a, b, c, d, rfl, ?_⟩
  simp [(readByte?_some first).1, (readByte?_some second).1, (readByte?_some third).1,
    (readByte?_some fourth).1]

end Bytes

section Groups

/-- The digits of a group. -/
abbrev hex (group : Nat) : List Char :=
  (Text.hexPadded false 1 group).toList

/-- A group is read from its digits. -/
theorem readGroup?_hex (small : n < 65536)
    (ends : ∀ c ∈ rest.head?, Text.hexValue? c = none) :
    readGroup? (hex n ++ rest) = some (n, rest) := by
  have read := Text.hexNatural?_hexPadded false 1 n
  have digits := Text.isSome_of_hexNatural? read
  -- The run of digits ends where the text goes on with something else.
  have run : (hex n ++ rest).takeWhile (fun c => (Text.hexValue? c).isSome) = hex n :=
    Text.takeWhile_run digits fun c first => by simp [ends c first]
  have short : (hex n).length ≤ 4 := Text.length_hexPadded_le false (by decide) (by decide) small
  simp [readGroup?, run, short, read]

theorem readGroup?_lt (read : readGroup? cs = some (n, rest)) : n < 65536 := by
  unfold readGroup? at read
  -- Four digits of base sixteen are the most that are taken.
  dsimp only at read
  split at read
  · rename_i short
    obtain ⟨m, value, same⟩ := Option.map_eq_some_iff.mp read
    cases same
    calc n < 16 ^ _ := Text.hexNatural?_lt value
      _ ≤ 16 ^ 4 := Nat.pow_le_pow_right (by decide) short
  · cases read

/-- Whatever is read as groups are numbers of 16 bits, and not too many. -/
theorem readGroups_some {first : Bool} {bytes : Bool}
    (read : readGroups first room cs = (groups, bytes, rest)) :
    groups.length ≤ room ∧ ∀ g ∈ groups, g < 65536 := by
  -- One group is taken at a time, and each takes one place of the room.
  induction room generalizing first cs groups bytes rest with
  | zero =>
    cases read
    simp
  | succ room ih =>
    unfold readGroups at read
    dsimp only at read
    split at read
    · rename_i four
      cases read
      -- Four bytes stand only where there is room for two groups.
      have space : room ≠ 0 := fun none => by simp [none] at four
      rw [if_neg space] at four
      obtain ⟨start, -, four⟩ := Option.bind_eq_some_iff.mp four
      obtain ⟨a, b, c, d, same, small⟩ := readV4?_some four
      obtain ⟨rfl, rfl, rfl, rfl⟩ : _ = a ∧ _ = b ∧ _ = c ∧ _ = d := by simpa using same
      simp only [List.mem_cons, List.not_mem_nil, or_false, forall_eq_or_imp, forall_eq] at small
      simp only [List.length_cons, List.length_nil, List.mem_cons, List.not_mem_nil, or_false,
        forall_eq_or_imp, forall_eq]
      omega
    · split at read
      · cases read
        simp
      · rename_i one
        obtain ⟨start, -, one⟩ := Option.bind_eq_some_iff.mp one
        obtain ⟨short, small⟩ := ih (Prod.mk.eta (p := readGroups false room _)).symm
        cases read
        exact ⟨Nat.succ_le_succ short, List.forall_mem_cons.mpr ⟨readGroup?_lt one, small⟩⟩

/-- Where a group would start. -/
abbrev groupStart (first : Bool) (cs : List Char) : Option (List Char) :=
  if first then some cs else Text.dropMark? [':'] cs

/-- Without points ahead no four bytes are read. -/
theorem bytes_none {first : Bool} (pointless : '.' ∉ cs) :
    (groupStart first cs).bind readV4? = none := by
  -- A text without a point holds no four bytes, whether a colon was dropped before them or not.
  refine Option.bind_eq_none_iff.mpr fun start found => readV4?_of_not_mem fun member => ?_
  unfold groupStart at found
  split at found
  · cases found
    exact pointless member
  · unfold Text.dropMark? at found
    split at found
    · cases found
      exact pointless (List.mem_of_mem_drop member)
    · cases found

/-- Groups end where none starts. -/
theorem readGroups_none {first : Bool} (nothing : (groupStart first cs).bind readGroup? = none)
    (byteless : (groupStart first cs).bind readV4? = none) :
    readGroups first room cs = ([], false, cs) := by
  cases room with
  | zero => rfl
  | succ room =>
    unfold readGroups
    dsimp only
    rw [byteless, ite_self, nothing]

/-- A group is read with the groups behind it. -/
theorem readGroups_hex {first : Bool} (start : groupStart first cs = some (hex n ++ rest))
    (small : n < 65536) (ends : ∀ c ∈ rest.head?, Text.hexValue? c = none)
    (byteless : (groupStart first cs).bind readV4? = none) :
    readGroups first (room + 1) cs = (n :: (readGroups false room rest).1,
      (readGroups false room rest).2) := by
  have read : (groupStart first cs).bind readGroup? = some (n, rest) := by
    rw [start, Option.bind_some, readGroup?_hex small ends]
  rw [readGroups]
  dsimp only
  rw [byteless, ite_self, read]

/-- Each group with a colon in front of it. -/
def tailOf (groups : List Nat) : List Char :=
  groups.flatMap fun g => ':' :: hex g

theorem toList_coloned (n : Nat) (groups : List Nat) :
    (coloned (n :: groups)).toList = hex n ++ tailOf groups := by
  induction groups generalizing n with
  | nil => simp [coloned, Text.joinWith, tailOf]
  | cons g groups ih =>
    have others := ih g
    simp only [coloned, Text.joinWith, List.map_cons] at others
    simp [coloned, Text.joinWith, tailOf, others]

/-- No group goes on or follows here, and no bytes are ahead. -/
structure Ends (rest : List Char) : Prop where
  digits : ∀ c ∈ rest.head?, Text.hexValue? c = none
  groups : (Text.dropMark? [':'] rest).bind readGroup? = none
  pointless : '.' ∉ rest

/-- There are no points in the digits of a group. -/
theorem point_not_mem_hex (n : Nat) : '.' ∉ hex n := fun member =>
  absurd (Text.isSome_of_hexNatural? (Text.hexNatural?_hexPadded false 1 n) _ member) (by decide)

theorem point_not_mem_tailOf (groups : List Nat) : '.' ∉ tailOf groups := by
  simp [tailOf, point_not_mem_hex]

theorem point_not_mem_coloned (groups : List Nat) : '.' ∉ (coloned groups).toList := by
  cases groups with
  | nil => simp [coloned, Text.joinWith]
  | cons g groups => simp [toList_coloned, point_not_mem_hex, point_not_mem_tailOf]

/-- The digits of a group end where the next one starts. -/
theorem Ends.head_tailOf (ends : Ends rest) (groups : List Nat) :
    ∀ c ∈ (tailOf groups ++ rest).head?, Text.hexValue? c = none := by
  cases groups with
  | nil => exact ends.digits
  | cons g groups =>
    intro c first
    cases first
    decide

/-- Groups with colons in front of them are read up to their end. -/
theorem readGroups_tailOf (small : ∀ g ∈ groups, g < 65536) (short : groups.length ≤ room)
    (ends : Ends rest) : readGroups false room (tailOf groups ++ rest) = (groups, false, rest) := by
  -- Each group is read behind its colon, as long as there is room for it.
  induction groups generalizing room with
  | nil => exact readGroups_none ends.groups (bytes_none ends.pointless)
  | cons g groups ih =>
    obtain ⟨room, rfl⟩ : ∃ n, room = n + 1 := ⟨room - 1, by simp at short; omega⟩
    have others := ih (fun g member => small g (List.mem_cons_of_mem _ member))
      (Nat.le_of_succ_le_succ short)
    have start : groupStart false (tailOf (g :: groups) ++ rest) =
        some (hex g ++ (tailOf groups ++ rest)) := by simp [groupStart, tailOf]
    have pointless : '.' ∉ tailOf (g :: groups) ++ rest := by
      simp [point_not_mem_tailOf, ends.pointless]
    rw [readGroups_hex start (small g List.mem_cons_self) (ends.head_tailOf groups)
      (bytes_none pointless), others]

/-- Groups with colons between them are read up to their end. -/
theorem readGroups_coloned (small : ∀ g ∈ groups, g < 65536) (short : groups.length ≤ room)
    (ends : Ends rest) :
    readGroups true room ((coloned groups).toList ++ rest) = (groups, false, rest) := by
  cases groups with
  -- Where nothing was written the reader finds no digit, and takes no group.
  | nil =>
    have nothing : rest.takeWhile (fun c => (Text.hexValue? c).isSome) = [] := by
      cases rest with
      | nil => rfl
      | cons c rest => simp [ends.digits c rfl]
    have none : readGroup? rest = none := by
      simp [readGroup?, nothing, Text.hexNatural?]
    exact readGroups_none none (bytes_none ends.pointless)
  -- The first group has no colon before it; those behind it are a tail.
  | cons g groups =>
    obtain ⟨room, rfl⟩ : ∃ n, room = n + 1 := ⟨room - 1, by simp at short; omega⟩
    have others := readGroups_tailOf (fun g member => small g (List.mem_cons_of_mem _ member))
      (Nat.le_of_succ_le_succ short) ends
    have start : groupStart true ((coloned (g :: groups)).toList ++ rest) =
        some (hex g ++ (tailOf groups ++ rest)) := by simp [groupStart, toList_coloned]
    have pointless : '.' ∉ (coloned (g :: groups)).toList ++ rest := by
      simp [point_not_mem_coloned, ends.pointless]
    rw [readGroups_hex start (small g List.mem_cons_self) (ends.head_tailOf groups)
      (bytes_none pointless), others]

end Groups

section Addresses

/-- An address of four bytes, or of eight groups of 16 bits. -/
inductive Address.Fits : Address → Prop where
  | v4 {bytes : List Nat} (four : bytes.length = 4) (small : ∀ n ∈ bytes, n < 256) :
      Fits (.v4 bytes)
  | v6 {groups : List Nat} (eight : groups.length = 8) (small : ∀ g ∈ groups, g < 65536) :
      Fits (.v6 groups)

/-- Whatever is read as groups are eight numbers of 16 bits. -/
theorem readV6?_some (read : readV6? cs = some (groups, rest)) :
    groups.length = 8 ∧ ∀ g ∈ groups, g < 65536 := by
  unfold readV6? at read
  obtain ⟨head, bytes, behind, front⟩ : ∃ a b c, readGroups true 8 cs = (a, b, c) :=
    ⟨_, _, _, rfl⟩
  -- Eight groups in front are the whole address; otherwise a gap of zeros is filled in.
  obtain ⟨short, small⟩ := readGroups_some front
  rw [front] at read
  dsimp only at read
  split at read
  · cases read
    exact ⟨‹_›, small⟩
  · split at read
    · cases read
    · obtain ⟨after, -, read⟩ := Option.bind_eq_some_iff.mp read
      obtain ⟨tail, more, final, back⟩ :
          ∃ a b c, readGroups true (7 - head.length) after = (a, b, c) := ⟨_, _, _, rfl⟩
      obtain ⟨fits, others⟩ := readGroups_some back
      rw [back] at read
      cases read
      -- The zeros make up exactly what the two parts lack.
      refine ⟨by simp only [List.length_append, List.length_replicate]; omega, fun g member => ?_⟩
      simp only [List.mem_append, List.mem_replicate] at member
      rcases member with (member | ⟨-, rfl⟩) | member
      · exact small g member
      · decide
      · exact others g member

/-- A run of zeros is as long as the zeros at the start of a list. -/
theorem take_leadingZeros (groups : List Nat) :
    groups.take (leadingZeros groups) = List.replicate (leadingZeros groups) 0 := by
  -- The leading zeros are counted from the front, so the count follows the list.
  induction groups with
  | nil => rfl
  | cons g groups ih =>
    by_cases zero : g = 0
    · subst zero
      simpa [leadingZeros, List.replicate_succ] using ih
    · simp [leadingZeros, zero]

/-- A run of zeros that lies within a list, by its start and its length. -/
structure ZeroRun (groups : List Nat) (run : Nat × Nat) : Prop where
  within : run.1 + run.2 ≤ groups.length
  zeros : (groups.drop run.1).take run.2 = List.replicate run.2 0

/-- The longest run of zeros is one. -/
theorem zeroRun_longestZeros (groups : List Nat) : ZeroRun groups (longestZeros groups) := by
  -- The search keeps the best run found so far, and a run of zeros stays one.
  have search (starts : List Nat) (best : Nat × Nat) (within : ∀ s ∈ starts, s ≤ groups.length)
      (run : ZeroRun groups best) :
      ZeroRun groups (starts.foldl (fun best start =>
        let length := leadingZeros (groups.drop start)
        if best.2 < length then (start, length) else best) best) := by
    induction starts generalizing best with
    | nil => exact run
    | cons start starts ih =>
      refine ih _ (fun s member => within s (List.mem_cons_of_mem _ member)) ?_
      dsimp only
      split
      · have here := within start List.mem_cons_self
        have bound : leadingZeros (groups.drop start) ≤ (groups.drop start).length :=
          (List.takeWhile_sublist _).length_le
        rw [List.length_drop] at bound
        exact ⟨by omega, take_leadingZeros _⟩
      · exact run
  exact search _ (0, 0) (fun s member => (List.mem_range.mp member).le) ⟨by simp, by simp⟩

/-- Zeros take the place of two colons between groups. -/
theorem readV6?_gap {head tail : List Nat} {bytes : Bool} {ahead : List Char}
    (front : readGroups true 8 cs = (head, false, ':' :: ':' :: ahead)) (short : head.length ≠ 8)
    (back : readGroups true (7 - head.length) ahead = (tail, bytes, rest)) :
    readV6? cs =
      some (head ++ List.replicate (8 - head.length - tail.length) 0 ++ tail, rest) := by
  have colons : Text.dropMark? [':', ':'] (':' :: ':' :: ahead) = some ahead := by
    simp [Text.dropMark?]
  rw [readV6?, front]
  dsimp only
  rw [if_neg short, if_neg Bool.false_ne_true, colons, Option.bind_eq_bind, Option.bind_some, back]
  rfl

/-- Two colons end the groups in front of them. -/
theorem ends_colons (pointless : '.' ∉ cs) : Ends (':' :: ':' :: cs) where
  digits c first := by
    cases first
    decide
  groups := rfl
  pointless := by simp [pointless]

/-- Four bytes are read behind zeros and a group of ones. -/
theorem readV6?_mapped {a b : Nat} (first : a < 65536) (second : b < 65536) (stops : Stops rest) :
    readV6? ("::ffff:".toList ++ (dotted [a / 256, a % 256, b / 256, b % 256]).toList ++ rest) =
      some ([0, 0, 0, 0, 0, 0xFFFF, a, b], rest) := by
  have small : ∀ n ∈ [a / 256, a % 256, b / 256, b % 256], n < 256 := by
    simp
    omega
  have bytes := readV4?_dotted small stops
  rw [List.append_assoc]
  generalize (dotted [a / 256, a % 256, b / 256, b % 256]).toList ++ rest = ahead at bytes
  let ones := 'f' :: 'f' :: 'f' :: 'f' :: ':' :: ahead
  -- No digit stands at the start, so the bytes are not read yet.
  have byteless {cs : List Char} (other : Stops cs) : readV4? cs = none := by
    rw [readV4?, readByte?_stops other]
    rfl
  -- Before the gap there is no group at all.
  have front : readGroups true 8 (':' :: ':' :: ones) = ([], false, ':' :: ':' :: ones) :=
    readGroups_none rfl (byteless (stops_cons (by decide)))
  have last : readGroups false 6 (':' :: ahead) = ([a, b], true, rest) := by
    have high (n : Nat) : n / 256 * 256 + n % 256 = n := by omega
    simp [readGroups, bytes, high]
  have group : groupStart true ones = some (hex 0xFFFF ++ ':' :: ahead) := rfl
  have letter : readV4? ones = none := byteless (stops_cons (by decide))
  -- Behind the gap the group of ones is read, and then the bytes as two groups.
  have back : readGroups true 7 ones = ([0xFFFF, a, b], true, rest) := by
    rw [readGroups_hex group (by decide) (by simp; decide) letter, last]
  exact readV6?_gap front (by decide) back

/-- Groups are read where two colons stand for a run of zeros. -/
theorem readV6?_shortened {run : Nat × Nat} (zeroRun : ZeroRun groups run) (long : 2 ≤ run.2)
    (eight : groups.length = 8) (small : ∀ g ∈ groups, g < 65536) (ends : Ends rest) :
    readV6? ((coloned (groups.take run.1)).toList ++
      ':' :: ':' :: ((coloned (groups.drop (run.1 + run.2))).toList ++ rest)) =
      some (groups, rest) := by
  have within := zeroRun.within
  have taken : (groups.take run.1).length = run.1 := by
    rw [List.length_take]
    omega
  -- What is written behind the gap is the rest of the groups, without any point.
  let ahead := (coloned (groups.drop (run.1 + run.2))).toList ++ rest
  have pointless : '.' ∉ ahead := by simp [ahead, point_not_mem_coloned, ends.pointless]
  have front : readGroups true 8 ((coloned (groups.take run.1)).toList ++ ':' :: ':' :: ahead) =
      (groups.take run.1, false, ':' :: ':' :: ahead) :=
    readGroups_coloned (fun g member => small g (List.mem_of_mem_take member)) (by omega)
      (ends_colons pointless)
  have back : readGroups true (7 - (groups.take run.1).length) ahead =
      (groups.drop (run.1 + run.2), false, rest) :=
    readGroups_coloned (fun g member => small g (List.mem_of_mem_drop member))
      (by rw [List.length_drop]; omega) ends
  -- As many zeros are filled in as the run has that was left out.
  have between : 8 - run.1 - (8 - (run.1 + run.2)) = run.2 := by omega
  rw [readV6?_gap front (by omega) back, taken, List.length_drop, eight, between, ← zeroRun.zeros,
    List.append_assoc, ← List.drop_drop, List.take_append_drop, List.take_append_drop]

/-- Eight groups are read as they are written, in front of what neither goes on nor has points. -/
theorem readV6?_write (eight : groups.length = 8) (small : ∀ g ∈ groups, g < 65536)
    (ends : Ends rest) (stops : Stops rest) :
    readV6? ((Address.v6 groups).write.toList ++ rest) = some (groups, rest) := by
  unfold Address.write
  -- Mapped addresses end in four bytes, all others are written in groups of base sixteen.
  split
  · rename_i same
    cases same
  · rename_i a b same
    cases same
    rw [String.toList_append]
    exact readV6?_mapped (small a (by simp)) (small b (by simp)) stops
  · rename_i same
    cases same
    dsimp only
    split
    -- No run of zeros is worth leaving out, so all eight groups stand there.
    · have whole := readGroups_coloned small eight.le ends
      simp [readV6?, whole, eight]
    -- The longest run of zeros is left out and the reader fills it in again.
    · rename_i long
      have read := readV6?_shortened (zeroRun_longestZeros groups) (by omega) eight small ends
      simpa using read

end Addresses

section Endpoints

/-- An address with a port of 16 bits, and for eight groups the number of a scope. -/
structure Endpoint.Fits (e : Endpoint) : Prop where
  address : e.address.Fits
  scope : e.scope < Nat.pow 2 32
  unscoped : ∀ bytes, e.address = .v4 bytes → e.scope = 0
  port : e.port < 65536

theorem readPort?_lt {port : Nat} (read : readPort? cs = some port) : port < 65536 := by
  obtain ⟨digits, -, number⟩ := Option.bind_eq_some_iff.mp read
  simpa using (Option.filter_eq_some_iff.mp number).2

theorem readPort?_decimal {port : Nat} (fits : port < 65536) :
    readPort? (':' :: (Text.decimal port).toList) = some port := by
  simp [readPort?, Text.natural?_decimal, fits]

theorem readScope_lt (cs : List Char) : (readScope cs).1 < Nat.pow 2 32 := by
  have positive : 0 < Nat.pow 2 32 := by decide
  -- A scope that does not fit its 32 bits is read as none.
  unfold readScope
  split
  · dsimp only
    split
    · rename_i number
      exact of_decide_eq_true (Option.filter_eq_some_iff.mp number).2
    · exact positive
  · exact positive

/-- The number of a scope behind a percent sign, and nothing for none. -/
def scopeText (scope : Nat) : List Char :=
  if scope = 0 then [] else '%' :: (Text.decimal scope).toList

theorem readScope_scopeText {scope : Nat} (fits : scope < Nat.pow 2 32) (cs : List Char) :
    readScope (scopeText scope ++ ']' :: cs) = (scope, ']' :: cs) := by
  -- The scope zero is not written at all.
  unfold scopeText
  split
  · rename_i none
    subst none
    rfl
  · have digits : ∀ c ∈ (Text.decimal scope).toList, Text.isDigit c = true :=
      fun _ => Text.isDigit_of_mem_decimal
    have stops : Stops (']' :: cs) := stops_cons (by decide)
    have number : (Text.natural? (Text.decimal scope).toList).filter (· < Nat.pow 2 32) =
        some scope := by
      rw [Text.natural?_decimal]
      exact Option.filter_some_pos (decide_eq_true fits)
    rw [List.cons_append, readScope]
    dsimp only
    rw [Text.spanDigits_append digits stops]
    dsimp only
    rw [number]

/-- Whatever is read as an endpoint fits. -/
theorem Endpoint.fits_of_read {text : String} {e : Endpoint} (read : Endpoint.read? text = some e) :
    e.Fits := by
  unfold Endpoint.read? at read
  split at read
  · obtain ⟨⟨groups, _⟩, address, read⟩ := Option.bind_eq_some_iff.mp read
    obtain ⟨port, number, same⟩ := Option.bind_eq_some_iff.mp read
    obtain ⟨_, -, number⟩ := Option.bind_eq_some_iff.mp number
    cases same
    obtain ⟨eight, small⟩ := readV6?_some address
    exact ⟨.v6 eight small, readScope_lt _, fun bytes => by simp, readPort?_lt number⟩
  · obtain ⟨⟨bytes, _⟩, address, read⟩ := Option.bind_eq_some_iff.mp read
    obtain ⟨port, number, same⟩ := Option.bind_eq_some_iff.mp read
    cases same
    obtain ⟨a, b, c, d, rfl, small⟩ := readV4?_some address
    exact ⟨.v4 rfl small, Nat.pow_pos (by decide), fun bytes _ => rfl, readPort?_lt number⟩

/-- What stands in front of a port is a scope or nothing, and ends all groups. -/
theorem ends_scopeText (scope port : Nat) :
    Ends (scopeText scope ++ ']' :: ':' :: (Text.decimal port).toList) ∧
      Stops (scopeText scope ++ ']' :: ':' :: (Text.decimal port).toList) := by
  have unpointed (n : Nat) : '.' ∉ (Text.decimal n).toList := fun member =>
    absurd (Text.isDigit_of_mem_decimal member) (by decide)
  unfold scopeText
  split
  · exact ⟨⟨by simp; decide, rfl, by simp [unpointed]⟩, stops_cons (by decide)⟩
  · exact ⟨⟨by simp; decide, rfl, by simp [unpointed]⟩, stops_cons (by decide)⟩

/-- An endpoint is read as it is written. -/
theorem Endpoint.read?_write {e : Endpoint} (fits : e.Fits) : Endpoint.read? e.write = some e := by
  obtain ⟨address, scope, port⟩ := e
  have last : readPort? (':' :: (Text.decimal port).toList) = some port :=
    readPort?_decimal fits.port
  cases fits.address with
  | @v4 bytes four small =>
    -- The scope is written for addresses of the sixth version alone.
    obtain rfl : scope = 0 := fits.unscoped bytes rfl
    match bytes, four with
    | [a, b, c, d], _ =>
      let ahead := ':' :: (Text.decimal port).toList
      have read : readV4? ((dotted [a, b, c, d]).toList ++ ahead) = some ([a, b, c, d], ahead) :=
        readV4?_dotted small (stops_cons (by decide))
      have written : (Endpoint.write ⟨.v4 [a, b, c, d], 0, port⟩).toList =
          (dotted [a, b, c, d]).toList ++ ahead := by simp [Endpoint.write, Address.write, ahead]
      -- The first digit is no bracket.
      obtain ⟨c, digits, opens⟩ := List.exists_cons_of_ne_nil (l := (Text.decimal a).toList)
        (by simpa using Text.decimal_ne_empty a)
      have digit : Text.isDigit c = true := Text.isDigit_of_mem_decimal (n := a) (by simp [opens])
      unfold Endpoint.read?
      split
      · rename_i bracket
        rw [written, toList_dotted, opens] at bracket
        rw [(List.cons.inj bracket).1] at digit
        exact absurd digit (by decide)
      · simp [written, read, ahead, last]
  | @v6 groups eight small =>
    -- Behind the groups follow the scope, if there is one, the bracket and the port.
    let ahead := scopeText scope ++ ']' :: ':' :: (Text.decimal port).toList
    obtain ⟨ends, stops⟩ := ends_scopeText scope port
    have read : readV6? ((Address.v6 groups).write.toList ++ ahead) = some (groups, ahead) :=
      readV6?_write eight small ends stops
    have number : readScope ahead = (scope, ']' :: ':' :: (Text.decimal port).toList) :=
      readScope_scopeText fits.scope _
    have written : (Endpoint.write ⟨.v6 groups, scope, port⟩).toList =
        '[' :: ((Address.v6 groups).write.toList ++ ahead) := by
      by_cases none : scope = 0 <;> simp [Endpoint.write, ahead, scopeText, none]
    simp [Endpoint.read?, written, read, number, last]

end Endpoints

end DeviceUpdate.Network
