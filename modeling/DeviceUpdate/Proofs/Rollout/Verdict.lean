import DeviceUpdate.Proofs.Rollout.Condition
import DeviceUpdate.Proofs.Rollout.Membership
import DeviceUpdate.Proofs.Rollout.Tally
import DeviceUpdate.Proofs.Text.Digits
import DeviceUpdate.Proofs.Text.Splitting

/-! What the members of a running group decide: whether it fails, whether it succeeds, or neither. -/

namespace DeviceUpdate

namespace Store

variable {s : Store} {tenant : String} {set : Nat}

/-- Each member has one place among the deployments that cover them. -/
theorem length_coverMembers (members : List String) (own : List Action) :
    (s.coverMembers tenant set members own).length = members.length := by
  -- Deployments of the group are used up as members are covered, so they vary.
  induction members generalizing own with
  | nil => rfl
  | cons name rest ih =>
    rw [coverMembers]
    split
    · rw [List.length_cons, List.length_cons, ih]
    · rw [List.length_cons, List.length_cons, ih]

/-- A member of a group of a rollout, with the deployment that covers it. -/
def CoveredBy (s : Store) (r : Rollout) (g : RolloutGroup) (name : String) (a : Action) : Prop :=
  (name, some a) ∈
    (s.membersOf g.id).zip (s.memberActions r.tenant g.id r.distributionSet)

/-- Whatever covers a member stands in the place of one. -/
theorem exists_covered {r : Rollout} {g : RolloutGroup} {a : Action} :
    (∃ name, s.CoveredBy r g name a) ↔
      some a ∈ s.memberActions r.tenant g.id r.distributionSet := by
  -- As there are as many covers as members, each cover stands beside a member.
  have places : ((s.membersOf g.id).zip (s.memberActions r.tenant g.id r.distributionSet)).map
      (·.2) = s.memberActions r.tenant g.id r.distributionSet :=
    List.map_snd_zip (Nat.le_of_eq (length_coverMembers _ _))
  rw [← places, List.mem_map]
  constructor
  · rintro ⟨name, member⟩
    exact ⟨_, member, rfl⟩
  · rintro ⟨⟨name, cover⟩, member, rfl⟩
    exact ⟨name, member⟩

end Store

namespace Rollouts

/-- How many members of a group are covered by a deployment with a status. -/
def standing (s : Store) (r : Rollout) (g : RolloutGroup) (status : Status) : Nat :=
  (coverage s r g).count (some status)

/-- A part of a whole is at least the share that a condition asks for. -/
def Meets (c : Threshold) (part whole : Nat) : Prop :=
  ∃ percent, percentage c = .ok percent ∧ percent * whole ≤ 100 * part

/-- Enough members of a group have failed, and at least one. -/
def Failing (s : Store) (r : Rollout) (g : RolloutGroup) : Prop :=
  0 < standing s r g .error ∧
    ∃ c, g.failure = some c ∧ Meets c (standing s r g .error) g.totalTargets

/-- Enough members of a group have finished. -/
def Succeeding (s : Store) (r : Rollout) (g : RolloutGroup) : Prop :=
  Meets g.success (standing s r g .finished) g.totalTargets

/-- A member of a group is covered by a deployment that is still on its way. -/
def Pending (s : Store) (r : Rollout) (g : RolloutGroup) : Prop :=
  ∃ name a, s.CoveredBy r g name a ∧
    a.status ≠ .finished ∧ a.status ≠ .error ∧ a.status ≠ .canceled

variable {s : Store} {r : Rollout} {g : RolloutGroup} {c : Threshold} {percent part whole : Nat}

theorem percentage_le (read : percentage c = .ok percent) : percent ≤ 100 := by
  -- What is not a number is refused, and so is what is above one hundred.
  unfold percentage at read
  dsimp only at read
  split at read
  · cases read
  · split at read
    · cases read
    · rw [← Except.ok.inj read]
      omega

/-- Where part and whole have 32 bits, the products of a comparison do not leave the 64 bits. -/
theorem products_lt (few : part < 2 ^ 32) (narrow : whole < 2 ^ 32) (share : percent ≤ 100) :
    part * 100 < countLimit ∧ percent * whole < countLimit := by
  have asked : percent * whole ≤ 100 * whole := Nat.mul_le_mul_right whole share
  have limit : countLimit = 2 ^ 64 := rfl
  constructor <;> omega

/-- Where part and whole have 32 bits, nothing wraps around in a comparison. -/
theorem ratioReached_iff (few : part < 2 ^ 32) (narrow : whole < 2 ^ 32)
    (share : percent ≤ 100) :
    ratioReached part whole percent = true ↔ percent * whole ≤ 100 * part := by
  obtain ⟨counted, asked⟩ := products_lt few narrow share
  rw [ratioReached, decide_eq_true_eq, Nat.mod_eq_of_lt asked, Nat.mod_eq_of_lt counted,
    Nat.mul_comm part]

/-- Where a condition is read, it is met exactly if the ratio that it asks for is reached. -/
theorem meets_iff (read : percentage c = .ok percent) (within : part ≤ whole)
    (narrow : whole < 2 ^ 32) :
    ratioReached part whole percent = true ↔ Meets c part whole := by
  -- Within 32 bits no product leaves 64 bits, so the comparison is that of the ratio.
  rw [ratioReached_iff (Nat.lt_of_le_of_lt within narrow) narrow (percentage_le read), Meets, read]
  constructor
  · exact fun enough => ⟨percent, rfl, enough⟩
  · rintro ⟨_, same, enough⟩
    rw [Except.ok.inj same]
    exact enough

/-- A state that is entered with one status only is counted as often as the status occurs. -/
theorem Tally.count_ofMembers {total : Nat} {members : List (Option Status)} {state : MemberState}
    {status : Status} (alone : ∀ other, MemberState.ofStatus other = state ↔ other = status)
    (covered : state ≠ .notStarted) :
    (Tally.ofMembers total members).count state = members.count (some status) := by
  -- Members without a deployment are passed over, and all others count by their status.
  have counted : ((members.filterMap id).map MemberState.ofStatus).count state =
      members.count (some status) := by
    induction members with
    | nil => rfl
    | cons member rest ih =>
      cases member with
      | none => simpa using ih
      | some other =>
        have same : (MemberState.ofStatus other == state) = (some other == some status) := by
          rw [Bool.eq_iff_iff, beq_iff_eq, beq_iff_eq, alone, Option.some_inj]
        rw [List.filterMap_cons_some (f := id) rfl, List.map_cons, List.count_cons, List.count_cons, ih, same]
  simp only [count, ofMembers, covered, ↓reduceIte, getD_entryOf, counted]

/-- A tally is complete exactly if no member is still on its way. -/
theorem Tally.isComplete_iff {total : Nat} {members : List (Option Status)} :
    (Tally.ofMembers total members).isComplete = true ↔
      ∀ status, some status ∈ members →
        status = .finished ∨ status = .error ∨ status = .canceled := by
  -- A state that is not counted is that of no member.
  have none (state : MemberState) (covered : state ≠ .notStarted) :
      (Tally.ofMembers total members).count state = 0 ↔
        ∀ status, some status ∈ members → MemberState.ofStatus status ≠ state := by
    simp only [count, ofMembers, covered, ↓reduceIte, getD_entryOf, List.count_eq_zero,
      List.mem_map, List.mem_filterMap, id_eq, exists_eq_right, not_exists, not_and]
  rw [isComplete, Bool.and_eq_true, beq_iff_eq, beq_iff_eq, none _ (by decide),
    none _ (by decide)]
  constructor
  -- Whatever is neither scheduled nor running has ended in one of three ways.
  · rintro ⟨unscheduled, idle⟩ status member
    have first := unscheduled status member
    have second := idle status member
    cases status <;> simp_all [MemberState.ofStatus]
  · intro ended
    constructor <;> intro status member <;>
      rcases ended status member with rfl | rfl | rfl <;> decide

/-- The tally of a group is complete exactly if none of its members is on its way. -/
theorem complete_iff {total : Nat} :
    (Tally.ofMembers total (coverage s r g)).isComplete = true ↔ ¬ Pending s r g := by
  -- Whatever is complete has no deployment that still goes on.
  rw [Tally.isComplete_iff]
  constructor
  · rintro ended ⟨name, a, covered, unfinished, sound, kept⟩
    have member := Store.exists_covered.mp ⟨name, covered⟩
    rcases ended a.status (List.mem_map_of_mem member) with finished | error | canceled
    · exact unfinished finished
    · exact sound error
    · exact kept canceled
  · intro none status member
    obtain ⟨cover, covers, same⟩ := List.mem_map.mp member
    obtain ⟨a, rfl, rfl⟩ := Option.map_eq_some_iff.mp same
    obtain ⟨name, covered⟩ := Store.exists_covered.mpr covers
    by_contra others
    simp only [not_or] at others
    exact none ⟨name, a, covered, others⟩

/-- Each member of a group has its place in the coverage. -/
theorem length_coverage (peopled : Peopled s) (stored : s.groups.get? g.id = some g) :
    (coverage s r g).length = g.totalTargets := by
  rw [coverage, List.length_map, Store.memberActions, Store.length_coverMembers,
    peopled.length_membersOf stored]

/-- No more members stand at a status than the group has. -/
theorem standing_le (peopled : Peopled s) (stored : s.groups.get? g.id = some g)
    (status : Status) : standing s r g status ≤ g.totalTargets :=
  List.count_le_length.trans (Nat.le_of_eq (length_coverage peopled stored))

section Conditions

variable (peopled : Peopled s) (stored : s.groups.get? g.id = some g) (legible : LegibleGroup g)
  (narrow : g.totalTargets < 2 ^ 32)

include peopled stored legible narrow

/-- The error condition of a group is decided, and reached exactly if the group is failing. -/
theorem hasFailed_decides : ∃ failed : Bool,
    hasFailed g (.ofMembers g.totalTargets (coverage s r g)) = .ok failed ∧
      (failed = true ↔ Failing s r g) := by
  cases given : g.failure with
  -- A group without an error condition does not fail by one.
  | none => exact ⟨false, by simp [hasFailed, given], by simp [Failing, given]⟩
  -- The number of errors is read off the tally, and the condition is its share of the total.
  | some c =>
    obtain ⟨percent, read⟩ := legible.failure given
    have counted : (Tally.ofMembers g.totalTargets (coverage s r g)).count .error =
        standing s r g .error :=
      Tally.count_ofMembers (fun other => by cases other <;> decide) (by decide)
    have total : (Tally.ofMembers g.totalTargets (coverage s r g)).total = g.totalTargets := rfl
    have enough := meets_iff read (standing_le (r := r) peopled stored .error) narrow
    refine ⟨_, by simp only [hasFailed, given, errorReached, read, counted, total]; rfl, ?_⟩
    rw [Bool.and_eq_true, decide_eq_true_eq, enough, Failing, given]
    simp

/-- The success condition of a group is decided, and reached exactly if the group succeeds. -/
theorem successReached_decides : ∃ succeeded : Bool,
    successReached g.success (.ofMembers g.totalTargets (coverage s r g)) = .ok succeeded ∧
      (succeeded = true ↔ Succeeding s r g) := by
  -- The number of successes is read off the tally.
  obtain ⟨percent, read⟩ := legible.success
  have counted : (Tally.ofMembers g.totalTargets (coverage s r g)).count .finished =
      standing s r g .finished :=
    Tally.count_ofMembers (fun other => by cases other <;> decide) (by decide)
  have total : (Tally.ofMembers g.totalTargets (coverage s r g)).total = g.totalTargets := rfl
  refine ⟨_, by simp only [successReached, read, counted, total]; rfl, ?_⟩
  exact meets_iff read (standing_le peopled stored .finished) narrow

end Conditions

end Rollouts

end DeviceUpdate

/-! Thresholds: which texts are percentages, and that the shares they ask for are computed exactly. -/

namespace DeviceUpdate.Rollouts

open Text (Blank Trimmed Worth trim)

/-- A text that says a percentage: digits, perhaps with a plus sign in front and a percent sign
behind them, and blanks around the two. -/
inductive SaysPercentage (p : Nat) (cs : List Char) : Prop
  | written (before sign digits between mark behind : List Char)
      (text : cs = before ++ (sign ++ digits ++ between ++ mark) ++ behind)
      (blank : Blank before ∧ Blank between ∧ Blank behind)
      (signs : sign = [] ∨ sign = ['+']) (worth : Worth p digits)
      (marks : mark = [] ∨ mark = ['%'])

/-- A text without the percent sign at its end. -/
def withoutMark (cs : List Char) : List Char :=
  if cs.getLast? = some '%' then cs.dropLast else cs

section Reading

variable {c : Threshold} {p : Nat} {cs sign digits : List Char}

/-- At most one percent sign is taken from the end of a text. -/
theorem exists_withoutMark (cs : List Char) :
    ∃ mark, (mark = [] ∨ mark = ['%']) ∧ cs = withoutMark cs ++ mark := by
  unfold withoutMark
  split
  · rename_i last
    exact ⟨['%'], .inr rfl, (List.dropLast_append_getLast? _ last).symm⟩
  · exact ⟨[], .inl rfl, (List.append_nil cs).symm⟩

/-- Digits with a sign in front have no blanks at their ends. -/
theorem trimmed_numeral (signs : sign = [] ∨ sign = ['+']) (worth : Worth p digits) :
    Trimmed (sign ++ digits) := by
  -- Neither the sign nor the digits are blanks.
  have solid (c : Char) (member : c ∈ sign ++ digits) : Text.isBlank c = false := by
    rcases List.mem_append.mp member with member | member
    · rcases signs with rfl | rfl
      · cases member
      · rw [List.mem_singleton.mp member]
        rfl
    · exact Text.isBlank_of_isDigit (worth.digits c member)
  exact ⟨fun c first => solid c (List.mem_of_mem_head? first),
    fun c last => solid c (List.mem_of_getLast? last)⟩

/-- What is left of a text that says a percentage is its digits with their sign. -/
theorem trim_withoutMark_trim (signs : sign = [] ∨ sign = ['+']) (worth : Worth p digits)
    {before between mark behind : List Char} (marks : mark = [] ∨ mark = ['%'])
    (blank : Blank before ∧ Blank between ∧ Blank behind) :
    trim (withoutMark (trim (before ++ (sign ++ digits ++ between ++ mark) ++ behind))) =
      sign ++ digits := by
  have trimmed : Trimmed (sign ++ digits) := trimmed_numeral signs worth
  obtain ⟨outer, inner, last⟩ := blank
  rcases marks with rfl | rfl
  -- Without a percent sign the blanks behind the digits go at once.
  · have ending : Blank (between ++ behind) := List.forall_mem_append.mpr ⟨inner, last⟩
    have plain : (sign ++ digits).getLast? ≠ some '%' := by
      rw [List.getLast?_append_of_ne_nil _ worth.some]
      intro percent
      cases worth.digits '%' (List.mem_of_getLast? percent)
    rw [List.append_nil, ← List.append_assoc before, List.append_assoc _ between,
      Text.trim_append outer trimmed ending, withoutMark, if_neg plain,
      Text.trim_of_trimmed trimmed]
  -- The percent sign ends the text, and behind it there is nothing but blanks.
  · have marked : Trimmed (sign ++ digits ++ between ++ ['%']) := by
      constructor
      · intro c first
        rw [List.append_assoc, List.head?_append_of_ne_nil _ (by simp [worth.some])] at first
        exact trimmed.start c first
      · intro c ends
        rw [List.getLast?_concat, Option.mem_some_iff] at ends
        rw [← ends]
        rfl
    rw [Text.trim_append outer marked last, withoutMark, List.getLast?_concat, if_pos rfl,
      List.dropLast_concat]
    have inside : trim ([] ++ (sign ++ digits) ++ between) = sign ++ digits :=
      Text.trim_append (by simp [Blank]) trimmed inner
    exact inside

/-- A condition is read exactly if it says a percentage, and one of at most a hundred. -/
theorem percentage_eq_ok :
    percentage c = .ok p ↔ SaysPercentage p c.expression.toList ∧ p ≤ 100 := by
  have limit : Nat.pow 2 64 = 2 ^ 64 := rfl
  have read : percentage c = .ok p ↔
      Text.unsigned? (2 ^ 64) (trim (withoutMark (trim c.expression.toList))) = some p ∧
        p ≤ 100 := by
    simp only [percentage, limit, withoutMark]
    cases Text.unsigned? (2 ^ 64) _ with
    | none => simp
    | some percent =>
      by_cases above : 100 < percent
      · simp only [if_pos above, reduceCtorEq, Option.some_inj, false_iff]
        omega
      · simp only [if_neg above, Except.ok.injEq, Option.some_inj]
        omega
  rw [read, Text.unsigned?_eq_some]
  constructor
  · rintro ⟨⟨-, sign, digits, signs, numeral, worth⟩, within⟩
    -- The text is put together again from what was taken away at each step.
    obtain ⟨before, behind, first, last, text⟩ := Text.exists_trim c.expression.toList
    obtain ⟨mark, marks, body⟩ := exists_withoutMark (trim c.expression.toList)
    obtain ⟨front, between, inner, ending, stem⟩ :=
      Text.exists_trim (withoutMark (trim c.expression.toList))
    rw [stem, numeral] at body
    rw [body] at text
    refine ⟨.written (before ++ front) sign digits between mark behind ?_ ⟨?_, ending, last⟩ signs
      worth marks, within⟩
    · simpa only [List.append_assoc] using text
    · exact List.forall_mem_append.mpr ⟨first, inner⟩
  -- Reading takes away the blanks and the percent sign, and leaves sign and digits.
  · rintro ⟨⟨before, sign, digits, between, mark, behind, text, blank, signs, worth, marks⟩, within⟩
    rw [text, trim_withoutMark_trim signs worth marks blank]
    exact ⟨⟨by omega, sign, digits, signs, rfl, worth⟩, within⟩

end Reading

section Reaching

variable {c c' : Threshold} {p p' : Nat} {t t' : Tally}

/-- The success condition compares whole numbers. -/
theorem successReached_eq (read : percentage c = .ok p) (few : t.count .finished < 2 ^ 32)
    (narrow : t.total < 2 ^ 32) :
    successReached c t = .ok (decide (p * t.total ≤ 100 * t.count .finished)) := by
  have exact := ratioReached_iff few narrow (percentage_le read)
  have reached : successReached c t = .ok (ratioReached (t.count .finished) t.total p) := by
    simp only [successReached, read]
    rfl
  rw [reached, Bool.eq_iff_iff.mpr (exact.trans decide_eq_true_iff.symm)]

/-- The error condition compares whole numbers, and asks for an error besides. -/
theorem errorReached_eq (read : percentage c = .ok p) (few : t.count .error < 2 ^ 32)
    (narrow : t.total < 2 ^ 32) :
    errorReached c t =
      .ok (decide (0 < t.count .error ∧ p * t.total ≤ 100 * t.count .error)) := by
  -- The products fit, so the ratio is compared exactly.
  have exact := ratioReached_iff few narrow (percentage_le read)
  have reached : errorReached c t =
      .ok (0 < t.count .error && ratioReached (t.count .error) t.total p) := by
    simp only [errorReached, read]
    rfl
  rw [reached, Bool.decide_and, Bool.eq_iff_iff.mpr (exact.trans decide_eq_true_iff.symm)]

/-- A share that is reached is reached by a larger part, and by a part that is to be smaller. -/
theorem share_mono {total part part' : Nat} (less : p' ≤ p) (more : part ≤ part')
    (reached : p * total ≤ 100 * part) : p' * total ≤ 100 * part' := by
  calc
    p' * total ≤ p * total := Nat.mul_le_mul_right total less
    _ ≤ 100 * part := reached
    _ ≤ 100 * part' := Nat.mul_le_mul_left 100 more

/-- A condition is read and decided exactly, for all groups whose numbers have 32 bits. -/
structure Exact (c : Threshold) : Prop where
  /-- The texts that are accepted are percentages, and no others are. -/
  reads : ∀ p, percentage c = .ok p ↔ SaysPercentage p c.expression.toList ∧ p ≤ 100
  /-- No product that is compared leaves the 64 bits in which it is computed. -/
  fits : ∀ {p part total : Nat}, percentage c = .ok p → part < 2 ^ 32 → total < 2 ^ 32 →
    part * 100 < countLimit ∧ p * total < countLimit
  success : ∀ {p : Nat} {t : Tally}, percentage c = .ok p → t.count .finished < 2 ^ 32 →
    t.total < 2 ^ 32 →
    successReached c t = .ok (decide (p * t.total ≤ 100 * t.count .finished))
  error : ∀ {p : Nat} {t : Tally}, percentage c = .ok p → t.count .error < 2 ^ 32 →
    t.total < 2 ^ 32 →
    errorReached c t = .ok (decide (0 < t.count .error ∧ p * t.total ≤ 100 * t.count .error))
  /-- Success stays reached with more members that have finished, and with a smaller percentage. -/
  keepsSuccess : ∀ {c' : Threshold} {p p' : Nat} {t t' : Tally}, percentage c = .ok p →
    percentage c' = .ok p' → p' ≤ p → t'.total = t.total → t.total < 2 ^ 32 →
    t.count .finished ≤ t'.count .finished → t'.count .finished < 2 ^ 32 →
    successReached c t = .ok true → successReached c' t' = .ok true
  /-- Failure stays reached with more members that have failed, and with a smaller percentage. -/
  keepsError : ∀ {c' : Threshold} {p p' : Nat} {t t' : Tally}, percentage c = .ok p →
    percentage c' = .ok p' → p' ≤ p → t'.total = t.total → t.total < 2 ^ 32 →
    t.count .error ≤ t'.count .error → t'.count .error < 2 ^ 32 →
    errorReached c t = .ok true → errorReached c' t' = .ok true

/-- Every condition is read and decided exactly. -/
theorem thresholds_exact (c : Threshold) : Exact c where
  reads _ := percentage_eq_ok
  fits read few narrow := products_lt few narrow (percentage_le read)
  success := successReached_eq
  error := errorReached_eq
  -- More of the same kind at a lower threshold still reaches it.
  keepsSuccess read read' less same narrow more few reached := by
    rw [successReached_eq read (Nat.lt_of_le_of_lt more few) narrow] at reached
    rw [successReached_eq read' few (same ▸ narrow), same]
    simp only [Except.ok.injEq, decide_eq_true_eq] at reached ⊢
    exact share_mono less more reached
  keepsError read read' less same narrow more few reached := by
    rw [errorReached_eq read (Nat.lt_of_le_of_lt more few) narrow] at reached
    rw [errorReached_eq read' few (same ▸ narrow), same]
    simp only [Except.ok.injEq, decide_eq_true_eq] at reached ⊢
    exact ⟨Nat.lt_of_lt_of_le reached.1 more, share_mono less more reached.2⟩

end Reaching

end DeviceUpdate.Rollouts
