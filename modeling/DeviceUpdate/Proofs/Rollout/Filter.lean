import DeviceUpdate.Proofs.Rollout.Partition
import DeviceUpdate.Proofs.Text.Splitting

/-! Target filters: what makes one unreadable, and which targets the others select. -/

namespace DeviceUpdate.Rollouts

section Patterns

variable {c p : Char} {pattern text : List Char}

/-- A pattern matches a whole text: a star stands for a run of characters other than line feeds,
and every other character for itself. -/
inductive Matches : List Char → List Char → Prop
  | nil : Matches [] []
  | star {run pattern text : List Char} (within : '\n' ∉ run) (rest : Matches pattern text) :
      Matches ('*' :: pattern) (run ++ text)
  | char {c : Char} {pattern text : List Char} (other : c ≠ '*') (rest : Matches pattern text) :
      Matches (c :: pattern) (c :: text)

theorem matchRow_char (other : p ≠ '*') (text pattern : List Char) :
    matchRow text (p :: pattern) = charRow p text (matchRow text pattern) := by
  rw [matchRow]
  exact other

/-- Below the first entry of a row is the row of the rest of the text. -/
theorem matchRow_cons (c : Char) (text pattern : List Char) :
    matchRow (c :: text) pattern = globMatches pattern (c :: text) :: matchRow text pattern := by
  -- A row has one entry more than the row of the text without its first character.
  have row : ∃ b, matchRow (c :: text) pattern = b :: matchRow text pattern := by
    induction pattern with
    | nil => exact ⟨false, rfl⟩
    | cons p pattern ih =>
      obtain ⟨b, below⟩ := ih
      by_cases star : p = '*'
      · rw [star, matchRow, matchRow, below, starRow]
        exact ⟨_, rfl⟩
      · rw [matchRow_char star, matchRow_char star, below, charRow]
        exact ⟨_, rfl⟩
  obtain ⟨b, row⟩ := row
  rw [globMatches, row]
  rfl

/-- The row of the end of a text has one entry. -/
theorem matchRow_nil (pattern : List Char) : matchRow [] pattern = [globMatches pattern []] := by
  -- Every row of the empty text has a single entry.
  have row : ∃ b, matchRow [] pattern = [b] := by
    induction pattern with
    | nil => exact ⟨true, rfl⟩
    | cons p pattern ih =>
      by_cases star : p = '*'
      · obtain ⟨b, same⟩ := ih
        exact ⟨b, by rw [star, matchRow, same, starRow]; nofun⟩
      · exact ⟨false, by rw [matchRow_char star]; rfl⟩
  obtain ⟨b, row⟩ := row
  rw [globMatches, row]
  rfl

/-- At the end of a text, a star takes nothing. -/
@[simp] theorem globMatches_star_nil (pattern : List Char) :
    globMatches ('*' :: pattern) [] = globMatches pattern [] := by
  rw [globMatches, matchRow, matchRow_nil]
  rfl

/-- A star takes nothing, or a character that is no line feed and then as before. -/
@[simp] theorem globMatches_star_cons (pattern : List Char) (c : Char) (text : List Char) :
    globMatches ('*' :: pattern) (c :: text) =
      (globMatches pattern (c :: text) || (c != '\n' && globMatches ('*' :: pattern) text)) := by
  rw [globMatches, matchRow, matchRow_cons, starRow]
  rfl

theorem globMatches_char_nil (other : p ≠ '*') (pattern : List Char) :
    globMatches (p :: pattern) [] = false := by
  rw [globMatches, matchRow_char other]
  rfl

/-- Another character takes itself. -/
theorem globMatches_char_cons (other : p ≠ '*') (pattern : List Char) (c : Char)
    (text : List Char) :
    globMatches (p :: pattern) (c :: text) = (c == p && globMatches pattern text) := by
  rw [globMatches, matchRow_char other, matchRow_cons, charRow]
  rfl

/-- What is found by rows is what matches. -/
theorem globMatches_iff : globMatches pattern text = true ↔ Matches pattern text := by
  constructor
  · intro found
    induction pattern generalizing text with
    | nil =>
      cases text with
      | nil => exact .nil
      | cons c text => cases found
    | cons p pattern ih =>
      by_cases star : p = '*'
      · subst star
        -- The run that the star takes ends where the rest of the pattern matches.
        induction text with
        | nil => exact @Matches.star [] pattern [] (by simp) (ih (by simpa using found))
        | cons c text longer =>
          rw [globMatches_star_cons, Bool.or_eq_true, Bool.and_eq_true, bne_iff_ne] at found
          obtain here | ⟨other, later⟩ := found
          · exact @Matches.star [] pattern (c :: text) (by simp) (ih here)
          · cases longer later with
            | char literal _ => exact absurd rfl literal
            | @star run _ rest within matched =>
              exact @Matches.star (c :: run) pattern rest (by simp [within, Ne.symm other]) matched
      -- Any other character of the pattern takes one character of the text.
      · cases text with
        | nil =>
          rw [globMatches_char_nil star] at found
          cases found
        | cons c text =>
          rw [globMatches_char_cons star, Bool.and_eq_true, beq_iff_eq] at found
          rw [found.1]
          exact .char star (ih found.2)
  · intro found
    induction found with
    | nil => rfl
    -- A star takes its run one character at a time, and then the rest has to match.
    | @star run pattern text within rest ih =>
      induction run with
      | nil =>
        cases text with
        | nil => simpa using ih
        | cons c text => simp [ih]
      | cons c run longer =>
        rw [List.mem_cons, not_or] at within
        simp [Ne.symm within.1, longer within.2]
    | char other _ ih => simp [globMatches_char_cons other, ih]

end Patterns

section Terms

open FilterTerm (attributeMark)
open Text (Blank CutAt trim)

/-- What stands between two semicolons of a filter is no term. -/
inductive NoTerm (piece : List Char) : Prop
  | blank (blank : Blank piece)
  /-- A term on an attribute does not say which value. -/
  | noValue {rest : List Char} (marked : trim piece = attributeMark ++ rest)
      (absent : ¬ ['=', '='] <:+: rest)
  /-- A term on an attribute does not say which attribute. -/
  | noKey {rest key value : List Char} (marked : trim piece = attributeMark ++ rest)
      (cut : CutAt ['=', '='] rest key value) (blank : Blank key)
  | noPatterns (names : ¬ attributeMark <+: trim piece)
      (blank : ∀ pattern ∈ (trim piece).splitOn ',', Blank pattern)

/-- A target satisfies the term between two semicolons of a filter: it has the attribute with the
value, or its name matches one of the patterns that count. -/
inductive Satisfies (Counts : List Char → Prop) (t : Target) (piece : List Char) : Prop
  | hasValue {rest key value : List Char} (marked : trim piece = attributeMark ++ rest)
      (cut : CutAt ['=', '='] rest key value)
      (equal : t.attributes.get? (String.ofList (trim key)) = some (String.ofList (trim value)))
  | named {pattern : List Char} (names : ¬ attributeMark <+: trim piece)
      (among : pattern ∈ (trim piece).splitOn ',') (counts : Counts pattern)
      (found : Matches (trim pattern) t.controller.toList)

variable {piece : List Char} {t : Target}

/-- How a term is read: it is refused for what makes it none, or stands for the condition on a
target that it says. -/
inductive Reads (piece : List Char) : Except FilterFault FilterTerm → Prop
  | refused {fault : FilterFault} (noTerm : NoTerm piece) : Reads piece (.error fault)
  | read {term : FilterTerm} (some : ¬ NoTerm piece)
      (admits : ∀ t, term.admits t = true ↔ Satisfies (¬ Blank ·) t piece) :
      Reads piece (.ok term)

/-- A text between commas stands for a pattern unless it is blank. -/
theorem mem_patterns {pattern : List Char} {cs : List Char} :
    -- The patterns are the parts between the commas, without their blanks and without empty ones.
    pattern ∈ ((Text.splitOn ',' cs).map trim).filter (fun p => !p.isEmpty) ↔
      ∃ part ∈ cs.splitOn ',', ¬ Blank part ∧ trim part = pattern := by
  simp only [List.mem_filter, List.mem_map, Text.splitOn_eq, Bool.not_eq_true', ← Text.trim_eq_nil,
    List.isEmpty_eq_false_iff]
  constructor
  · rintro ⟨⟨part, among, rfl⟩, some⟩
    exact ⟨part, among, some, rfl⟩
  · rintro ⟨part, among, some, rfl⟩
    exact ⟨⟨part, among, rfl⟩, some⟩

section Attributes

variable {rest key value : List Char} (marked : trim piece = attributeMark ++ rest)

include marked

/-- What a mark is followed by is determined. -/
theorem eq_of_mark {other : List Char} (again : trim piece = attributeMark ++ other) :
    other = rest :=
  List.append_cancel_left (again.symm.trans marked)

theorem not_blank_of_mark : ¬ Blank piece := by
  rw [← Text.trim_eq_nil, marked]
  exact fun none => absurd (List.append_eq_nil_iff.mp none).1 (by decide)

/-- A term on an attribute lacks the attribute or nothing. -/
theorem noTerm_iff_of_cut (cut : CutAt ['=', '='] rest key value) : NoTerm piece ↔ Blank key := by
  -- With the mark and a cut there is one way left to say nothing, that of an empty name.
  constructor
  · rintro (blank | ⟨again, absent⟩ | ⟨again, cut', blank⟩ | ⟨names, -⟩)
    · exact absurd blank (not_blank_of_mark marked)
    · rw [eq_of_mark marked again] at absent
      exact absurd ⟨key, value, cut.whole.symm⟩ absent
    · rw [eq_of_mark marked again] at cut'
      rw [← (cut.unique cut').1]
      exact blank
    · exact absurd ⟨rest, marked.symm⟩ names
  · exact .noKey marked cut

/-- A term on an attribute asks for its value. -/
theorem satisfies_iff_of_cut {Counts : List Char → Prop} (cut : CutAt ['=', '='] rest key value) :
    -- The cut is unique, so the name and the value are those of the term.
    Satisfies Counts t piece ↔
      t.attributes.get? (String.ofList (trim key)) = some (String.ofList (trim value)) := by
  constructor
  · rintro (⟨again, cut', equal⟩ | ⟨names, -, -, -⟩)
    · rw [eq_of_mark marked again] at cut'
      obtain ⟨rfl, rfl⟩ := cut.unique cut'
      exact equal
    · exact absurd ⟨rest, marked.symm⟩ names
  · exact .hasValue marked cut

/-- Terms on an attribute are read as they say. -/
theorem reads_readAttribute : Reads piece (FilterTerm.readAttribute (trim piece) rest) := by
  -- The four ways to read a term are told apart by the mark, the cut and the name.
  unfold FilterTerm.readAttribute
  split
  · rename_i none
    exact .refused (.noValue marked (Text.splitOnce_eq_none.mp none))
  · rename_i key value found
    have cut := Text.splitOnce_eq_some.mp found
    simp only
    split
    · rename_i none
      exact .refused (.noKey marked cut (Text.trim_eq_nil.mp (List.isEmpty_iff.mp none)))
    · rename_i keyed
      rw [List.isEmpty_iff, Text.trim_eq_nil] at keyed
      refine .read (mt (noTerm_iff_of_cut marked cut).mp keyed) fun t => ?_
      rw [FilterTerm.admits, beq_iff_eq, satisfies_iff_of_cut marked cut]

end Attributes

section Names

variable (names : ¬ attributeMark <+: trim piece)

include names

/-- A term on names lacks patterns or nothing. -/
theorem noTerm_iff_of_names (some : ¬ Blank piece) :
    -- Without the mark the term names patterns, and says nothing if all of them are blank.
    NoTerm piece ↔ ∀ pattern ∈ (trim piece).splitOn ',', Blank pattern := by
  constructor
  · rintro (blank | ⟨marked, -⟩ | ⟨marked, -, -⟩ | ⟨-, blank⟩)
    · exact absurd blank some
    · exact absurd ⟨_, marked.symm⟩ names
    · exact absurd ⟨_, marked.symm⟩ names
    · exact blank
  · exact .noPatterns names

/-- A term on names asks for a pattern that matches. -/
theorem satisfies_iff_of_names {Counts : List Char → Prop} :
    -- Some pattern that is not blank has to match the name of the target.
    Satisfies Counts t piece ↔ ∃ pattern ∈ (trim piece).splitOn ',',
      Counts pattern ∧ Matches (trim pattern) t.controller.toList := by
  constructor
  · rintro (⟨marked, -, -⟩ | ⟨-, among, counts, found⟩)
    · exact absurd ⟨_, marked.symm⟩ names
    · exact ⟨_, among, counts, found⟩
  · rintro ⟨pattern, among, counts, found⟩
    exact .named names among counts found

end Names

/-- Each term is read as it says. -/
theorem reads_read (piece : List Char) : Reads piece (FilterTerm.read (trim piece)) := by
  unfold FilterTerm.read
  split
  · rename_i none
    exact .refused (.blank (Text.trim_eq_nil.mp (List.isEmpty_iff.mp none)))
  rename_i some
  rw [List.isEmpty_iff, Text.trim_eq_nil] at some
  -- A piece that is not blank is an attribute if it has the mark, and otherwise a list of patterns.
  split
  · rename_i rest marked
    exact reads_readAttribute (Text.dropMark?_eq_some.mp marked)
  · rename_i unmarked
    have names : ¬ attributeMark <+: trim piece := by
      rintro ⟨rest, marked⟩
      rw [Text.dropMark?_eq_some.mpr marked.symm] at unmarked
      cases unmarked
    simp only [List.isEmpty_iff]
    split
    · rename_i none
      refine .refused (.noPatterns names fun part among => ?_)
      by_contra counts
      have member := mem_patterns.mpr ⟨part, among, counts, rfl⟩
      rw [none] at member
      cases member
    · rename_i patterns
      obtain ⟨pattern, member⟩ := List.exists_mem_of_ne_nil _ patterns
      obtain ⟨part, among, counts, -⟩ := mem_patterns.mp member
      refine .read (fun noTerm => ?_) fun t => ?_
      · exact counts ((noTerm_iff_of_names names some).mp noTerm part among)
      -- Reading drops the blank patterns, so a target is admitted by one of the others.
      · rw [FilterTerm.admits, List.any_eq_true, satisfies_iff_of_names names]
        simp only [mem_patterns, globMatches_iff]
        constructor
        · rintro ⟨_, ⟨part, among, counts, rfl⟩, found⟩
          exact ⟨part, among, counts, found⟩
        · rintro ⟨part, among, counts, found⟩
          exact ⟨_, ⟨part, among, counts, rfl⟩, found⟩

/-- The terms of a filter are read one by one, and the first that is none is refused. -/
theorem mapM_read_cases (pieces : List (List Char)) :
    (∃ fault, (pieces.map trim).mapM FilterTerm.read = .error fault ∧
      ∃ piece ∈ pieces, NoTerm piece) ∨
    ∃ terms, (pieces.map trim).mapM FilterTerm.read = .ok terms ∧
      (∀ piece ∈ pieces, ¬ NoTerm piece) ∧
      ∀ t : Target, terms.all (·.admits t) = true ↔
        ∀ piece ∈ pieces, Satisfies (¬ Blank ·) t piece := by
  -- The first refusal ends the reading, so the pieces are gone through from the front.
  induction pieces with
  | nil => exact .inr ⟨[], rfl, by simp, by simp⟩
  | cons piece pieces ih =>
    rw [List.map_cons, List.mapM_cons]
    have first := reads_read piece
    -- A piece that is no term is the first refusal.
    cases result : FilterTerm.read (trim piece) with
    | error fault =>
      rw [result] at first
      cases first with
      | refused noTerm => exact .inl ⟨fault, rfl, piece, List.mem_cons_self, noTerm⟩
    | ok term =>
      rw [result] at first
      cases first with
      -- Otherwise it depends on the others whether all are read.
      | read some admits =>
        obtain ⟨fault, refused, other, among, noTerm⟩ | ⟨terms, done, others, all⟩ := ih
        · exact .inl ⟨fault, by rw [refused]; rfl, other, List.mem_cons_of_mem piece among, noTerm⟩
        · refine .inr ⟨term :: terms, by rw [done]; rfl, ?_, fun t => ?_⟩
          · exact List.forall_mem_cons.mpr ⟨some, others⟩
          · rw [List.all_cons, Bool.and_eq_true, admits, all, List.forall_mem_cons]

end Terms

section Selection

open Deployments (Keyed)
open Target (Slashless)
open Text (Blank)

variable {s : Store} {tenant : String}

/-- A filter is blank, or something between its semicolons is no term. -/
def Unreadable (filter : String) : Prop :=
  Blank filter.toList ∨ ∃ piece ∈ filter.toList.splitOn ';', NoTerm piece

/-- A filter is refused if it is unreadable. Otherwise it selects the targets of a tenant that
satisfy each of its terms, where the patterns that count may match the name: they are named in
ascending order, each once. -/
structure Selects (Counts : List Char → Prop) (s : Store) (tenant filter : String) : Prop where
  refuses : (∃ fault, select s tenant filter = .error (.invalidFilter filter fault)) ↔
    Unreadable filter
  selects : ¬ Unreadable filter → ∃ names, select s tenant filter = .ok names ∧
    names.Pairwise (· < ·) ∧ ∀ name, name ∈ names ↔ ∃ key t, s.targets.get? key = some t ∧
      t.tenant = tenant ∧ t.controller = name ∧
      ∀ piece ∈ filter.toList.splitOn ';', Satisfies Counts t piece

/-- A filter is refused, or read to conditions on targets that say what its terms do. -/
theorem readFilter_cases (filter : String) :
    (∃ fault, readFilter filter = .error fault ∧ Unreadable filter) ∨
    ∃ terms, readFilter filter = .ok terms ∧ ¬ Unreadable filter ∧
      ∀ t : Target, terms.all (·.admits t) = true ↔
        ∀ piece ∈ filter.toList.splitOn ';', Satisfies (¬ Blank ·) t piece := by
  unfold readFilter Unreadable
  split
  -- A blank filter is refused as a whole.
  · rename_i none
    exact .inl ⟨_, rfl, .inl (Text.trim_eq_nil.mp (List.isEmpty_iff.mp none))⟩
  · rename_i some
    rw [List.isEmpty_iff, Text.trim_eq_nil] at some
    rw [Text.splitOn_eq]
    -- All pieces are read one by one.
    obtain ⟨fault, refused, noTerm⟩ | ⟨terms, done, each, all⟩ :=
      mapM_read_cases (filter.toList.splitOn ';')
    · exact .inl ⟨fault, refused, .inr noTerm⟩
    · refine .inr ⟨terms, done, ?_, all⟩
      rintro (blank | ⟨piece, among, noTerm⟩)
      · exact some blank
      · exact each piece among noTerm

/-- Among tenants without slashes, what a tenant finds under its keys is its own. -/
theorem own_of_slashless (keyed : Keyed s)
    (slashless : ∀ ⦃key t⦄, s.targets.get? key = some t → Slashless t.tenant)
    (own : Slashless tenant) {name : String} {t : Target} (found : s.target? tenant name = some t) :
    t.tenant = tenant := by
  by_contra other
  have same : Target.keyOf t.tenant t.controller = Target.keyOf tenant name := keyed found
  exact own.not_collides (slashless found) t.controller ⟨other, name, same⟩

/-- Among tenants without slashes, the targets that are listed for a tenant are those that are
stored for it. -/
theorem mem_targetsOf_iff (keyed : Keyed s)
    (slashless : ∀ ⦃key t⦄, s.targets.get? key = some t → Slashless t.tenant)
    (own : Slashless tenant) {t : Target} :
    t ∈ s.targetsOf tenant ↔ ∃ key, s.targets.get? key = some t ∧ t.tenant = tenant := by
  rw [Service.mem_targetsOf]
  -- The prefix of the tenant selects its own targets alone, since no tenant has a slash.
  constructor
  · rintro ⟨name, found⟩
    exact ⟨_, found, own_of_slashless keyed slashless own found⟩
  · rintro ⟨key, found, rfl⟩
    refine ⟨t.controller, ?_⟩
    have same : Target.keyOf t.tenant t.controller = key := keyed found
    rw [Store.target?, same]
    exact found

/-- Among tenants without slashes, filters select what they say, where blank patterns do not count.
That targets stand under their own keys is what storing them sees to. -/
theorem filter_selects (keyed : Keyed s)
    (slashless : ∀ ⦃key t⦄, s.targets.get? key = some t → Slashless t.tenant)
    (own : Slashless tenant) (filter : String) : Selects (¬ Blank ·) s tenant filter := by
  obtain ⟨fault, refused, unreadable⟩ | ⟨terms, read, readable, admitted⟩ :=
    readFilter_cases filter
  -- A filter that cannot be read selects nothing.
  · have done : select s tenant filter = .error (.invalidFilter filter fault) := by
      rw [select, refused]
    exact ⟨iff_of_true ⟨fault, done⟩ unreadable, fun readable => absurd unreadable readable⟩
  · obtain ⟨names, done⟩ : ∃ names, select s tenant filter = .ok names := by
      rw [select, read]
      exact ⟨_, rfl⟩
    refine ⟨iff_of_false (by simp [done]) readable, fun _ => ⟨names, done, ?_, fun name => ?_⟩⟩
    · -- Names that ascend and differ ascend strictly.
      have nodup := select_nodup keyed (own_of_slashless keyed slashless own) done
      exact (select_sorted done).imp₂ (fun a b le ne => lt_of_le_of_ne (of_decide_eq_true le) ne)
        nodup
    · rw [select, read] at done
      rw [← Except.ok.inj done, List.mem_mergeSort, List.mem_map]
      simp only [List.mem_filter, mem_targetsOf_iff keyed slashless own, admitted]
      -- The target is listed, it is admitted by all terms, and it has the name.
      constructor
      · rintro ⟨t, ⟨⟨key, found, mine⟩, all⟩, named⟩
        exact ⟨key, t, found, mine, named, all⟩
      · rintro ⟨key, t, found, mine, named, all⟩
        exact ⟨t, ⟨⟨key, found, mine⟩, all⟩, named⟩

/-- Two devices of one tenant. -/
def devices : Store :=
  (Store.empty.putTarget (.new "acme" "edge-01" "system" .epoch)).putTarget
    (.new "acme" "gw-01" "system" .epoch)

/-- What is stored under any key is one of the records. -/
theorem forall_targets {P : Target → Prop} (each : ∀ e ∈ s.targets.entries, P e.2) ⦃key : String⦄
    ⦃t : Target⦄ (found : s.targets.get? key = some t) : P t :=
  each (key, t) (Table.mem_entries_iff.mpr found)

theorem filter_selects_edges :
    Keyed devices ∧ (∀ ⦃key t⦄, devices.targets.get? key = some t → Slashless t.tenant) ∧
      Slashless "acme" ∧ Selects (¬ Blank ·) devices "acme" "edge-*,;*" ∧
      (select devices "acme" "edge-*,;*").toOption = some ["edge-01"] := by
  have keyed : Keyed devices := (Deployments.keyed_empty.putTarget _).putTarget _
  have slashless := forall_targets (s := devices) (P := fun t => Slashless t.tenant)
    (by unfold Slashless; decide +kernel)
  have own : Slashless "acme" := by unfold Slashless; decide +kernel
  exact ⟨keyed, slashless, own, filter_selects keyed slashless own _, by decide +kernel⟩

/-- A device whose name is empty. -/
def unnamed : Store :=
  Store.empty.putTarget (.new "acme" "" "system" .epoch)

/-- A device with a slash in its name. -/
def nested : Store :=
  Store.empty.putTarget (.new "a" "b/c" "system" .epoch)

/-- Names that are selected are those that the filter is to select. -/
theorem Selects.of_done {Counts : List Char → Prop} {filter : String} {names : List String}
    (selects : Selects Counts s tenant filter)
    -- The selection has succeeded, so the filter is readable.
    (done : (select s tenant filter).toOption = some names) (name : String) :
    name ∈ names ↔ ∃ key t, s.targets.get? key = some t ∧ t.tenant = tenant ∧
      t.controller = name ∧ ∀ piece ∈ filter.toList.splitOn ';', Satisfies Counts t piece := by
  have done := Result.eq_ok_of_toOption done
  have readable : ¬ Unreadable filter := fun unreadable => by
    obtain ⟨fault, refused⟩ := selects.refuses.mpr unreadable
    rw [refused] at done
    cases done
  obtain ⟨names', same, -, each⟩ := selects.selects readable
  rw [same] at done
  rw [← Except.ok.inj done]
  exact each name

/-- Were blank patterns to count, a device without a name would be selected by one; and a tenant
with a slash in its name is given the device of another. -/
theorem blank_patterns_and_slashes_mislead :
    (Keyed unnamed ∧ (∀ ⦃key t⦄, unnamed.targets.get? key = some t → Slashless t.tenant) ∧
      ¬ Selects (fun _ => True) unnamed "acme" "a,") ∧
    (Keyed nested ∧ (∀ ⦃key t⦄, nested.targets.get? key = some t → Slashless t.tenant) ∧
      ¬ Selects (fun _ => True) nested "a/b" "*") := by
  have slashless := forall_targets (s := unnamed) (P := fun t => Slashless t.tenant)
    (by unfold Slashless; decide +kernel)
  have slashlessToo := forall_targets (s := nested) (P := fun t => Slashless t.tenant)
    (by unfold Slashless; decide +kernel)
  refine ⟨⟨Deployments.keyed_empty.putTarget _, slashless, fun selects => ?_⟩,
    ⟨Deployments.keyed_empty.putTarget _, slashlessToo, fun selects => ?_⟩⟩
  · -- The blank pattern behind the comma matches the empty name, which is not selected.
    have done : (select unnamed "acme" "a,").toOption = some [] := by decide +kernel
    have term : "a,".toList.splitOn ';' = [['a', ',']] := by decide +kernel
    refine List.not_mem_nil ((selects.of_done done "").mpr
      ⟨"acme/", .new "acme" "" "system" .epoch, by decide +kernel, rfl, rfl, ?_⟩)
    rw [term]
    intro piece member
    rw [List.mem_singleton.mp member]
    have blank : [] ∈ (Text.trim ['a', ',']).splitOn ',' := by decide +kernel
    exact .named (by decide +kernel) blank trivial .nil
  · -- Only the other tenant has a device.
    have done : (select nested "a/b" "*").toOption = some ["b/c"] := by decide +kernel
    obtain ⟨key, t, found, other, -⟩ := (selects.of_done done "b/c").mp List.mem_cons_self
    have tenant := forall_targets (s := nested) (P := fun t => t.tenant = "a")
      (by decide +kernel) found
    rw [tenant] at other
    exact absurd other (by decide)

end Selection

end DeviceUpdate.Rollouts
