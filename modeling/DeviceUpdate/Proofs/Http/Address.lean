import DeviceUpdate.Http.Route
import DeviceUpdate.Http.Uri
import DeviceUpdate.Proofs.Result
import DeviceUpdate.Proofs.Text.Spelling
import DeviceUpdate.Proofs.Text.Splitting
import Mathlib.Data.List.Forall2
import Mathlib.Data.List.TakeWhile

/-! The addresses that resources have, and which of them are understood as they are meant. -/

namespace DeviceUpdate

namespace Http

section Paths

/-- The characters of some names with slashes between them. -/
def joined (names : List String) : List Char :=
  ['/'].intercalate (names.map String.toList)

variable {name : String} {names raws texts : List String}

@[simp] theorem joined_singleton (name : String) : joined [name] = name.toList :=
  List.intercalate_singleton

@[simp] theorem joined_cons_cons (name next : String) (names : List String) :
    joined (name :: next :: names) = name.toList ++ '/' :: joined (next :: names) := by
  simp [joined, List.intercalate_cons_cons]

/-- What holds of slashes holds of all characters exactly if it holds of those of the names. -/
theorem forall_mem_joined {p : Char → Prop} (slash : p '/') :
    (∀ c ∈ joined names, p c) ↔ ∀ name ∈ names, ∀ c ∈ name.toList, p c := by
  induction names with
  | nil => simp [joined]
  | cons name rest ih =>
    -- Only the last name has no slash behind it.
    cases rest with
    | nil => simp
    | cons next others =>
      simp only [joined_cons_cons, List.mem_append, List.mem_cons, or_imp, forall_and,
        forall_eq, slash, true_and] at ih ⊢
      rw [ih]

/-- Names take no more bytes than their spellings. -/
theorem size_joined_le (spells : List.Forall₂ Text.Spells raws texts) :
    Text.size (joined texts) ≤ Text.size (joined raws) := by
  induction spells with
  | nil => exact Nat.le_refl _
  | cons first others ih =>
    have front := first.size_le
    -- There are as many slashes on either side, so the names decide.
    cases others with
    | nil => simpa using front
    | cons second rest =>
      simp only [joined_cons_cons, Text.size_append, Text.size_cons] at ih ⊢
      omega

/-- Names that are spelled by the beginning of what they are together are spelled as they are. -/
theorem eq_of_spells (spells : List.Forall₂ Text.Spells raws texts)
    (starts : joined raws <+: joined texts) : raws = texts := by
  induction spells with
  | nil => rfl
  -- The first names are compared by their sizes, since decoding never lengthens a name.
  | cons first others ih =>
    rename_i raw text raws texts
    have front := first.size_le
    cases others with
    | nil =>
      simp only [joined_singleton] at starts
      rw [String.toList_inj.mp (Text.eq_of_prefix_of_size starts front)]
    | cons second rest =>
      have back := size_joined_le (.cons second rest)
      obtain ⟨more, whole⟩ := starts
      have sizes := congrArg Text.size whole
      simp only [joined_cons_cons, Text.size_append, Text.size_cons] at sizes
      -- Neither the first name nor the others can be shorter than their spellings.
      have same : raw = text := by
        rw [joined_cons_cons, joined_cons_cons, List.append_assoc] at whole
        rcases List.prefix_or_prefix_of_prefix ⟨_, whole⟩ (List.prefix_append _ _) with
          shorter | longer
        · exact String.toList_inj.mp (Text.eq_of_prefix_of_size shorter front)
        · exact (String.toList_inj.mp (Text.eq_of_prefix_of_size longer (by omega))).symm
      subst same
      rw [joined_cons_cons, joined_cons_cons, List.append_assoc, List.cons_append] at whole
      have others := ih ⟨more, (List.cons.inj (List.append_cancel_left whole)).2⟩
      rw [others]

end Paths

section Names

/-- The segments behind the name of a device under which one of its actions is found. -/
def DeviceAction.segments (id : String) : DeviceAction → List String
  | deployment => ["deploymentBase", id]
  | deploymentFeedback => ["deploymentBase", id, "feedback"]
  | installed => ["installedBase", id]
  | cancellation => ["cancelAction", id]
  | cancellationFeedback => ["cancelAction", id, "feedback"]

/-- The segments behind the name of a target. -/
def TargetPart.segments : TargetPart → List String
  | record => []
  | assignments => ["assignments"]
  | actions => ["actions"]

/-- The segments behind the number of an action. -/
def ActionPart.segments : ActionPart → List String
  | record => []
  | history => ["status"]
  | cancel => ["cancel"]
  | rejectCancel => ["rejectCancel"]

/-- The segments behind the number of a rollout. -/
def RolloutPart.segments : RolloutPart → List String
  | record => []
  | groups => ["groups"]
  | start => ["start"]
  | pause => ["pause"]
  | resume => ["resume"]
  | stop => ["stop"]

namespace Route

/-- The segments under which a resource is found. -/
def segments : Route → List String
  | poll tenant controller => [tenant, "controller", "v1", controller]
  | attributes tenant controller => [tenant, "controller", "v1", controller, "configData"]
  | device tenant controller id part =>
    [tenant, "controller", "v1", controller] ++ part.segments id
  | sets tenant => ["rest", "v1", tenant, "distributionsets"]
  | set tenant id => ["rest", "v1", tenant, "distributionsets", id]
  | targets tenant => ["rest", "v1", tenant, "targets"]
  | target tenant controller part =>
    ["rest", "v1", tenant, "targets", controller] ++ part.segments
  | action tenant id part => ["rest", "v1", tenant, "actions", id] ++ part.segments
  | rollouts tenant => ["rest", "v1", tenant, "rollouts"]
  | rollout tenant id part => ["rest", "v1", tenant, "rollouts", id] ++ part.segments

/-- The path of a resource, with its names as they are. -/
def path (r : Route) : String :=
  Text.joinWith "/" ("" :: r.segments)

variable {raw r : Route} {path : String} {segments : List String}

/-- A resource is found under its segments and under no other ones. -/
theorem ofSegments?_eq_some : ofSegments? segments = some r ↔ segments = r.segments := by
  constructor
  · intro found
    unfold ofSegments? ofDeviceSegments? ofTenantSegments? at found
    -- Every pattern of segments belongs to one resource.
    split at found
    · split at found <;> cases found <;> rfl
    · split at found <;> cases found <;> rfl
    · cases found
  · rintro rfl
    cases r with
    | device _ _ _ part => cases part <;> rfl
    | target _ _ part => cases part <;> rfl
    | action _ _ part => cases part <;> rfl
    | rollout _ _ part => cases part <;> rfl
    | _ => rfl

theorem decodeSegment_eq_ok {part raw text : String} :
    decodeSegment part raw = .ok text ↔ Text.Spells raw text := by
  unfold decodeSegment Text.Spells
  cases Text.percentDecoded? raw.toList <;> simp

/-- What a resource is decoded to is spelled by its segments. -/
theorem spells_of_decode (done : raw.decode = .ok r) :
    List.Forall₂ Text.Spells raw.segments r.segments := by
  cases raw <;> simp only [decode, Result.bind_eq_ok, decodeSegment_eq_ok] at done
  -- The segments that are no names are the same in both, and have no escape.
  case sets | targets | rollouts =>
    -- By the number of names that the request has in it.
    obtain ⟨tenant, one, same⟩ := done
    cases same
    simp [segments, one, Text.spells_self_iff, Text.hasEscape]
  case poll | attributes | set =>
    obtain ⟨tenant, one, name, two, same⟩ := done
    cases same
    simp [segments, one, two, Text.spells_self_iff, Text.hasEscape]
  case target part | action part | rollout part =>
    obtain ⟨tenant, one, name, two, same⟩ := done
    cases same
    cases part <;> simp [segments, TargetPart.segments, ActionPart.segments,
      RolloutPart.segments, one, two, Text.spells_self_iff, Text.hasEscape]
  case device part =>
    obtain ⟨tenant, one, controller, two, id, three, same⟩ := done
    cases same
    cases part <;> simp [segments, DeviceAction.segments, one, two, three, Text.spells_self_iff,
      Text.hasEscape]

end Route

end Names

section Addresses

/-- A name that stands for itself wherever it stands in an address. -/
structure IsPlain (name : String) : Prop where
  chars : ∀ c ∈ name.toList, isPathChar c = true ∧ c ≠ '#' ∧ c ≠ '?'
  slashless : '/' ∉ name.toList
  unescaped : Text.hasEscape name.toList = false

instance : DecidablePred IsPlain := fun name =>
  -- The characters are looked at one after another, and not all characters that there are.
  decidable_of_iff (name.toList.all (fun c => isPathChar c && c != '#' && c != '?') = true ∧
      '/' ∉ name.toList ∧ Text.hasEscape name.toList = false)
    ⟨fun ⟨chars, slashless, unescaped⟩ => ⟨by simpa [and_assoc] using chars, slashless, unescaped⟩,
      fun plain => ⟨by simpa [and_assoc] using plain.chars, plain.slashless, plain.unescaped⟩⟩

/-- An address under which the server finds a resource with the names in it. -/
def Leads (address : String) (r : Route) : Prop :=
  ∃ u raw, Uri.read? address = some u ∧ Route.ofPath? u.path = some raw ∧ raw.decode = .ok r

variable {cs : List Char} {u : Uri} {path : String} {segments : List String} {r : Route}

/-- The path in an address is its beginning. -/
theorem readPath?_eq_some (found : readPath? cs = some u) : u.path.toList <+: cs ∧
    ∀ c ∈ u.path.toList, isPathChar c = true ∧ c ≠ '#' ∧ c ≠ '?' := by
  unfold readPath? at found
  simp only at found
  split at found
  · rename_i allowed
    rw [← Option.some.inj found, String.toList_ofList]
    simp only [Bool.and_eq_true, List.all_eq_true] at allowed
    -- The path ends at the first sign of a fragment or a query, which it does not contain.
    have front := List.takeWhile_prefix (p := fun c => c != '?') (l := cs.takeWhile (· != '#'))
    refine ⟨front.trans (List.takeWhile_prefix _), fun c member => ?_⟩
    have number := List.mem_takeWhile_imp (front.subset member)
    have question := List.mem_takeWhile_imp member
    exact ⟨allowed.1 c member, by simpa using number, by simpa using question⟩
  · cases found

/-- The pieces between the slashes are some names exactly if these make up the whole and have no
slashes themselves. -/
theorem splitOn_eq_iff {names : List String} (some : names ≠ []) :
    (Text.splitOn '/' cs).map String.ofList = names ↔
      cs = joined names ∧ ∀ name ∈ names, '/' ∉ name.toList := by
  constructor
  -- Joining with slashes undoes the splitting as long as no name has a slash.
  · rintro rfl
    constructor
    · rw [joined, List.map_map, Text.splitOn_eq]
      simp [Function.comp_def, List.intercalate_splitOn]
    · simp only [List.forall_mem_map, String.toList_ofList]
      exact fun piece member => Text.separator_not_mem member
  · rintro ⟨rfl, slashless⟩
    rw [Text.splitOn_eq, joined, List.splitOn_intercalate]
    · simp [Function.comp_def]
    · simpa using slashless
    · simpa using some

/-- A path has some segments exactly if it is these with a slash in front of each, and the last of
them is not empty. -/
theorem segments?_eq_some : Route.segments? path = some segments ↔
    path.toList = joined ("" :: segments) ∧ (∀ name ∈ segments, '/' ∉ name.toList) ∧
      segments.getLast? ≠ some "" := by
  have pieces := @splitOn_eq_iff path.toList ("" :: segments) (by simp)
  have empty : '/' ∉ "".toList := by simp
  simp only [List.forall_mem_cons, empty, not_false_eq_true, true_and] at pieces
  rw [← and_assoc, ← pieces]
  unfold Route.segments?
  -- The first piece is what stands in front of the first slash.
  split
  · rename_i names split
    simp only [split, List.cons.injEq, true_and]
    by_cases ends : names.getLast? = some ""
    · rw [if_pos ends]
      constructor
      · intro found
        cases found
      -- The last piece is not empty, so a slash at the end is no part of the path.
      · rintro ⟨rfl, last⟩
        exact (last ends).elim
    · rw [if_neg ends, Option.some.injEq]
      constructor
      · rintro rfl
        exact ⟨rfl, ends⟩
      · exact And.left
  · rename_i other
    constructor
    · intro found
      cases found
    · rintro ⟨split, -⟩
      exact (other segments split).elim

theorem Route.toList_path (r : Route) : r.path.toList = joined ("" :: r.segments) := by
  rw [path, Text.joinWith, String.toList_intercalate]
  rfl

theorem Route.segments_ne_nil (r : Route) : r.segments ≠ [] := by
  cases r <;> simp [segments]

/-- The path of a resource is read as a path, since it starts with a slash. -/
theorem Route.read?_path (r : Route) : Uri.read? r.path =
    if maxUriBytes < r.path.utf8ByteSize then none else readPath? r.path.toList := by
  have slash : ∃ rest, r.path.toList = '/' :: rest := by
    obtain ⟨name, names, same⟩ := List.exists_cons_of_ne_nil r.segments_ne_nil
    exact ⟨joined (name :: names), by rw [toList_path, same, joined_cons_cons]; rfl⟩
  obtain ⟨rest, starts⟩ := slash
  -- The slash in front rules all other kinds of addresses out.
  rw [Uri.read?, starts]
  simp

/-- An address that leads to its own resource is short enough and has plain names. -/
theorem Leads.plain (leads : Leads r.path r) : (∀ name ∈ r.segments, IsPlain name) ∧
    r.segments.getLast? ≠ some "" ∧ r.path.utf8ByteSize ≤ maxUriBytes := by
  -- The four steps of reading an address are gone back one by one.
  obtain ⟨u, raw, read, found, done⟩ := leads
  rw [r.read?_path] at read
  split at read
  · cases read
  · rename_i short
    obtain ⟨starts, chars⟩ := readPath?_eq_some read
    obtain ⟨segments, split, own⟩ := Option.bind_eq_some_iff.mp found
    obtain ⟨whole, slashless, last⟩ := segments?_eq_some.mp split
    rw [Route.ofSegments?_eq_some.mp own] at whole slashless last
    have spells : List.Forall₂ Text.Spells ("" :: raw.segments) ("" :: r.segments) :=
      .cons (Text.spells_self_iff.mpr rfl) (Route.spells_of_decode done)
    -- What is read is the beginning of the address, and is decoded to the whole of it.
    rw [r.toList_path, whole] at starts
    rw [(List.cons.inj (eq_of_spells spells starts)).2] at whole slashless last spells
    rw [whole, forall_mem_joined (by decide), List.forall_mem_cons] at chars
    rw [List.forall₂_same, List.forall_mem_cons] at spells
    exact ⟨fun name member => ⟨chars.2 name member, slashless name member,
      Text.spells_self_iff.mp (spells.2 name member)⟩, last, by omega⟩

end Addresses

end Http

end DeviceUpdate
