import DeviceUpdate.Action.Feedback
import DeviceUpdate.Action.Log
import DeviceUpdate.DistributionSet
import DeviceUpdate.Proofs.Json.Record
import DeviceUpdate.Rollout.Record

/-! Stored records and the reports of devices are read back from their texts. -/

namespace DeviceUpdate

open Json (Faithful faithful_text faithful_natural64 faithful_natural32 faithful_natural16
  faithful_signed32 faithful_object plain_ofOption nullable_ofOption)

section Names

/-! Every name is read as the value that it names. -/

@[simp] theorem UpdateStatus.named?_name (s : UpdateStatus) :
    Json.named? names (.string s.name) = some s := by
  cases s <;> rfl

@[simp] theorem Status.named?_name (s : Status) :
    Json.named? names (.string s.name) = some s := by
  cases s <;> rfl

@[simp] theorem Urgency.named?_name (u : Urgency) :
    Json.named? names (.string u.name) = some u := by
  cases u <;> rfl

@[simp] theorem Source.named?_name (s : Source) :
    Json.named? names (.string s.name) = some s := by
  cases s <;> rfl

@[simp] theorem RolloutStatus.named?_name (s : RolloutStatus) :
    Json.named? names (.string s.name) = some s := by
  cases s <;> rfl

@[simp] theorem GroupStatus.named?_name (s : GroupStatus) :
    Json.named? names (.string s.name) = some s := by
  cases s <;> rfl

@[simp] theorem SuccessAction.named?_name (a : SuccessAction) :
    Json.named? names (.string a.name) = some a := by
  cases a <;> rfl

@[simp] theorem Execution.named?_name (e : Execution) :
    Json.named? names (.string e.name) = some e := by
  cases e <;> rfl

@[simp] theorem Outcome.named?_name (o : Outcome) :
    Json.named? names (.string o.name) = some o := by
  cases o <;> rfl

theorem ErrorAction.faithful (a : ErrorAction) :
    Faithful (fun a => .string (name a)) (Json.named? names) a :=
  Json.faithful_named (by cases a; rfl)

end Names

section Targets

/-- The numbers in a target have 64 bits. -/
structure Target.Fits (t : Target) : Prop where
  assigned : ∀ n ∈ t.assigned, n < 2 ^ 64
  installed : ∀ n ∈ t.installed, n < 2 ^ 64

theorem Target.faithful {t : Target} (fits : t.Fits) : Faithful toJson ofJson? t := by
  have assigned := fun n some => faithful_natural64 (fits.assigned n some)
  have installed := fun n some => faithful_natural64 (fits.installed n some)
  refine faithful_object (by simp) ?_ ?_
  · simp [plain_ofOption assigned, plain_ofOption installed]
  · simp [nullable_ofOption assigned, nullable_ofOption installed]

end Targets

section Bundles

/-- The size of a file has 64 bits. -/
def Artifact.Fits (a : Artifact) : Prop :=
  a.size < 2 ^ 64

/-- The sizes of all files have 64 bits. -/
def SoftwareModule.Fits (m : SoftwareModule) : Prop :=
  ∀ a ∈ m.artifacts, a.Fits

/-- The numbers in a distribution set have 64 bits. -/
structure DistributionSet.Fits (d : DistributionSet) : Prop where
  id : d.id < 2 ^ 64
  modules : ∀ m ∈ d.modules, m.Fits

theorem Artifact.faithful {a : Artifact} (fits : a.Fits) : Faithful toJson ofJson? a := by
  have size := faithful_natural64 fits
  refine faithful_object (by simp) ?_ ?_
  · simp [size.plain]
  · simp [size.back]

theorem SoftwareModule.faithful {m : SoftwareModule} (fits : m.Fits) :
    Faithful toJson ofJson? m := by
  have artifacts := Faithful.list fun a member => Artifact.faithful (fits a member)
  refine faithful_object (by simp) ?_ ?_
  · simp [artifacts.plain]
  · simp [artifacts.back]

theorem DistributionSet.faithful {d : DistributionSet} (fits : d.Fits) :
    Faithful toJson ofJson? d := by
  have id := faithful_natural64 fits.id
  have modules := Faithful.list fun m member => SoftwareModule.faithful (fits.modules m member)
  refine faithful_object (by simp) ?_ ?_
  · simp [id.plain, modules.plain]
  · simp [id.back, modules.back]

end Bundles

section Actions

/-- The numbers of a deployment have 64 bits, and 16 bits for its weight. -/
structure Deployment.Fits (d : Deployment) : Prop where
  distributionSet : d.distributionSet < 2 ^ 64
  weight : ∀ n ∈ d.weight, n < 2 ^ 16

/-- The numbers of an order fit their fields. -/
def Order.Fits : Order → Prop
  | .deploy d => d.Fits
  | .cancel subject => subject < 2 ^ 64

/-- The numbers of a membership have 64 bits. -/
structure Membership.Fits (m : Membership) : Prop where
  rollout : m.rollout < 2 ^ 64
  group : m.group < 2 ^ 64

/-- The numbers of an action fit their fields. -/
structure Action.Fits (a : Action) : Prop where
  id : a.id < 2 ^ 64
  order : a.order.Fits
  rollout : ∀ m ∈ a.rollout, m.Fits

/-- The numbers of an entry have 64 bits, and 32 bits with a sign for its code. -/
structure LogEntry.Fits (e : LogEntry) : Prop where
  action : e.action < 2 ^ 64
  position : e.position < 2 ^ 64
  code : ∀ n ∈ e.code, -2 ^ 31 ≤ n ∧ n < 2 ^ 31

theorem MaintenanceTexts.faithful (m : MaintenanceTexts) : Faithful toJson ofJson? m :=
  faithful_object (by simp) (by simp) (by simp)

theorem Deployment.faithful {d : Deployment} (fits : d.Fits) {urgency : Json → Option Urgency}
    (reads : urgency (.string d.urgency.name) = some d.urgency) :
    Faithful (fun d => .object (members d)) (read? urgency) d := by
  -- Each number has the bits of its field, whether it is written or null.
  have distributionSet := faithful_natural64 fits.distributionSet
  have weight := fun n some => faithful_natural16 (fits.weight n some)
  have maintenance := fun (m : MaintenanceTexts) (_ : m ∈ d.maintenance) => m.faithful
  refine faithful_object (by simp [members]) ?_ ?_
  · simp [members, distributionSet.plain, plain_ofOption weight, plain_ofOption maintenance]
  · simp [members, distributionSet.back, nullable_ofOption weight, nullable_ofOption maintenance,
      reads]

/-- The record of an order is shallow enough to be kept until its kind is known. -/
theorem Order.depth_toJson (o : Order) : o.toJson.depth < Json.greatestDepth := by
  -- The record is as deep as its deepest field, and no field of an order is deeper than two levels.
  cases o with
  | deploy d =>
    have forced : (Json.ofOption Json.ofInstant d.forcedTime).depth = 0 := by
      cases d.forcedTime <;> rfl
    have weight : (Json.ofOption Json.natural d.weight).depth = 0 := by
      cases d.weight <;> rfl
    have maintenance : (Json.ofOption MaintenanceTexts.toJson d.maintenance).depth ≤ 1 := by
      cases d.maintenance <;> simp [Json.ofOption, MaintenanceTexts.toJson, Json.depth,
        Json.membersDepth]
    simp only [toJson, Deployment.members, Json.depth, Json.membersDepth, Json.natural, forced,
      weight, Json.greatestDepth]
    omega
  | cancel subject =>
    simp [toJson, Json.depth, Json.membersDepth, Json.natural, Json.greatestDepth]

/-- An order is read from the members of its record apart from its kind. -/
theorem Order.ofJson?_members {kind : String} {rest : List (String × Json)}
    (plain : ∀ m ∈ rest, m.2.Plain) (others : ∀ m ∈ rest, m.1 ≠ "kind")
    (shallow : (Json.object (("kind", .string kind) :: rest)).depth < Json.greatestDepth) :
    ofJson? (.object (("kind", .string kind) :: rest)) = ofKind? kind (.object rest) := by
  -- A record that is not nested too deeply can be kept while its kind is looked for.
  have kept : canBeKept (.object (("kind", .string kind) :: rest)) = true := by
    have plain : (Json.object (("kind", .string kind) :: rest)).Plain :=
      .object _ (by simpa using plain)
    simp [canBeKept, plain.isSound, shallow]
  -- The kind is the only member of that name, so all the others are left for the fields of the
  -- kind.
  have parted : (("kind", Json.string kind) :: rest).partition (fun m => m.1 == "kind") =
      ([("kind", .string kind)], rest) := by
    have none : rest.filter (fun m => m.1 == "kind") = [] := by simpa using others
    have all : rest.filter (fun m => !(m.1 == "kind")) = rest := by simpa using others
    simp [List.partition_eq_filter_filter, Function.comp_def, none, all]
  rw [ofJson?, if_pos kept]
  simp only [parted]

theorem Order.faithful {o : Order} (fits : o.Fits) : Faithful toJson ofJson? o := by
  have shallow := o.depth_toJson
  -- Each kind has its own fields, which are read behind the kind.
  cases o with
  | deploy d =>
    have reads : Json.keptNamed? Urgency.names (.string d.urgency.name) = some d.urgency :=
      d.urgency.named?_name
    have faithful := Deployment.faithful fits reads
    have plain : ∀ m ∈ d.members, m.2.Plain := by
      cases faithful.plain with
      | object _ plain => exact plain
    refine ⟨.object _ (by simpa using plain), by simp [toJson], ?_⟩
    rw [toJson, ofJson?_members plain (by simp [Deployment.members]) shallow, ofKind?,
      faithful.back]
    rfl
  | cancel subject =>
    have number := faithful_natural64 fits
    have read : Json.Record.read? ["cancels"] (.object [("cancels", .natural subject)]) =
        some ⟨Json.Record.memberSlot [("cancels", .natural subject)]⟩ :=
      Json.Record.read?_object (by simp) _
    refine ⟨.object _ (by simp [number.plain]), by simp [toJson], ?_⟩
    rw [toJson, ofJson?_members (by simp [number.plain]) (by simp) shallow, ofKind?, read,
      Option.bind_eq_bind, Option.bind_some, Json.Record.required_cons, if_pos rfl, number.back]
    rfl

theorem Membership.faithful {m : Membership} (fits : m.Fits) : Faithful toJson ofJson? m := by
  have rollout := faithful_natural64 fits.rollout
  have group := faithful_natural64 fits.group
  refine faithful_object (by simp) ?_ ?_
  · simp [rollout.plain, group.plain]
  · simp [rollout.back, group.back]

theorem Action.faithful {a : Action} (fits : a.Fits) : Faithful toJson ofJson? a := by
  have id := faithful_natural64 fits.id
  have order := Order.faithful fits.order
  have rollout := fun m some => Membership.faithful (fits.rollout m some)
  refine faithful_object (by simp) ?_ ?_
  · simp [id.plain, order.plain, plain_ofOption rollout]
  · simp [id.back, order.back, nullable_ofOption rollout]

theorem LogEntry.faithful {e : LogEntry} (fits : e.Fits) : Faithful toJson ofJson? e := by
  have action := faithful_natural64 fits.action
  have position := faithful_natural64 fits.position
  have code := fun n some => faithful_signed32 (fits.code n some)
  have messages := Faithful.list fun s (_ : s ∈ e.messages) => faithful_text s
  refine faithful_object (by simp) ?_ ?_
  · simp [action.plain, position.plain, plain_ofOption code, messages.plain]
  · simp [action.back, position.back, nullable_ofOption code, messages.back]

end Actions

section Campaigns

/-- The numbers of a rollout have 64 bits, 32 for its groups and 16 for its weight. -/
structure Rollout.Fits (r : Rollout) : Prop where
  id : r.id < 2 ^ 64
  distributionSet : r.distributionSet < 2 ^ 64
  weight : ∀ n ∈ r.weight, n < 2 ^ 16
  totalTargets : r.totalTargets < 2 ^ 64
  groupCount : r.groupCount < 2 ^ 32

/-- The numbers of a group have 64 bits, and 32 for its position. -/
structure RolloutGroup.Fits (g : RolloutGroup) : Prop where
  id : g.id < 2 ^ 64
  rollout : g.rollout < 2 ^ 64
  position : g.position < 2 ^ 32
  totalTargets : g.totalTargets < 2 ^ 64
  parent : ∀ n ∈ g.parent, n < 2 ^ 64

theorem Rollout.faithful {r : Rollout} (fits : r.Fits) : Faithful toJson ofJson? r := by
  -- Only the numbers have ranges, and all other fields are read back whatever they are.
  have id := faithful_natural64 fits.id
  have distributionSet := faithful_natural64 fits.distributionSet
  have weight := fun n some => faithful_natural16 (fits.weight n some)
  have totalTargets := faithful_natural64 fits.totalTargets
  have groupCount := faithful_natural32 fits.groupCount
  refine faithful_object (by simp [members]) ?_ ?_
  · simp [members, id.plain, distributionSet.plain, plain_ofOption weight, totalTargets.plain,
      groupCount.plain]
  · simp [members, id.back, distributionSet.back, nullable_ofOption weight, totalTargets.back,
      groupCount.back]

theorem Threshold.faithful (c : Threshold) : Faithful toJson ofJson? c :=
  faithful_object (by simp) (by simp) (by simp [kinds, Json.named?])

theorem RolloutGroup.faithful {g : RolloutGroup} (fits : g.Fits) : Faithful toJson ofJson? g := by
  -- Behind the optional fields stand records that are read back themselves.
  have id := faithful_natural64 fits.id
  have rollout := faithful_natural64 fits.rollout
  have position := faithful_natural32 fits.position
  have success := g.success.faithful
  have failure := fun (c : Threshold) (_ : c ∈ g.failure) => c.faithful
  have onFailure := fun (a : ErrorAction) (_ : a ∈ g.onFailure) => a.faithful
  have totalTargets := faithful_natural64 fits.totalTargets
  have parent := fun n some => faithful_natural64 (fits.parent n some)
  refine faithful_object (by simp) ?_ ?_
  · simp [id.plain, rollout.plain, position.plain, success.plain, plain_ofOption failure,
      plain_ofOption onFailure, totalTargets.plain, plain_ofOption parent]
  · simp [id.back, rollout.back, position.back, success.back, nullable_ofOption failure,
      nullable_ofOption onFailure, totalTargets.back, nullable_ofOption parent]

end Campaigns

section Reports

/-- The numbers of a progress have 32 bits. -/
structure Progress.Fits (p : Progress) : Prop where
  done : p.done < 2 ^ 32
  total : p.total < 2 ^ 32

/-- The numbers of a report have 32 bits, with a sign for its code. -/
structure Feedback.Fits (f : Feedback) : Prop where
  code : ∀ n ∈ f.code, -2 ^ 31 ≤ n ∧ n < 2 ^ 31
  progress : ∀ p ∈ f.progress, p.Fits

theorem Progress.faithful {p : Progress} (fits : p.Fits) : Faithful toJson ofJson? p := by
  have done := faithful_natural32 fits.done
  have total := faithful_natural32 fits.total
  refine faithful_object (by simp) ?_ ?_
  · simp [done.plain, total.plain]
  · simp [done.back, total.back]

@[simp] theorem Feedback.memberOf_none {α : Type} (name : String) (encode : α → Json) :
    memberOf name encode none = [] := rfl

@[simp] theorem Feedback.memberOf_some {α : Type} (name : String) (encode : α → Json) (a : α) :
    memberOf name encode (some a) = [(name, encode a)] := rfl

/-- The result part of a report is read back. -/
theorem Feedback.faithful_result {outcome : Outcome} {progress : Option Progress}
    (fits : ∀ p ∈ progress, p.Fits) :
    Faithful (fun r : Outcome × Option Progress =>
      .object (("finished", .string r.1.name) :: memberOf "progress" Progress.toJson r.2))
      readResult? (outcome, progress) := by
  -- The progress is left out when there is none.
  cases progress with
  | none => exact faithful_object (by simp) (by simp) (by simp)
  | some p =>
    have progress := Progress.faithful (fits p rfl)
    exact faithful_object (by simp) (by simp [progress.plain]) (by simp [progress.nullable])

/-- The status part of a report is read back. -/
theorem Feedback.faithful_status {f : Feedback} (fits : f.Fits) :
    Faithful (fun f : Feedback => .object (("execution", .string f.execution.name) ::
      ("result", .object (("finished", .string f.outcome.name) ::
        memberOf "progress" Progress.toJson f.progress)) ::
      (memberOf "code" .integer f.code ++
        if f.messages.isEmpty then [] else [("details", Json.ofList .string f.messages)])))
      readStatus? f := by
  obtain ⟨execution, outcome, code, progress, messages⟩ := f
  -- The result within the status is written and read back on its own.
  have result := @faithful_result outcome progress fits.progress
  have written := result.plain
  have read := result.back
  have texts := Faithful.list fun s (_ : s ∈ messages) => faithful_text s
  -- The code and the messages are left out when there are none.
  cases code with
  | none =>
    cases messages with
    | nil => exact faithful_object (by simp) (by simp [written]) (by simp [read])
    | cons s messages =>
      exact faithful_object (by simp) (by simp [written, texts.plain]) (by simp [read, texts.back])
  -- There is a code, which is written as an integer of its range.
  | some n =>
    have code := faithful_signed32 (fits.code n rfl)
    cases messages with
    | nil =>
      exact faithful_object (by simp) (by simp [written, code.plain])
        (by simp [read, code.nullable])
    | cons s messages =>
      exact faithful_object (by simp) (by simp [written, code.plain, texts.plain])
        (by simp [read, code.nullable, texts.back])

theorem Feedback.faithful {f : Feedback} (fits : f.Fits) : Faithful toJson ofJson? f := by
  have status := faithful_status fits
  refine faithful_object (by simp) ?_ ?_
  · simpa using status.plain
  · simpa using status.back

end Reports

section Texts

/-- Every value that fits is read back from the text of its document. -/
def ReadsBack {α : Type} (encode : α → Json) (decode : Json → Option α) (fits : α → Prop) : Prop :=
  ∀ a, fits a → (Json.read? (encode a).write).bind decode = some a

/-- What is read from its document is read from the text of it. -/
theorem readsBack {α : Type} {encode : α → Json} {decode : Json → Option α} {fits : α → Prop}
    (faithful : ∀ {a}, fits a → Faithful encode decode a) : ReadsBack encode decode fits := by
  intro a holds
  have each := faithful holds
  rw [each.plain.read?_write, Option.bind_some, each.back]

/-- Stored records of every kind, and the reports of devices, are read back from their texts. -/
theorem records_read_back :
    ReadsBack Target.toJson Target.ofJson? Target.Fits ∧
    ReadsBack DistributionSet.toJson DistributionSet.ofJson? DistributionSet.Fits ∧
    ReadsBack Action.toJson Action.ofJson? Action.Fits ∧
    ReadsBack LogEntry.toJson LogEntry.ofJson? LogEntry.Fits ∧
    ReadsBack Rollout.toJson Rollout.ofJson? Rollout.Fits ∧
    ReadsBack RolloutGroup.toJson RolloutGroup.ofJson? RolloutGroup.Fits ∧
    ReadsBack Feedback.toJson Feedback.ofJson? Feedback.Fits :=
  ⟨readsBack Target.faithful, readsBack DistributionSet.faithful, readsBack Action.faithful,
    readsBack LogEntry.faithful, readsBack Rollout.faithful, readsBack RolloutGroup.faithful,
    readsBack Feedback.faithful⟩

/-- The leap second at the end of 2016, half of it gone. -/
def leapSecond : Instant :=
  ⟨1483228799, 1500000000, by decide, by decide, by decide⟩

/-- Records with the greatest numbers, a leap second and quoted control characters read back. -/
theorem records_read_back_greatest :
    (∃ t : Target, t.assigned = some (2 ^ 64 - 1) ∧ t.lastPoll = some leapSecond ∧
      (Json.read? t.toJson.write).bind Target.ofJson? = some t) ∧
    (∃ d : DistributionSet, d.id = 2 ^ 64 - 1 ∧ d.modules ≠ [] ∧
      (Json.read? d.toJson.write).bind DistributionSet.ofJson? = some d) ∧
    (∃ a : Action, a.rollout.isSome = true ∧ a.weight? = some (2 ^ 16 - 1) ∧
      (Json.read? a.toJson.write).bind Action.ofJson? = some a) ∧
    (∃ e : LogEntry, e.code = some (-2 ^ 31) ∧ e.messages = ["\x01\x7b\n"] ∧
      (Json.read? e.toJson.write).bind LogEntry.ofJson? = some e) ∧
    (∃ r : Rollout, r.groupCount = 2 ^ 32 - 1 ∧
      (Json.read? r.toJson.write).bind Rollout.ofJson? = some r) ∧
    (∃ g : RolloutGroup, g.failure.isSome = true ∧ g.parent = some 1 ∧
      (Json.read? g.toJson.write).bind RolloutGroup.ofJson? = some g) ∧
    (∃ f : Feedback, f.progress = some ⟨1, 2⟩ ∧ f.code = some (2 ^ 31 - 1) ∧
      (Json.read? f.toJson.write).bind Feedback.ofJson? = some f) := by
  -- Each of the seven records is read back on its own, with its fields at the ends of their ranges.
  obtain ⟨target, set, action, entry, rollout, group, feedback⟩ := records_read_back
  refine ⟨⟨{ Target.new "t" "d" "admin" leapSecond with
      assigned := some (2 ^ 64 - 1), lastPoll := some leapSecond }, rfl, rfl,
      target _ ⟨by simp, by simp [Target.new]⟩⟩,
    ⟨⟨2 ^ 64 - 1, "t", "base", "1", [⟨"os", "linux", "6", [⟨"image", 0, "00"⟩]⟩], leapSecond⟩, rfl,
      by simp, set _ ⟨by simp, by simp [SoftwareModule.Fits, Artifact.Fits]⟩⟩,
    ⟨⟨1, "t", "d", .deploy ⟨1, .timeForced, some leapSecond, some (2 ^ 16 - 1),
        some ⟨"0 0 12 * * *", "01:00:00", "Z"⟩⟩, .running, true, some ⟨1, 2⟩, leapSecond,
        leapSecond⟩, rfl, rfl,
      action _ ⟨by simp, ⟨by simp, by simp⟩, by simp; exact ⟨by simp, by simp⟩⟩⟩,
    ⟨⟨1, 0, .canceling, .device, leapSecond, some (-2 ^ 31), ["\x01\x7b\n"]⟩, rfl, rfl,
      entry _ ⟨by simp, by simp, by simp⟩⟩,
    ⟨⟨1, "t", "wave", "*", 1, .soft, none, none, .running, 3, 2 ^ 32 - 1, some leapSecond, none,
        leapSecond⟩, rfl, rollout _ ⟨by simp, by simp, by simp, by simp, by simp⟩⟩,
    ⟨⟨2, 1, 1, "second", .scheduled, ⟨"50%"⟩, .nextGroup, some ⟨"10"⟩, some .pause, 3, some 1⟩, rfl,
      rfl, group _ ⟨by simp, by simp, by simp, by simp, by simp⟩⟩,
    ⟨⟨.proceeding, .none, some (2 ^ 31 - 1), some ⟨1, 2⟩, ["half"]⟩, rfl, rfl,
      feedback _ ⟨by simp, by simp; exact ⟨by simp, by simp⟩⟩⟩⟩

end Texts

end DeviceUpdate
