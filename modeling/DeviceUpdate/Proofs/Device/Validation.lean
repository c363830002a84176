import DeviceUpdate.Proofs.Device.Instruction
import DeviceUpdate.Proofs.Device.Validator

/-! What the validator of a document tells of its body. -/

namespace DeviceUpdate.Device

open Validator (Value bytes input input_inj bytes_inj tagOf)

section Values

/-- Absent and present numbers are told apart. -/
theorem ofNumber?_inj {m n : Option Nat} (same : Value.ofNumber? m = Value.ofNumber? n) :
    m = n := by
  cases m <;> cases n <;> simp_all [Value.ofNumber?]

/-- Links to actions depend on their numbers alone. -/
theorem map_congr_of_ids {α : Type} {a b : Option Action} (text : Nat → α)
    (same : a.map (·.id) = b.map (·.id)) :
    (a.map fun a => text a.id) = b.map fun a => text a.id := by
  have factors (a : Option Action) : (a.map fun a => text a.id) = (a.map (·.id)).map text := by
    rw [Option.map_map]
    rfl
  rw [factors a, factors b, same]

end Values

section Polls

/-- What an answer to a poll is made of. -/
structure PollBasis where
  target : Target
  current : Option Action
  cancel : Option Action
  installed : Option Action
  sleep : Span

namespace PollBasis

/-- The answer to a poll that is made of this. -/
def body (b : PollBasis) (tenant controller : String) : PollDocument :=
  pollDocument b.target tenant controller b.current b.cancel b.installed b.sleep

/-- The text from which the tag of the answer is made. -/
def text (b : PollBasis) : List Char :=
  input "poll" (pollParts b.target b.current b.cancel b.installed b.sleep)

/-- Answers whose tags are made of the same text are the same. -/
theorem body_eq {b c : PollBasis} (same : b.text = c.text) (tenant controller : String) :
    b.body tenant controller = c.body tenant controller := by
  -- The two answers name their parts alike, so the values are compared part by part.
  have names : (pollParts b.target b.current b.cancel b.installed b.sleep).map Prod.fst =
      (pollParts c.target c.current c.cancel c.installed c.sleep).map Prod.fst := rfl
  have parts := input_inj "poll" names same
  simp only [pollParts, List.cons.injEq, Prod.mk.injEq, true_and, and_true] at parts
  obtain ⟨-, -, current, cancel, installed, wants, sleep⟩ := parts
  -- An action that is told of with its status is told of with its number.
  have current : b.current.map (·.id) = c.current.map (·.id) := by
    cases here : b.current <;> cases there : c.current <;> simp_all [Value.withStatus]
  have cancel : b.cancel.map (·.id) = c.cancel.map (·.id) := by
    cases here : b.cancel <;> cases there : c.cancel <;> simp_all [Value.withStatus]
  have wants : b.target.wantsAttributes = c.target.wantsAttributes := Value.flag.inj wants
  have sleep : b.sleep.clock = c.sleep.clock := by
    rw [Span.clock, Span.clock, Value.number.inj sleep]
  have link (name : String) {a b : Option Action} (same : a.map (·.id) = b.map (·.id)) :=
    map_congr_of_ids
      (fun id => basePath tenant controller ++ "/" ++ name ++ "/" ++ Text.decimal id) same
  simp only [body, pollDocument, wants, sleep, PollDocument.mk.injEq, true_and]
  exact ⟨link "deploymentBase" current, link "cancelAction" cancel,
    link "installedBase" (ofNumber?_inj installed)⟩

end PollBasis

/-- What the answer to a poll is made of, after the poll has been noted. -/
def pollBasis (settings : TenantSettings) (tenant controller : String) (address : Option String)
    (now : Instant) (s : Store) : Except Error PollBasis :=
  let ((target, _), s) := touch s tenant controller address now
  let actions := s.actionsOf tenant controller
  let current := current? settings.multiAssignments actions
  (timeToSleep settings current now).map
    (⟨target, current, pendingCancel? actions, installed? actions, ·⟩)

variable {settings other : TenantSettings} {tenant controller : String}
  {address further : Option String} {now later : Instant} {s s' : Store}

/-- A poll is answered with what its basis says, and with the tag of the text of the basis. -/
theorem poll_eq : (poll settings tenant controller address now s).1 =
    (pollBasis settings tenant controller address now s).map fun b =>
      ⟨b.body tenant controller, tagOf b.text⟩ := by
  simp only [poll, answerPoll, pollBasis]
  generalize timeToSleep settings _ now = sleep
  cases sleep <;> rfl

/-- Two polls whose tags are made of the same bytes are answered in the same way. -/
theorem polls_validated {answer answer' : Tagged PollDocument}
    (first : (poll settings tenant controller address now s).1 = .ok answer)
    (second : (poll other tenant controller further later s').1 = .ok answer') :
    ∃ b c, pollBasis settings tenant controller address now s = .ok b ∧
      pollBasis other tenant controller further later s' = .ok c ∧
      answer.tag = tagOf b.text ∧ answer'.tag = tagOf c.text ∧
      (bytes b.text = bytes c.text → answer.body = answer'.body) := by
  rw [poll_eq] at first second
  obtain ⟨b, basis, made⟩ := Result.map_eq_ok.mp first
  obtain ⟨c, basis', made'⟩ := Result.map_eq_ok.mp second
  refine ⟨b, c, basis, basis', by rw [← made], by rw [← made'], fun same => ?_⟩
  rw [← made, ← made']
  exact PollBasis.body_eq (bytes_inj same) tenant controller

/-- A device without a deployment is answered in the same way a day later, from another address and
by a server that has been set up anew. -/
theorem polls_validated_idle :
    ∃ answer answer',
      (poll .standard "t" "d" none .epoch .empty).1 = .ok answer ∧
      (poll { TenantSettings.standard with multiAssignments := true } "t" "d" (some "10.0.0.1")
        ⟨86400, 5, by decide, by decide, by decide +kernel⟩
        (poll .standard "t" "d" none .epoch .empty).2).1 = .ok answer' ∧
      answer.body = answer'.body := by
  have first := @poll_eq .standard "t" "d" none .epoch .empty
  have second := @poll_eq { TenantSettings.standard with multiAssignments := true } "t" "d"
    (some "10.0.0.1") ⟨86400, 5, by decide, by decide, by decide +kernel⟩
    (poll .standard "t" "d" none .epoch .empty).2
  obtain ⟨b, c, basis, basis', -, -, validated⟩ := polls_validated first second
  refine ⟨_, _, first, second, validated ?_⟩
  rw [← Except.ok.inj basis, ← Except.ok.inj basis']
  exact congrArg bytes (by decide +kernel)

end Polls

section Instructions

/-- The instructions with all lines of the history but the newest left blank. -/
def DeploymentDocument.outline (d : DeploymentDocument) : DeploymentDocument :=
  { d with
    history := d.history.map fun h =>
      ⟨h.status, h.messages.head?.toList ++ List.replicate (h.messages.length - 1) ""⟩ }

/-- The text from which the tag of the instructions of a deployment is made. -/
def instructionText (s : Store) (id : Nat) (body : DeploymentDocument) : Option (List Char) := do
  let a ← s.actions.get? id
  let d ← a.deployment?
  let set ← s.set? a.tenant d.distributionSet
  pure (input "deployment" (deploymentParts a set body))

variable {s s' : Store} {a a' : Action} {d : Deployment} {set set' : DistributionSet}
  {body body' : DeploymentDocument} {requested : Option Int} {now later : Instant}
  {answer : Tagged DeploymentDocument}

/-- The tag of instructions is made of their text. -/
theorem Instructs.text (instructs : Instructs s a d set requested now answer) :
    instructionText s a.id answer.body =
        some (input "deployment" (deploymentParts a set answer.body)) ∧
      answer.tag = tagOf (input "deployment" (deploymentParts a set answer.body)) := by
  have deploys : a.deployment? = some d := by simp [Action.deployment?, instructs.order]
  exact ⟨by simp [instructionText, instructs.stored, deploys, instructs.shelved], instructs.tag⟩

/-- What the text of a tag tells of the instructions that it is made for. -/
structure Agree (a a' : Action) (set set' : DistributionSet) (body body' : DeploymentDocument) :
    Prop where
  id : a.id = a'.id
  status : a.status = a'.status
  set : set.id = set'.id
  download : body.download = body'.download
  update : body.update = body'.update
  window : body.window = body'.window
  length : body.history.map (·.messages.length) = body'.history.map (·.messages.length)
  newest : body.history.bind (·.messages.head?) = body'.history.bind (·.messages.head?)

/-- Tags that are made of the same text are made for instructions that agree. -/
theorem agree_of_text (same : input "deployment" (deploymentParts a set body) =
    input "deployment" (deploymentParts a' set' body')) : Agree a a' set set' body body' := by
  have names : (deploymentParts a set body).map Prod.fst =
      (deploymentParts a' set' body').map Prod.fst := rfl
  have parts := input_inj "deployment" names same
  simp only [deploymentParts, Value.withStatus, List.cons.injEq, Prod.mk.injEq, Value.tuple.injEq,
    Value.number.injEq, Value.status.injEq, Value.directive.injEq, Value.text.injEq, true_and,
    and_true] at parts
  obtain ⟨⟨id, status⟩, ⟨set, -⟩, ⟨download, update, window⟩, length, newest⟩ := parts
  refine ⟨id, status, set, download, update, ?_, ofNumber?_inj length, ?_⟩
  · cases first : body.window <;> cases second : body'.window <;> simp_all
  · generalize body.history.bind _ = first at newest ⊢
    generalize body'.history.bind _ = second at newest ⊢
    cases first <;> cases second <;> simp_all

/-- The newest lines of a log, as many as are asked for. -/
theorem history_of_limit {limit : Nat} (s : Store) (a : Action)
    (asked : historyLimit requested (s.logOf a.id).length = some limit) :
    history s a requested =
      some ⟨a.status, ((s.logOf a.id).reverse.take limit).map entryText⟩ := by
  simp only [history, asked, Option.map_some]

/-- As many lines of a longer log, with the same newest one, may still be other lines only if more
than one is asked for, and not all. -/
theorem history_eq_or (id : a.id = a'.id) (status : a.status = a'.status)
    (grows : s.logOf a.id <+: s'.logOf a.id)
    (length : (history s a requested).map (·.messages.length) =
      (history s' a' requested).map (·.messages.length))
    (newest : (history s a requested).bind (·.messages.head?) =
      (history s' a' requested).bind (·.messages.head?)) :
    history s a requested = history s' a' requested ∨
      ∃ n : Nat, requested = some (n : Int) ∧ 1 < n ∧ n ≤ (s.logOf a.id).length ∧
        (s.logOf a.id).length < (s'.logOf a.id).length := by
  rcases Nat.eq_or_lt_of_le grows.length_le with same | more
  · -- A log that is as long as before is the same log.
    left
    simp only [history, grows.eq_of_length same, ← id, status]
  cases requested with
  | none => exact Or.inl rfl
  | some n =>
    by_cases all : n = -1
    · -- All lines of a longer log are more lines.
      subst all
      have limit (l : Nat) : historyLimit (some (-1)) l = some l := rfl
      rw [history_of_limit s a (limit _), history_of_limit s' a' (limit _)] at length
      simp only [Option.map_some, List.length_map, List.length_take, List.length_reverse,
        Option.some.injEq, ← id] at length
      omega
    by_cases positive : 0 < n
    · have limit (l : Nat) : historyLimit (some n) l = some n.toNat := by
        simp [historyLimit, all, positive]
      rw [history_of_limit s a (limit _), history_of_limit s' a' (limit _)] at length newest ⊢
      simp only [Option.map_some, List.length_map, List.length_take, List.length_reverse,
        Option.some.injEq, ← id] at length
      by_cases one : n.toNat = 1
      · -- The newest line is all that there is.
        left
        simp only [one, List.take_one, Option.bind_some, ← id, status] at newest ⊢
        cases first : (s.logOf a.id).reverse.head? <;>
          cases second : (s'.logOf a.id).reverse.head? <;> simp_all
      · exact Or.inr ⟨n.toNat, by rw [Int.toNat_of_nonneg (by omega)], by omega, by omega, more⟩
    · left
      simp [history, historyLimit, all, positive]

/-- Lines as many, with the same newest one, leave the same outline. -/
theorem outline_eq (agree : Agree a a' set set' body body') (id : body.id = body'.id)
    (modules : body.modules = body'.modules)
    (status : ∀ h h', body.history = some h → body'.history = some h' → h.status = h'.status) :
    body.outline = body'.outline := by
  obtain ⟨-, -, -, download, update, window, length, newest⟩ := agree
  simp only [DeploymentDocument.outline, DeploymentDocument.mk.injEq]
  refine ⟨id, download, update, window, modules, ?_⟩
  cases first : body.history <;> cases second : body'.history <;> simp_all

/-- Instructions for the same deployment of the same set, whose tags are made of the same bytes,
agree but for older lines, and differ in those only if more than one is asked for, and not all. -/
theorem Instructs.validated {answer' : Tagged DeploymentDocument}
    (first : Instructs s a d set requested now answer)
    (second : Instructs s' a' d set requested later answer')
    (grows : s.logOf a.id <+: s'.logOf a.id)
    (same : bytes (input "deployment" (deploymentParts a set answer.body)) =
      bytes (input "deployment" (deploymentParts a' set answer'.body))) :
    answer.body.outline = answer'.body.outline ∧
      (answer.body = answer'.body ∨ ∃ n : Nat, requested = some (n : Int) ∧ 1 < n ∧
        n ≤ (s.logOf a.id).length ∧ (s.logOf a.id).length < (s'.logOf a.id).length) := by
  have agree := agree_of_text (bytes_inj same)
  -- The ids and modules are those of the deployment and the set, for both answers.
  have id : answer.body.id = answer'.body.id := by rw [first.id, second.id, agree.id]
  have modules : answer.body.modules = answer'.body.modules := by
    rw [first.modules, second.modules]
  constructor
  · refine outline_eq agree id modules fun h h' here there => ?_
    rw [first.history] at here
    rw [second.history] at there
    obtain ⟨-, -, rfl⟩ := Option.map_eq_some_iff.mp here
    obtain ⟨-, -, rfl⟩ := Option.map_eq_some_iff.mp there
    exact agree.status
  · have length := agree.length
    have newest := agree.newest
    rw [first.history, second.history] at length newest
    -- The lines agree, or the exception holds.
    refine (history_eq_or agree.id agree.status grows length newest).imp_left fun lines => ?_
    have history : answer.body.history = answer'.body.history := by
      rw [first.history, second.history, lines]
    obtain ⟨-, -, -, download, update, window, -, -⟩ := agree
    cases body : answer.body
    cases body' : answer'.body
    simp_all

end Instructions

end DeviceUpdate.Device
