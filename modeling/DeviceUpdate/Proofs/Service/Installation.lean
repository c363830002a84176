import DeviceUpdate.Proofs.Deployment.Installation
import DeviceUpdate.Proofs.Service.Polling
import DeviceUpdate.Proofs.Service.Settlement

/-! What polls tell of installed deployments, in every state of every run. -/

namespace DeviceUpdate

open Deployments (Belated Installing Keyed Named Newest Spares Still Traced)

namespace Device

/-- The answer to a poll tells of a deployment exactly if something is installed on the target, and
it is the newest one that has finished. -/
structure Recounts (s : Store) (tenant controller : String) (d : PollDocument) : Prop where
  present : d.installedBase.isSome = true ↔
    ∃ t, s.target? tenant controller = some t ∧ t.installed.isSome = true
  linked : ∀ {path : String}, d.installedBase = some path →
    ∃ a, Newest s (Target.keyOf tenant controller) a ∧
      path = basePath tenant controller ++ "/installedBase/" ++ Text.decimal a.id

/-- The answer to a poll tells of what the target lists as installed. -/
theorem pollDocument_recounts {s : Store} (indexed : Deployments.Indexed s) (traced : Traced s)
    (target : Target) (tenant controller : String) (current cancel : Option Action) (sleep : Span) :
    Recounts s tenant controller (pollDocument target tenant controller current cancel
      (installed? (s.actionsOf tenant controller)) sleep) where
  present := by
    -- Something is listed where a deployment has finished, which is where a set is installed.
    rw [pollDocument, Option.isSome_map, installed?_isSome indexed, ← traced]
    simp [Deployments.installedUnder, Store.target?, Option.isSome_bind, Option.any_eq_true]
  linked := by
    intro path here
    obtain ⟨a, found, rfl⟩ := Option.map_eq_some_iff.mp here
    refine ⟨a, (installed?_eq_some indexed).mp found, ?_⟩
    rw [show "/installedBase/" = "/" ++ "installedBase" ++ "/" from rfl]
    simp only [String.append_assoc]

end Device

namespace Service

section Calls

variable {settings : Settings} {started : Nat → Prop} {s s' : Store} {h : History} {c : Call}

/-- A run of steps that ends no action installs nothing. -/
theorem Steps.still (steps : Steps settings s s') (coherent : Coherent started s)
    (keyed : Keyed s) (spares : Spares s s') : Still s s' := by
  refine Steps.relates (fun _ => .of_eq rfl rfl) Still.trans ?_ ?_ steps coherent keyed spares
  · intro s s' step coherent keyed spares
    exact (step.installing coherent.indexed coherent.paired keyed).still_of_spares spares
  · exact fun step => .of_eq step.frame.actions step.frame.targets

/-- Every call installs one set at most, by a deployment that finishes. -/
theorem Call.installing (c : Call) (coherent : Coherent started h.present)
    (keyed : Keyed h.present) : Installing h.present (h.next settings c).present := by
  have deed : Deed settings h c (c.apply settings h) := c.deed h coherent
  -- A call ends no deployment, takes one step that may, or refuses a cancellation.
  rcases deed.ends coherent with spares | step | ⟨cancel, subject, -, resumption⟩
  · refine .still ?_
    cases deed.effect coherent with
    | steps steps => exact steps.still coherent keyed spares
    | resumed cancel subject own resumption => exact resumption.still coherent.paired
    | started id start => exact .of_eq start.frame.actions start.frame.targets
    | failed id failure => exact .of_eq failure.frame.actions failure.frame.targets
  · exact step.installing coherent.indexed coherent.paired keyed
  · exact .still (resumption.still coherent.paired)

end Calls

section Runs

variable (settings : Settings)

/-- In every run, something is installed exactly where a deployment has finished. -/
theorem traced_history (calls : List Call) : Traced (history settings calls).present := by
  induction calls using List.reverseRecOn with
  | nil => exact Deployments.traced_empty
  | append_singleton calls c ih =>
    rw [history_concat]
    have coherent := coherent_history settings calls
    exact (c.installing coherent (keyed_history settings calls)).traced coherent.paired ih

/-- A poll tells of a deployment exactly if something is installed, and that deployment has finished
for the target. It is of the set that is installed as long as none finishes after a newer one. -/
theorem installed_named_iff_none_belated (calls : List Call) :
    (∀ (tenant controller : String) (address : Option String) (now : Instant),
      let s := (history settings calls).present
      let polled := Device.poll (settings.tenant tenant) tenant controller address now s
      (∃ answer, polled.1 = .ok answer ∧
        Device.Recounts polled.2 tenant controller answer.body) ∨
      polled.1 = .error (.deploy .outOfCalendar) ∧
        ∃ a ∈ s.actionsOf tenant controller, a.isInFlight = true ∧ ∃ d w,
          a.deployment? = some d ∧ d.policy = .ok (.within w) ∧
            w.start now = .error .outOfCalendar) ∧
    ((∀ before, before <+: calls → Named (history settings before).present) ↔
      ∀ before c, before ++ [c] <+: calls →
        ¬ Belated (history settings before).present (history settings (before ++ [c])).present) := by
  -- Each call installs nothing, or finishes one deployment.
  have installing (before : List Call) (c : Call) :
      Installing (history settings before).present (history settings (before ++ [c])).present := by
    rw [history_concat]
    exact c.installing (coherent_history settings before) (keyed_history settings before)
  have paired (before : List Call) := (coherent_history settings before).paired
  refine ⟨fun tenant controller address now => ?_, ?_, ?_⟩
  · -- The note of the poll is one more call, after which it is answered.
    let noted := calls ++ [⟨now, .poll tenant controller address⟩]
    have indexed := (coherent_history settings noted).indexed
    have traced := traced_history settings noted
    have legible := legible_history settings noted
    rw [history_concat] at indexed traced legible
    refine (Device.answerPoll_legible indexed legible (settings.tenant tenant) _ tenant controller
      now).imp_left ?_
    rintro ⟨answer, sleep, answered, body⟩
    refine ⟨answer, answered, ?_⟩
    rw [body]
    exact Device.pollDocument_recounts indexed traced _ tenant controller _ _ sleep
  · intro named before c initial belated
    exact (installing before c).belated (paired before) belated (named (before ++ [c]) initial)
  -- Where no deployment finishes late, every call keeps the names that the one before it has left.
  -- A call that has a late finish in it would take the name away.
  · intro timely before
    induction before using List.reverseRecOn with
    | nil => exact fun _ => Deployments.named_empty
    | append_singleton before c ih =>
      intro initial
      exact (installing before c).named (paired before)
        (ih ((List.prefix_append before [c]).trans initial)) (timely before c initial)

end Runs

/-- A run in which a deployment finishes after the newer one that was to replace it. -/
def lateFinish : List Call :=
  [⟨.epoch, .createSet "t" "a" "1" []⟩,
   ⟨.epoch, .createSet "t" "b" "1" []⟩,
   ⟨.epoch, .createTarget "t" "d" .empty⟩,
   ⟨.epoch, .assign "t" "d" ⟨1, .forced, none, none, none⟩⟩,
   ⟨.epoch, .assign "t" "d" ⟨2, .forced, none, none, none⟩⟩,
   ⟨.epoch, .report "t" "d" 3 ⟨.closed, .success, none, none, []⟩ false⟩,
   ⟨.epoch, .report "t" "d" 1 ⟨.closed, .success, none, none, []⟩ false⟩]

/-- A poll can tell of the deployment of one set while another one is installed. -/
theorem lateFinish_misnamed :
    let polled := Device.poll (Settings.standard.tenant "t") "t" "d" none .epoch
      (history .standard lateFinish).present
    (polled.1.toOption.bind (·.body.installedBase) = some "/t/controller/v1/d/installedBase/3" ∧
      (polled.2.target? "t" "d").bind (·.installed) = some 1 ∧
      (polled.2.actions.get? 3).bind Action.set? = some 2) ∧
    ¬ Named (history .standard lateFinish).present := by
  refine ⟨by decide +kernel, fun named => ?_⟩
  have listed : (Device.installed? ((history .standard lateFinish).present.actionsOf "t" "d")).any
      (fun a => a.set? == some 2) = true := by
    decide +kernel
  -- The deployment of the second set is the newest, and the first set is installed.
  obtain ⟨a, found, set⟩ := (Option.any_eq_true _ _).mp listed
  have indexed := (coherent_history .standard lateFinish).indexed
  have same := named ((Device.installed?_eq_some indexed).mp found)
  have installed : Deployments.installedUnder (history .standard lateFinish).present
      (Target.keyOf "t" "d") = some 1 := by
    decide +kernel
  rw [installed, beq_iff_eq.mp set] at same
  cases same

end Service

end DeviceUpdate
