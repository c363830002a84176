import DeviceUpdate.Proofs.Device.Validation
import DeviceUpdate.Proofs.Service.Feasibility
import DeviceUpdate.Proofs.Service.Persistence

/-! What the validators of instructions tell of them, at any two moments of a run. -/

namespace DeviceUpdate.Service

open Device (Shown Instructs instructionText Tagged DeploymentDocument)
open Validator (bytes tagOf)

variable {tenant controller : String} {id : Nat} {requested : Option Int} {now later : Instant}
  {answer answer' : Tagged DeploymentDocument}

/-- A distribution set that a tenant finds is found for good. -/
theorem set?_history (settings : Settings) (calls more : List Call) {set : Nat}
    {d : DistributionSet} (found : (history settings calls).present.set? tenant set = some d) :
    (history settings (calls ++ more)).present.set? tenant set = some d := by
  obtain ⟨stored, owner⟩ := Option.filter_eq_some_iff.mp found
  have stocks := stocks_history settings (calls ++ more) (mem_history settings calls more)
  exact Option.filter_eq_some_iff.mpr ⟨stocks.kept stored, owner⟩

/-- Instructions carry the tag of their text, in every state of every run. -/
theorem shown_text (settings : Settings) (calls : List Call)
    (shown : Shown (history settings calls).present tenant controller id requested now answer) :
    ∃ text, instructionText (history settings calls).present id answer.body = some text ∧
      answer.tag = tagOf text := by
  obtain ⟨a, d, set, rfl, -, -, instructs⟩ :=
    shown.instructs (coherent_history settings calls).indexed.own
  exact ⟨_, instructs.text⟩

/-- Instructions for one action whose tags are made of the same bytes agree but for older lines of
the history, and differ in those only if more than one is asked for, and not all of a log that has
grown in the meantime. -/
theorem instructions_validated (settings : Settings) (calls more : List Call)
    (first : Shown (history settings calls).present tenant controller id requested now answer)
    (second : Shown (history settings (calls ++ more)).present tenant controller id requested
      later answer') :
    ∃ text text',
      instructionText (history settings calls).present id answer.body = some text ∧
      instructionText (history settings (calls ++ more)).present id answer'.body = some text' ∧
      answer.tag = tagOf text ∧ answer'.tag = tagOf text' ∧
      (bytes text = bytes text' →
        answer.body.outline = answer'.body.outline ∧
          (answer.body = answer'.body ∨ ∃ n : Nat, requested = some (n : Int) ∧ 1 < n ∧
            n ≤ ((history settings calls).present.logOf id).length ∧
            ((history settings calls).present.logOf id).length <
              ((history settings (calls ++ more)).present.logOf id).length)) := by
  obtain ⟨a, d, set, rfl, -, -, instructs⟩ :=
    first.instructs (coherent_history settings calls).indexed.own
  obtain ⟨a', d', set', number, -, -, instructs'⟩ :=
    second.instructs (coherent_history settings (calls ++ more)).indexed.own
  -- The action is the same one as before, so it deploys the same set.
  have persists := persists_history settings calls more
  obtain ⟨status, active, time, kept⟩ := persists.action instructs.stored
  have moved : a' = a.moved status active time := by
    have stored := instructs'.stored
    rw [number] at stored
    exact Option.some.inj (stored.symm.trans kept)
  have deployment : d' = d := by
    have order := instructs'.order
    rw [moved, Action.moved_order, instructs.order] at order
    exact (Order.deploy.inj order).symm
  have software : set' = set := by
    have shelved := instructs'.shelved
    rw [deployment, moved, Action.moved_tenant] at shelved
    exact Option.some.inj
      (shelved.symm.trans (set?_history settings calls more instructs.shelved))
  subst deployment software
  -- Both answers carry the tag of their own text, and equal texts determine what is in them.
  refine ⟨_, _, instructs.text.1, ?_, instructs.text.2, instructs'.text.2, fun same => ?_⟩
  · rw [← number]
    exact instructs'.text.1
  · exact instructs.validated instructs' (persists.log a.id) same

/-- A run in which a device reports that it goes on. -/
def progress : List Call :=
  [⟨.epoch, .createSet "t" "a" "1" []⟩,
   ⟨.epoch, .createTarget "t" "d" .empty⟩,
   ⟨.epoch, .assign "t" "d" ⟨1, .forced, none, none, none⟩⟩,
   ⟨.epoch, .report "t" "d" 1 ⟨.proceeding, .none, none, none, []⟩ false⟩]

/-- The same report once more, in the same second. -/
def repetition : List Call :=
  [⟨.epoch, .report "t" "d" 1 ⟨.proceeding, .none, none, none, []⟩ false⟩]

/-- What holds of the instructions that a device asks for before and after the second report. -/
theorem shown_repeatedly {requested : Option Int}
    (test : DeploymentDocument → DeploymentDocument → Bool)
    (passes : ((Device.deploymentBase "t" "d" 1 requested .epoch
      (history .standard progress).present).toOption.any fun answer =>
        (Device.deploymentBase "t" "d" 1 requested .epoch
          (history .standard (progress ++ repetition)).present).toOption.any fun answer' =>
            test answer.body answer'.body) = true) :
    ∃ answer answer',
      Shown (history .standard progress).present "t" "d" 1 requested .epoch answer ∧
      Shown (history .standard (progress ++ repetition)).present "t" "d" 1 requested .epoch
        answer' ∧ test answer.body answer'.body = true := by
  -- The test is evaluated once on both answers, which exist as it has been passed.
  obtain ⟨answer, first, rest⟩ := (Option.any_eq_true _ _).mp passes
  obtain ⟨answer', second, holds⟩ := (Option.any_eq_true _ _).mp rest
  exact ⟨answer, answer', Or.inl (Result.eq_ok_of_toOption first),
    Or.inl (Result.eq_ok_of_toOption second), holds⟩

set_option maxRecDepth 10000 in
/-- Of one line that is asked for, the second report changes nothing. -/
theorem instructions_validated_progress :
    ∃ answer answer',
      Shown (history .standard progress).present "t" "d" 1 (some 1) .epoch answer ∧
      Shown (history .standard (progress ++ repetition)).present "t" "d" 1 (some 1) .epoch
        answer' ∧ answer.body = answer'.body := by
  obtain ⟨answer, answer', first, second, same⟩ := @shown_repeatedly (some 1)
    (fun body body' =>
      instructionText (history .standard progress).present 1 body ==
        instructionText (history .standard (progress ++ repetition)).present 1 body')
    (by decide +kernel)
  -- Equal texts leave only the exception of more than one message, and one was asked for.
  obtain ⟨text, text', made, made', -, -, validated⟩ :=
    instructions_validated .standard progress repetition first second
  rw [beq_iff_eq, made, made', Option.some.injEq] at same
  refine ⟨answer, answer', first, second, (validated (by rw [same])).2.resolve_right ?_⟩
  rintro ⟨n, one, several, -⟩
  have single := Option.some.inj one
  omega

set_option maxRecDepth 10000 in
/-- Of two lines that are asked for, the second report changes one behind the same tag. -/
theorem repetition_hidden :
    ∃ answer answer',
      Shown (history .standard progress).present "t" "d" 1 (some 2) .epoch answer ∧
      Shown (history .standard (progress ++ repetition)).present "t" "d" 1 (some 2) .epoch
        answer' ∧ answer.tag = answer'.tag ∧ answer.body ≠ answer'.body := by
  obtain ⟨answer, answer', first, second, holds⟩ := @shown_repeatedly (some 2)
    (fun body body' =>
      instructionText (history .standard progress).present 1 body ==
        instructionText (history .standard (progress ++ repetition)).present 1 body' &&
      body != body')
    (by decide +kernel)
  rw [Bool.and_eq_true, beq_iff_eq, bne_iff_ne] at holds
  -- Both answers have the tag of the same text.
  obtain ⟨text, made, tag⟩ := shown_text .standard progress first
  obtain ⟨text', made', tag'⟩ := shown_text .standard (progress ++ repetition) second
  have same := holds.1
  rw [made, made', Option.some.injEq] at same
  exact ⟨answer, answer', first, second, by rw [tag, tag', same], holds.2⟩

end DeviceUpdate.Service
