import DeviceUpdate.Proofs.Store.Execution
import DeviceUpdate.Proofs.Table
import DeviceUpdate.Proofs.Service.Run

/-! What a device learns of actions that are not its own: as much as of those that do not exist. -/

namespace DeviceUpdate

/-- The store without an action, without the rows that list it and without its log. -/
def Store.without (s : Store) (id : Nat) : Store :=
  { s with
    actions := s.actions.erase id
    targetActions := s.targetActions.filter fun row _ => row.2 != id
    log := s.log.filter fun row _ => row.1 != id
    groupActions := s.groupActions.filter fun row _ => row.2 != id }

namespace Device

/-- An action that is not addressed to a device, or is of the other kind. -/
def Foreign (tenant controller : String) (cancel : Bool) (a : Action) : Prop :=
  a.tenant ≠ tenant ∨ a.controller ≠ controller ∨ a.isCancel ≠ cancel

/-- For a device and a number, requests come to the same whether the action is there or not. -/
structure Conceals (settings : TenantSettings) (s : Store) (tenant controller : String)
    (id : Nat) (a : Action) : Prop where
  deploymentBase : Foreign tenant controller false a → ∀ requested now,
    deploymentBase tenant controller id requested now s =
      deploymentBase tenant controller id requested now (s.without id)
  installedBase : Foreign tenant controller false a → ∀ requested now,
    installedBase tenant controller id requested now s =
      installedBase tenant controller id requested now (s.without id)
  cancelAction : Foreign tenant controller true a →
    cancelAction tenant controller id s = cancelAction tenant controller id (s.without id)
  /-- A report is answered in the same way, and neither store changes. -/
  report : ∀ f cancel now, Foreign tenant controller cancel a → ∃ result,
    (report settings tenant controller id f cancel now).run s = (result, s) ∧
      (report settings tenant controller id f cancel now).run (s.without id) = (result, s.without id)

section Lookup

variable {s : Store} {tenant controller : String} {id : Nat} {cancel : Bool} {a : Action}

/-- The action of a number, as far as a device may see it. -/
def seen? (s : Store) (tenant controller : String) (id : Nat) (cancel : Bool) : Option Action :=
  (s.action? tenant id).filter fun a => a.controller == controller && a.isCancel == cancel

/-- A foreign action is not seen. -/
theorem seen?_foreign (found : s.actions.get? id = some a)
    (foreign : Foreign tenant controller cancel a) : seen? s tenant controller id cancel = none := by
  rw [seen?, Option.filter_eq_none_iff]
  intro b here
  -- What is found for the tenant is the stored action, with the right tenant.
  obtain ⟨stored, owner⟩ := Option.filter_eq_some_iff.mp here
  have same : b = a := Option.some.inj (stored.symm.trans found)
  subst same
  have owner : b.tenant = tenant := by simpa using owner
  rcases foreign with other | other | other <;> simp [owner, other] at *

/-- An action that has been removed is not seen. -/
theorem seen?_without (s : Store) (tenant controller : String) (id : Nat) (cancel : Bool) :
    seen? (s.without id) tenant controller id cancel = none := by
  simp [seen?, Store.action?, Store.without, Table.get?_erase]

/-- Without seeing its action, a device is refused before anything is read or written. -/
theorem actionOf_unseen (unseen : seen? s tenant controller id cancel = none) :
    actionOf s tenant controller id cancel = .error
      (if (s.target? tenant controller).isNone then .targetNotFound controller
        else .actionNotFound id) := by
  unfold seen? at unseen
  -- The target is looked for first, and the action after it.
  by_cases missing : (s.target? tenant controller).isNone = true
  · simp only [actionOf, if_pos missing]
    rfl
  · simp only [actionOf, if_neg missing, unseen]
    rfl

/-- Without seeing its action, a device has its report refused. -/
theorem report_unseen (settings : TenantSettings) (f : Feedback) (now : Instant)
    (unseen : seen? s tenant controller id cancel = none) :
    report settings tenant controller id f cancel now s = .error
      (if (s.target? tenant controller).isNone then .targetNotFound controller
        else .deploy (if settings.maxMessages < f.messages.length then
          .tooManyMessages f.messages.length settings.maxMessages else .actionNotFound id)) := by
  unfold seen? at unseen
  -- An unknown target is told before anything else.
  by_cases missing : (s.target? tenant controller).isNone = true
  · simp only [report, Transaction.read_bind_apply, if_pos missing, Transaction.throw_bind_apply]
  · simp only [report, Transaction.read_bind_apply, if_neg missing]
    refine Transaction.mapError_of_error ?_
    -- The number of messages is checked without a look at the action.
    by_cases long : settings.maxMessages < f.messages.length
    · simp only [Deployments.report, if_pos long, Transaction.throw_bind_apply]
    · simp only [Deployments.report, if_neg long]
      simp only [Deployments.reportIn, Transaction.read_bind_apply, unseen, Transaction.orElse,
        Transaction.throw_bind_apply]

/-- An action that a device does not see might as well not be there. -/
theorem conceals (settings : TenantSettings) (tenant controller : String)
    (found : s.actions.get? id = some a) : Conceals settings s tenant controller id a where
  -- All five look the action up in the same way, and do not find it in either store.
  deploymentBase foreign requested now := by
    simp only [deploymentBase, actionOf_unseen (seen?_foreign found foreign),
      actionOf_unseen (seen?_without s tenant controller id false)]
    rfl
  installedBase foreign requested now := by
    simp only [installedBase, actionOf_unseen (seen?_foreign found foreign),
      actionOf_unseen (seen?_without s tenant controller id false)]
    rfl
  cancelAction foreign := by
    simp only [cancelAction, actionOf_unseen (seen?_foreign found foreign),
      actionOf_unseen (seen?_without s tenant controller id true)]
    rfl
  report f cancel now foreign :=
    ⟨_, Transaction.run_of_error (report_unseen settings f now (seen?_foreign found foreign)),
      Transaction.run_of_error
        (report_unseen settings f now (seen?_without s tenant controller id cancel))⟩

end Lookup

end Device

namespace Service

/-- In every reachable state, a device cannot tell a foreign action from one that does not exist. -/
theorem foreign_concealed (settings : Settings) (calls : List Call) (tenant controller : String)
    {id : Nat} {a : Action} (found : (history settings calls).present.actions.get? id = some a) :
    Device.Conceals (settings.tenant tenant) (history settings calls).present tenant controller id
      a :=
  Device.conceals (settings.tenant tenant) tenant controller found

/-- A run in which a set is assigned to one of two devices. -/
def neighbours : List Call :=
  [⟨.epoch, .createSet "t" "a" "1" []⟩,
   ⟨.epoch, .createTarget "t" "d" .empty⟩,
   ⟨.epoch, .createTarget "t" "e" .empty⟩,
   ⟨.epoch, .assign "t" "d" ⟨1, .forced, none, none, none⟩⟩]

/-- The deployment to the one device is concealed from the other. -/
theorem foreign_concealed_neighbours :
    ((history .standard neighbours).present.target? "t" "e").isSome = true ∧
      ∃ a, (history .standard neighbours).present.actions.get? 1 = some a ∧
        Device.Foreign "t" "e" false a ∧
        Device.Conceals (Settings.standard.tenant "t") (history .standard neighbours).present "t" "e"
          1 a := by
  have deployed : ((history .standard neighbours).present.actions.get? 1).any
      (fun a => a.controller == "d") = true := by
    decide +kernel
  obtain ⟨a, found, own⟩ := (Option.any_eq_true _ _).mp deployed
  have other : a.controller ≠ "e" := by
    rw [beq_iff_eq.mp own]
    decide
  exact ⟨by decide +kernel, a, found, Or.inr (Or.inl other),
    foreign_concealed .standard neighbours "t" "e" found⟩

end Service

end DeviceUpdate
