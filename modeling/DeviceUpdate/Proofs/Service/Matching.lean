import DeviceUpdate.Proofs.Service.Coherence

/-! Cancellations match the deployments that they cancel, in every state of every run. -/

namespace DeviceUpdate

namespace Deployments

/-- Deployments that are being cancelled and active cancellations match one to one. -/
structure Matched (s : Store) : Prop where
  /-- A deployment is being cancelled exactly if one active action, and one only, cancels it. -/
  canceling : ∀ {id : Nat} {a : Action}, s.actions.get? id = some a → a.isCancel = false →
    (a.status = .canceling ↔ ∃! number, ∃ cancel, s.actions.get? number = some cancel ∧
      cancel.active = true ∧ cancel.cancels? = some id)
  /-- An active action cancels an active deployment to the same target. -/
  subject : ∀ {number id : Nat} {cancel : Action}, s.actions.get? number = some cancel →
    cancel.active = true → cancel.cancels? = some id →
    ∃ a, s.actions.get? id = some a ∧ a.isCancel = false ∧ a.active = true ∧
      a.status = .canceling ∧ a.tenant = cancel.tenant ∧ a.controller = cancel.controller
  /-- The status tells whether an action is active. -/
  ended : ∀ {id : Nat} {a : Action}, s.actions.get? id = some a →
    (a.active = false ↔ a.status = .finished ∨ a.status = .error ∨ a.status = .canceled ∨
      a.status = .cancelRejected)

section Matching

variable {s : Store}

/-- What an action names as cancelled is what it was ordered to cancel. -/
theorem cancels?_eq_some {a : Action} {id : Nat} :
    a.cancels? = some id ↔ a.order = .cancel id := by
  cases order : a.order <;> simp [Action.cancels?, order]

/-- The stored actions that are active and cancel an action, as they are found under numbers. -/
theorem Indexed.cancels_iff (indexed : Indexed s) {number id : Nat} {cancel : Action} :
    (s.actions.get? number = some cancel ∧ cancel.active = true ∧ cancel.cancels? = some id) ↔
      cancel.id = number ∧ Cancels s cancel id := by
  constructor
  -- Actions are stored under their own numbers.
  · rintro ⟨found, active, names⟩
    have own := indexed.own found
    subst own
    exact ⟨rfl, found, active, cancels?_eq_some.mp names⟩
  · rintro ⟨rfl, cancels⟩
    exact ⟨cancels.stored, cancels.active, cancels?_eq_some.mpr cancels.names⟩

/-- Actions in pairs match one to one. -/
theorem Paired.matched (paired : Paired s) (indexed : Indexed s) : Matched s where
  canceling := by
    intro id a found deploys
    have own := indexed.own found
    subst own
    simp only [indexed.cancels_iff]
    constructor
    · intro canceling
      obtain ⟨cancel, cancels⟩ := paired.cancel found deploys canceling
      refine ⟨cancel.id, ⟨cancel, rfl, cancels⟩, ?_⟩
      -- Another cancellation of the same deployment would be the same action.
      rintro number ⟨other, rfl, also⟩
      exact paired.unique also cancels
    -- Whatever is cancelled is being cancelled.
    · rintro ⟨number, ⟨cancel, -, cancels⟩, -⟩
      obtain ⟨b, same, pending, -⟩ := paired.subject cancels
      have equal := stored_unique pending.subjectStored found same
      subst equal
      exact pending.canceling
  subject := by
    -- The subject of an active cancellation is the one that it is paired with.
    intro number id cancel found active names
    obtain ⟨-, cancels⟩ := indexed.cancels_iff.mp ⟨found, active, names⟩
    obtain ⟨a, rfl, pending, owners⟩ := paired.subject cancels
    exact ⟨a, pending.subjectStored, pending.deploys, pending.subjectActive, pending.canceling,
      owners⟩
  ended := by
    intro id a found
    have own := indexed.own found
    subst own
    simpa [Status.ends] using paired.ended found

end Matching

end Deployments

namespace Service

/-- Deployments that are being cancelled and active cancellations match in every reachable state. -/
theorem cancellations_matched (settings : Settings) (calls : List Call) :
    Deployments.Matched (history settings calls).present :=
  (coherent_history settings calls).paired.matched (coherent_history settings calls).indexed

end Service

end DeviceUpdate
