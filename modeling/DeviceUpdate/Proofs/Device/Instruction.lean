import DeviceUpdate.Device.Gateway
import DeviceUpdate.Proofs.Action.Transition
import DeviceUpdate.Proofs.Result

/-! What a device is shown when it asks for the instructions of an action. -/

namespace DeviceUpdate.Device

/-- The program stops: an instant beyond the calendar was to be computed, or a number that its bits
cannot hold. -/
def Error.IsStop (e : Error) : Prop :=
  e = .deploy .outOfCalendar ∨ e = .deploy .overrun

/-- A device that asks for the instructions of an action is given these, in one way or the other. -/
def Shown (s : Store) (tenant controller : String) (id : Nat) (requested : Option Int)
    (now : Instant) (answer : Tagged DeploymentDocument) : Prop :=
  deploymentBase tenant controller id requested now s = .ok answer ∨
    installedBase tenant controller id requested now s = .ok answer

/-- The instructions of a stored deployment of a set, with their tag. -/
structure Instructs (s : Store) (a : Action) (d : Deployment) (set : DistributionSet)
    (requested : Option Int) (now : Instant) (answer : Tagged DeploymentDocument) : Prop where
  stored : s.actions.get? a.id = some a
  order : a.order = .deploy d
  shelved : s.set? a.tenant d.distributionSet = some set
  id : answer.body.id = a.id
  download : answer.body.download = d.download now
  handled : ∃ p, d.policy = .ok p ∧ d.update p now = .ok answer.body.update ∧
    p.availability now = .ok answer.body.window
  modules : answer.body.modules = set.modules
  history : answer.body.history = history s a requested
  tag : answer.tag = Validator.tag "deployment" (deploymentParts a set answer.body)

variable {s : Store} {tenant controller : String} {id : Nat} {requested : Option Int}
  {now : Instant} {answer : Tagged DeploymentDocument} {a : Action}

/-- What may leave the calendar has not done so where there is a result. -/
theorem inCalendar_eq_ok {α : Type} {e : Except OutOfCalendar α} {x : α} :
    inCalendar e = .ok x ↔ e = .ok x := by
  cases e <;> simp [inCalendar]

/-- What may outgrow its bits has not done so where there is a result. -/
theorem inBits_eq_ok {α : Type} {e : Except Text.Overrun α} {x : α} :
    inBits e = .ok x ↔ e = .ok x := by
  cases e <;> simp [inBits]

/-- An action that is found for a device is one of its target. -/
theorem actionOf_eq_ok {cancel : Bool} (found : actionOf s tenant controller id cancel = .ok a) :
    s.action? tenant id = some a ∧ a.controller = controller ∧ a.isCancel = cancel := by
  unfold actionOf at found
  -- Without a target nothing is found.
  split at found
  · cases found
  · simp only at found
    split at found
    · rename_i b here
      obtain ⟨known, own⟩ := Option.filter_eq_some_iff.mp here
      rw [← Except.ok.inj found]
      exact ⟨known, by simpa using own⟩
    · cases found

/-- The instructions of an action are those of its deployment. -/
theorem deploymentDocument_eq_ok (stored : s.actions.get? a.id = some a)
    (done : deploymentDocument s a requested now = .ok answer) :
    ∃ d set, Instructs s a d set requested now answer := by
  unfold deploymentDocument at done
  -- An order to cancel is no deployment, so there is nothing to be told of it.
  cases order : a.order with
  | cancel subject =>
    have none : a.deployment? = none := by simp [Action.deployment?, order]
    rw [none] at done
    cases done
  | deploy d =>
    have some : a.deployment? = some d := by simp [Action.deployment?, order]
    rw [some] at done
    -- A deployment is told only while the record of its distribution set is there.
    cases shelved : s.set? a.tenant d.distributionSet with
    | none =>
      simp only [shelved] at done
      cases done
    | some set =>
      simp only [shelved, Result.bind_eq_ok, inBits_eq_ok, inCalendar_eq_ok] at done
      obtain ⟨policy, limited, update, updates, window, opens, made⟩ := done
      rw [← Except.ok.inj made]
      exact ⟨d, set, stored, order, shelved, rfl, rfl, ⟨policy, limited, updates, opens⟩, rfl, rfl,
        rfl⟩

/-- A device is shown the instructions of a deployment to its own target. -/
theorem Shown.instructs (own : ∀ {id a}, s.actions.get? id = some a → a.id = id)
    (shown : Shown s tenant controller id requested now answer) :
    ∃ a d set, a.id = id ∧ a.tenant = tenant ∧ a.controller = controller ∧
      Instructs s a d set requested now answer := by
  -- Both pages look the action up in the same way and then write the same document.
  have found : ∃ a, actionOf s tenant controller id false = .ok a ∧
      deploymentDocument s a requested now = .ok answer := by
    rcases shown with base | installed
    · exact Result.bind_eq_ok.mp base
    · obtain ⟨a, found, rest⟩ := Result.bind_eq_ok.mp installed
      -- What is not installed is not shown in this way.
      split at rest
      · cases rest
      · exact ⟨a, found, rest⟩
  obtain ⟨a, found, done⟩ := found
  obtain ⟨known, device, -⟩ := actionOf_eq_ok found
  obtain ⟨stored, owner⟩ := Option.filter_eq_some_iff.mp known
  -- The action that was found is stored under the number asked for, which is its own.
  have number := own stored
  subst number
  obtain ⟨d, set, instructs⟩ := deploymentDocument_eq_ok stored done
  exact ⟨a, d, set, rfl, by simpa using owner, device, instructs⟩

end DeviceUpdate.Device
