import DeviceUpdate.Proofs.Http.Link
import DeviceUpdate.Proofs.Service.Concealment
import DeviceUpdate.Proofs.Service.Range

/-! Which of the links that devices are handed out can be followed, in every state of every run. -/

namespace DeviceUpdate.Service

open Http (IsPlain Link maxUriBytes)

/-- A target that polls is known afterwards. -/
theorem known_of_poll {s : Store} (keyed : Deployments.Keyed s) (own : TenantSettings)
    (tenant controller : String) (address : Option String) (now : Instant) :
    ((Device.poll own tenant controller address now s).2.target? tenant controller).isSome =
      true := by
  let target := Device.polled (s.target? tenant controller) tenant controller address now
  have key : target.key = Target.keyOf tenant controller := by
    -- Whether it was known or not, the target is stored under the key of its names.
    cases found : s.target? tenant controller with
    | none => simp only [target, found]; rfl
    | some t =>
      have same := keyed found
      simp only [target, found]
      exact same
  -- The note is stored under the key of the target that polls.
  change ((s.putTarget target).target? tenant controller).isSome = true
  rw [Store.target?, Store.putTarget, Table.get?_insert, if_pos key.symm]
  rfl

end DeviceUpdate.Service
