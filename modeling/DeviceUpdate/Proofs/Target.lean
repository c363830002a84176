import DeviceUpdate.Target
import Mathlib.Data.List.TakeWhile

/-! The keys of targets, and how far they tell targets apart. -/

namespace DeviceUpdate.Target

/-- Within a tenant, a key belongs to one name. -/
theorem keyOf_inj {tenant controller other : String} :
    keyOf tenant controller = keyOf tenant other ↔ controller = other := by
  simp only [keyOf, String.append_right_inj]

/-- A target of another tenant stands where one of the tenant could stand. -/
def Collides (tenant other controller : String) : Prop :=
  other ≠ tenant ∧ ∃ name, keyOf other controller = keyOf tenant name

/-- The characters of a key, with the slash between the two parts. -/
theorem toList_keyOf (tenant controller : String) :
    (keyOf tenant controller).toList = tenant.toList ++ '/' :: controller.toList := by
  simp [keyOf]

/-- A tenant without a slash in its name. -/
def Slashless (tenant : String) : Prop :=
  '/' ∉ tenant.toList

/-- A tenant without a slash is what stands in front of the first slash of a key. -/
theorem Slashless.takeWhile_keyOf {tenant : String} (slashless : Slashless tenant)
    (controller : String) :
    (keyOf tenant controller).toList.takeWhile (· ≠ '/') = tenant.toList := by
  -- The prefix up to the first slash is the name of the tenant, which has none itself.
  rw [toList_keyOf, List.takeWhile_append_of_pos]
  · simp
  · intro c member
    simp only [decide_eq_true_eq]
    rintro rfl
    exact slashless member

/-- Targets of tenants without slashes do not collide. -/
theorem Slashless.not_collides {tenant other : String} (slashless : Slashless tenant)
    (slashlessOther : Slashless other) (controller : String) :
    ¬ Collides tenant other controller := by
  rintro ⟨apart, name, same⟩
  -- Both tenants stand in front of the first slash of the common key.
  have front := slashlessOther.takeWhile_keyOf controller
  rw [same, slashless.takeWhile_keyOf] at front
  exact apart (String.toList_inj.mp front).symm

/-- A key whose two parts have no slash is the key of no other target. -/
theorem keyOf_inj_of_slashless {tenant controller other name : String}
    (slashless : Slashless tenant) (slashlessToo : Slashless controller)
    (same : keyOf other name = keyOf tenant controller) : other = tenant ∧ name = controller := by
  -- The key has one slash, which leaves none for the parts of the other target.
  have slashes := congrArg (fun key => key.toList.count '/') same
  simp only [toList_keyOf, List.count_append, List.count_cons_self,
    List.count_eq_zero_of_not_mem slashless, List.count_eq_zero_of_not_mem slashlessToo] at slashes
  have slashlessOther : Slashless other := List.count_eq_zero.mp (by omega)
  have front := slashlessOther.takeWhile_keyOf name
  rw [same, slashless.takeWhile_keyOf] at front
  have tenants : other = tenant := (String.toList_inj.mp front).symm
  subst tenants
  exact ⟨rfl, keyOf_inj.mp same⟩

end DeviceUpdate.Target
