import DeviceUpdate.Text.Numeral

/-! Taking computations apart: what they come to if they succeed, and where they fail. -/

namespace DeviceUpdate.Result

open Text (Overrun Unread)

variable {ε δ α β : Type} {a : α} {e' : δ}

/-- What follows a successful computation follows from its result. -/
theorem bind_eq_ok {e : Except ε α} {f : α → Except ε β} {b : β} :
    (e >>= f) = .ok b ↔ ∃ a, e = .ok a ∧ f a = .ok b := by
  cases e <;> simp [bind, Except.bind]

/-- What follows a computation fails where the computation does, or after its result. -/
theorem bind_eq_error {e : Except ε α} {f : α → Except ε β} {fault : ε} :
    (e >>= f) = .error fault ↔ e = .error fault ∨ ∃ a, e = .ok a ∧ f a = .error fault := by
  cases e <;> simp [bind, Except.bind]

/-- What is made of a result is made of a successful one. -/
theorem map_eq_ok {e : Except ε α} {f : α → β} {b : β} :
    e.map f = .ok b ↔ ∃ a, e = .ok a ∧ f a = b := by
  cases e <;> simp [Except.map]

/-- What is made of a result changes no error. -/
theorem map_eq_error {e : Except ε α} {f : α → β} {fault : ε} :
    e.map f = .error fault ↔ e = .error fault := by
  cases e <;> simp [Except.map]

/-- What is told in another way of an error changes no result. -/
theorem mapError_eq_ok {e : Except ε α} {f : ε → δ} : e.mapError f = .ok a ↔ e = .ok a := by
  cases e with
  | error fault => exact iff_of_false nofun nofun
  | ok b =>
    change Except.ok b = .ok a ↔ _
    simp

theorem mapError_eq_error {e : Except ε α} {f : ε → δ} :
    e.mapError f = .error e' ↔ ∃ fault, e = .error fault ∧ f fault = e' := by
  cases e with
  | error fault =>
    change Except.error (f fault) = .error e' ↔ _
    simp
  | ok b => exact iff_of_false nofun nofun

theorem ofOverrun_eq_ok {e : Except Overrun α} :
    (Unread.ofOverrun e : Except (Unread ε) α) = .ok a ↔ e = .ok a := by
  cases e <;> simp [Unread.ofOverrun]

/-- Nothing but an overrun comes of an overrun. -/
theorem ofOverrun_eq_error {e : Except Overrun α} {end' : Unread ε} :
    Unread.ofOverrun e = .error end' ↔ e = .error .overrun ∧ end' = .overrun := by
  rcases e with ⟨⟩ | a <;> simp [Unread.ofOverrun, eq_comm]

theorem map_eq_overrun {end' : Unread ε} {f : ε → δ} : end'.map f = .overrun ↔ end' = .overrun := by
  cases end' <;> simp [Unread.map]

/-- A result is what is left where the error would be forgotten. -/
theorem eq_ok_of_toOption {e : Except ε α} {a : α} (left : e.toOption = some a) :
    e = .ok a := by
  cases e with
  | error e => cases left
  | ok b => rw [Option.some.inj left]

end DeviceUpdate.Result
