import DeviceUpdate.Store.Transaction

/-! Carrying transactions out: what each primitive does to the store and to what follows it. -/

namespace DeviceUpdate

namespace Store

/-- The store after the next number of a sequence is drawn. -/
def advance (s : Store) (sequence : String) : Store :=
  { s with sequences := s.sequences.insert sequence (s.nextNumber sequence) }

end Store

namespace Transaction

variable {ε α β : Type}

/-- A transaction succeeds if its first part does and the rest goes on from there. -/
theorem bind_eq_ok {t : Transaction ε α} {f : α → Transaction ε β} {s : Store} {r : β × Store} :
    (t >>= f) s = .ok r ↔ ∃ a s₁, t s = .ok (a, s₁) ∧ f a s₁ = .ok r := by
  -- The bind of transactions passes the store on, so the first part decides.
  change StateT.bind t f s = _ ↔ _
  cases first : t s with
  | error e => simp [StateT.bind, first, Bind.bind, Except.bind]
  | ok done =>
    obtain ⟨a, s₁⟩ := done
    simp [StateT.bind, first, Bind.bind, Except.bind, and_assoc]

/-- A transaction fails if its first part does, or if the rest fails where it goes on. -/
theorem bind_eq_error {t : Transaction ε α} {f : α → Transaction ε β} {s : Store} {e : ε} :
    (t >>= f) s = .error e ↔ t s = .error e ∨ ∃ a s₁, t s = .ok (a, s₁) ∧ f a s₁ = .error e := by
  -- Only the first part can fail before the rest begins.
  change StateT.bind t f s = _ ↔ _
  cases first : t s with
  | error e => simp [StateT.bind, first, Bind.bind, Except.bind]
  | ok done =>
    obtain ⟨a, s₁⟩ := done
    simp [StateT.bind, first, Bind.bind, Except.bind, and_assoc]

/-- A success leaves one store behind. -/
theorem state_eq {a b : α} {s t : Store}
    (done : (.ok (a, s) : Except ε (α × Store)) = .ok (b, t)) : s = t :=
  (Prod.mk.inj (Except.ok.inj done)).2

/-- A transaction goes on where its first part succeeds. -/
theorem bind_of_ok {t : Transaction ε α} {s s₁ : Store} {a : α} (done : t s = .ok (a, s₁))
    (f : α → Transaction ε β) : (t >>= f) s = f a s₁ := by
  change StateT.bind t f s = _
  simp [StateT.bind, done, Bind.bind, Except.bind]

/-- A transaction fails where its first part does. -/
theorem bind_of_error {t : Transaction ε α} {e : ε} {s : Store} (fails : t s = .error e)
    (f : α → Transaction ε β) : (t >>= f) s = .error e := by
  change StateT.bind t f s = _
  simp [StateT.bind, fails, Bind.bind, Except.bind]

@[simp] theorem pure_apply (a : α) (s : Store) :
    (pure a : Transaction ε α) s = .ok (a, s) := rfl

@[simp] theorem pure_bind_apply (a : α) (f : α → Transaction ε β) (s : Store) :
    ((pure a : Transaction ε α) >>= f) s = f a s := rfl

@[simp] theorem throw_apply (e : ε) (s : Store) :
    (throw e : Transaction ε α) s = .error e := rfl

@[simp] theorem throw_bind_apply (e : ε) (f : α → Transaction ε β) (s : Store) :
    ((throw e : Transaction ε α) >>= f) s = .error e := rfl

@[simp] theorem get_bind_apply (f : Store → Transaction ε β) (s : Store) :
    ((get : Transaction ε Store) >>= f) s = f s s := rfl

@[simp] theorem read_bind_apply (q : Store → α) (f : α → Transaction ε β) (s : Store) :
    ((read q : Transaction ε α) >>= f) s = f (q s) s := rfl

@[simp] theorem change_apply (c : Store → Store) (s : Store) :
    (change c : Transaction ε Unit) s = .ok ((), c s) := rfl

@[simp] theorem change_bind_apply (c : Store → Store) (f : Unit → Transaction ε β) (s : Store) :
    ((change c : Transaction ε Unit) >>= f) s = f () (c s) := rfl

@[simp] theorem draw_bind_apply (sequence : String) (f : Nat → Transaction ε β) (s : Store) :
    ((draw sequence : Transaction ε Nat) >>= f) s =
      f (s.nextNumber sequence) (s.advance sequence) := rfl

@[simp] theorem note_bind_apply (action : Nat) (status : Status) (now : Instant)
    (message : String) (f : Unit → Transaction ε β) (s : Store) :
    ((note action status now message : Transaction ε Unit) >>= f) s =
      f () (s.append ⟨action, 0, status, .system, now, none, [message]⟩) := rfl

@[simp] theorem append_bind_apply (e : LogEntry) (f : LogEntry → Transaction ε β) (s : Store) :
    ((append e : Transaction ε LogEntry) >>= f) s =
      f { e with position := s.nextPosition e.action } (s.append e) := rfl

@[simp] theorem moveRollout_apply (id : Nat) (expected : List RolloutStatus) (new : RolloutStatus)
    (s : Store) :
    (moveRollout id expected new : Transaction ε Bool) s =
      .ok (s.moveRollout id expected new) := rfl

@[simp] theorem moveRollout_bind_apply (id : Nat) (expected : List RolloutStatus)
    (new : RolloutStatus) (f : Bool → Transaction ε β) (s : Store) :
    ((moveRollout id expected new : Transaction ε Bool) >>= f) s =
      f (s.moveRollout id expected new).1 (s.moveRollout id expected new).2 := rfl

@[simp] theorem moveGroup_bind_apply (id : Nat) (expected : List GroupStatus) (new : GroupStatus)
    (f : Bool → Transaction ε β) (s : Store) :
    ((moveGroup id expected new : Transaction ε Bool) >>= f) s =
      f (s.moveGroup id expected new).1 (s.moveGroup id expected new).2 := rfl

@[simp] theorem removeRollout_apply (id : Nat) (s : Store) :
    (removeRollout id : Transaction ε Bool) s = .ok (s.removeRollout id) := rfl

/-- What needs a value goes on only if there is one. -/
theorem orElse_bind_eq_ok {o : Option α} {e : ε} {f : α → Transaction ε β} {s : Store}
    {r : β × Store} : (orElse o e >>= f) s = .ok r ↔ ∃ a, o = some a ∧ f a s = .ok r := by
  cases o <;> simp [orElse]

/-- What needs a checked value goes on only if the check accepts it. -/
theorem lift_bind_eq_ok {x : Except ε α} {f : α → Transaction ε β} {s : Store} {r : β × Store} :
    ((liftM x : Transaction ε α) >>= f) s = .ok r ↔ ∃ a, x = .ok a ∧ f a s = .ok r := by
  -- A value that is lifted touches no state, so the rest starts where the whole does.
  cases x with
  | error e =>
    change Except.error e = _ ↔ _
    simp
  | ok b =>
    change f b s = _ ↔ _
    simp

/-- What needs a checked value fails if the check refuses it, or if the rest fails. -/
theorem lift_bind_eq_error {x : Except ε α} {f : α → Transaction ε β} {s : Store} {e : ε} :
    ((liftM x : Transaction ε α) >>= f) s = .error e ↔
      x = .error e ∨ ∃ a, x = .ok a ∧ f a s = .error e := by
  -- The failure is that of the lifted value, or comes after it in the same state.
  cases x with
  | error e =>
    change Except.error e = _ ↔ _
    simp
  | ok b =>
    change f b s = _ ↔ _
    simp

/-- Seeing failures as others changes no success. -/
theorem mapError_eq_ok {ε' : Type} {g : ε → ε'} {t : Transaction ε α} {s : Store}
    {r : α × Store} : (t.mapError g) s = .ok r ↔ t s = .ok r := by
  simp only [mapError, StateT.run]
  cases t s <;> simp

/-- What is seen as another failure was a failure. -/
theorem mapError_eq_error {ε' : Type} {g : ε → ε'} {t : Transaction ε α} {s : Store} {e : ε'}
    (fails : (t.mapError g) s = .error e) : ∃ d, t s = .error d ∧ g d = e := by
  simp only [mapError, StateT.run] at fails
  -- A success is not turned into a failure.
  cases outcome : t s with
  | ok r => simp [outcome] at fails
  | error d => exact ⟨d, rfl, by simpa [outcome] using fails⟩

/-- What fails is seen as another failure. -/
theorem mapError_of_error {ε' : Type} {g : ε → ε'} {t : Transaction ε α} {s : Store} {e : ε}
    (fails : t s = .error e) : (t.mapError g) s = .error (g e) := by
  simp only [mapError, StateT.run, fails]

/-- A transaction that fails leaves the store as it was. -/
theorem run_of_error {t : Transaction ε α} {s : Store} {e : ε} (fails : t s = .error e) :
    t.run s = (.error e, s) := by
  simp only [run, StateT.run, fails]

/-- A transaction that succeeds leaves its own store behind. -/
theorem run_of_ok {t : Transaction ε α} {s s' : Store} {a : α} (done : t s = .ok (a, s')) :
    t.run s = (.ok a, s') := by
  simp only [run, StateT.run, done]

/-- A transaction that has been carried out with success has succeeded. -/
theorem eq_ok_of_run {t : Transaction ε α} {s s' : Store} {a : α}
    (carried : t.run s = (.ok a, s')) : t s = .ok (a, s') := by
  simp only [run, StateT.run] at carried
  -- A failure would have been carried out as one.
  cases done : t s with
  | error e => simp [done] at carried
  | ok r => simpa [done, Prod.ext_iff] using carried

/-- A transaction that is carried out leaves the store as it was or does what its success does. -/
theorem run_cases (t : Transaction ε α) (s : Store) :
    (t.run s).2 = s ∨ ∃ a, t s = .ok (a, (t.run s).2) := by
  cases done : t s with
  | error e => exact Or.inl (by simp [Transaction.run, StateT.run, done])
  | ok r => exact Or.inr ⟨r.1, by simp [Transaction.run, StateT.run, done]⟩

end Transaction

end DeviceUpdate
