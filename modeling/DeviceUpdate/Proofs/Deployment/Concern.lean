import DeviceUpdate.Deployment.Administration
import DeviceUpdate.Proofs.Deployment.Division

/-! Transactions that concern one target: nothing else has a part in them, and nothing else changes. -/

namespace DeviceUpdate

open Deployments (Coincide Divided Fits)

namespace Transaction

variable {owner : Nat → Option String} {key : String} {ε α β : Type}

/-- Outcomes that a target cannot tell apart. -/
inductive Alike (owner : Nat → Option String) (key : String) :
    Except ε (α × Store) → Except ε (α × Store) → Prop
  | ok (a : α) {s u : Store} (agree : Coincide owner (· = some key) s u) :
    Alike owner key (.ok (a, s)) (.ok (a, u))
  | error (e : ε) : Alike owner key (.error e) (.error e)

/-- What is done concerns one target, and its results are as expected. -/
structure Concerns (owner : Nat → Option String) (key : String) (expected : α → Prop)
    (t : Transaction ε α) : Prop where
  /-- All other targets are left alone. -/
  keeps : ∀ ⦃s s' : Store⦄ ⦃a : α⦄, Divided owner s → t s = .ok (a, s') →
    expected a ∧ Coincide owner (· ≠ some key) s s'
  /-- Whatever the other targets are, the same is done. -/
  same : ∀ ⦃s u : Store⦄, Coincide owner (· = some key) s u → Alike owner key (t s) (t u)

namespace Concerns

variable {expected p : α → Prop} {t : Transaction ε α}

/-- A result that is expected concerns any target. -/
theorem pure {a : α} (holds : expected a) :
    Concerns owner key expected (Pure.pure a : Transaction ε α) where
  keeps := by
    rintro s s' b divided done
    obtain ⟨rfl, rfl⟩ := Prod.mk.inj (Except.ok.inj done)
    exact ⟨holds, .refl divided⟩
  same _ _ agree := .ok a agree

/-- A failure concerns any target. -/
theorem throw (e : ε) : Concerns owner key expected (MonadExcept.throw e : Transaction ε α) where
  keeps _ _ _ _ done := by cases done
  same _ _ _ := .error e

/-- What is done in two parts concerns a target if both parts do. -/
theorem bind {expected : β → Prop} {f : α → Transaction ε β} (first : Concerns owner key p t)
    (rest : ∀ a, p a → Concerns owner key expected (f a)) :
    Concerns owner key expected (t >>= f) where
  keeps := by
    intro s s' b divided done
    -- The first part leaves the store divided, so the second one may start from there.
    obtain ⟨a, between, begun, ended⟩ := Transaction.bind_eq_ok.mp done
    obtain ⟨holds, before⟩ := first.keeps divided begun
    obtain ⟨result, after⟩ := (rest a holds).keeps before.right ended
    exact ⟨result, before.trans after⟩
  same := by
    intro s u agree
    have alike := first.same agree
    generalize here : t s = x at alike
    generalize there : t u = y at alike
    -- Both parts go on from alike outcomes, or have failed already.
    cases alike with
    | ok a agree' =>
      rw [Transaction.bind_of_ok here, Transaction.bind_of_ok there]
      exact (rest a (first.keeps agree.left here).1).same agree'
    | error e =>
      rw [Transaction.bind_of_error here, Transaction.bind_of_error there]
      exact .error e

/-- A lookup concerns a target if all stores that agree on the target answer it in the same way. -/
theorem read {q : Store → α} (same : ∀ ⦃s u⦄, Coincide owner (· = some key) s u → q s = q u)
    (holds : ∀ ⦃s⦄, Divided owner s → expected (q s)) :
    Concerns owner key expected (Transaction.read q : Transaction ε α) where
  -- Reading changes nothing, and what is read depends on the own part of the store only.
  keeps := by
    rintro s s' b divided done
    obtain ⟨rfl, rfl⟩ := Prod.mk.inj (Except.ok.inj done)
    exact ⟨holds divided, .refl divided⟩
  same s u agree := by
    change Alike owner key (.ok (q s, s)) (.ok (q u, u))
    rw [same agree]
    exact .ok (q u) agree

/-- What is chosen among what a lookup finds concerns a target if the choice does. -/
theorem select {expected : β → Prop} {q : Store → Option α} {test : α → Bool} {e : ε}
    {f : α → Transaction ε β}
    (same : ∀ ⦃s u⦄, Coincide owner (· = some key) s u → (q s).filter test = (q u).filter test)
    (rest : ∀ a, (∃ s, Divided owner s ∧ (q s).filter test = some a) →
      Concerns owner key expected (f a)) :
    Concerns owner key expected
      (Transaction.read q >>= fun o => Transaction.orElse (o.filter test) e >>= f) where
  keeps := by
    -- The lookup and the choice are taken as one, since only together do they stay within the
    -- target.
    intro s s' b divided done
    simp only [Transaction.read_bind_apply, Transaction.orElse_bind_eq_ok] at done
    obtain ⟨a, found, ended⟩ := done
    exact (rest a ⟨s, divided, found⟩).keeps divided ended
  same s u agree := by
    -- The lookup itself may tell the stores apart, but what is chosen does not.
    simp only [Transaction.read_bind_apply, same agree]
    cases found : (q u).filter test with
    | none => exact .error e
    | some a => exact (rest a ⟨u, agree.right, found⟩).same agree

/-- A value that may be missing concerns any target. -/
theorem orElse (o : Option α) (e : ε) :
    Concerns owner key (fun a => o = some a) (Transaction.orElse o e : Transaction ε α) := by
  cases o with
  | none => exact .throw e
  | some a => exact .pure rfl

/-- A checked value concerns any target. -/
theorem lift (x : Except ε α) :
    Concerns owner key (fun a => x = .ok a) (liftM x : Transaction ε α) := by
  cases x with
  | error e => exact .throw e
  | ok a => exact .pure rfl

/-- What is done unless it is refused concerns a target. -/
theorem guard {c : Prop} [Decidable c] {e : ε} {f : Unit → Transaction ε α}
    (rest : Concerns owner key expected (f ())) :
    Concerns owner key expected (if c then MonadExcept.throw e >>= f else f ()) := by
  split
  · exact .bind (p := fun _ => True) (.throw e) fun _ _ => rest
  · exact rest

/-- What concerns a target does so for any results. -/
theorem mono (concerns : Concerns owner key p t) (weaker : ∀ a, p a → expected a) :
    Concerns owner key expected t where
  keeps _ _ a divided done := (concerns.keeps divided done).imp_left (weaker a)
  same := concerns.same

/-- Seeing failures as others concerns no other target. -/
theorem mapError {ε' : Type} (concerns : Concerns owner key expected t) (g : ε → ε') :
    Concerns owner key expected (t.mapError g) where
  keeps _ _ _ divided done := concerns.keeps divided (Transaction.mapError_eq_ok.mp done)
  same s u agree := by
    have alike := concerns.same agree
    -- The outcomes stay alike whatever the error is turned into.
    simp only [Transaction.mapError, StateT.run]
    generalize t s = x at alike
    generalize t u = y at alike
    cases alike with
    | ok a agree' => exact .ok a agree'
    | error e => exact .error (g e)

/-- What is done for each of some values concerns a target if it does so for every single one. -/
theorem mapM {f : β → Transaction ε α} {l : List β}
    (each : ∀ b ∈ l, Concerns owner key (fun _ => True) (f b)) :
    Concerns owner key (fun _ => True) (l.mapM f) := by
  -- The rounds of the loop are parts of one transaction, one after the other.
  induction l with
  | nil => exact .pure trivial
  | cons b rest ih =>
    rw [List.mapM_cons]
    refine .bind (each b List.mem_cons_self) fun a _ => ?_
    refine .bind (ih fun c member => each c (List.mem_cons_of_mem b member)) fun others _ => ?_
    exact .pure trivial

/-- A change of the store concerns a target if it leaves all others alone, whatever they are. -/
theorem change {c : Store → Store}
    (keeps : ∀ ⦃s⦄, Divided owner s → Coincide owner (· ≠ some key) s (c s))
    (same : ∀ ⦃s u⦄, Coincide owner (· = some key) s u → Coincide owner (· = some key) (c s) (c u)) :
    Concerns owner key (fun _ => True) (Transaction.change c : Transaction ε Unit) where
  keeps := by
    -- What the change does to other targets is nothing, and to its own it depends on nothing else.
    rintro s s' b divided done
    obtain ⟨-, rfl⟩ := Prod.mk.inj (Except.ok.inj done)
    exact ⟨trivial, keeps divided⟩
  same _ _ agree := .ok () (same agree)

/-- Storing a target concerns that target. -/
theorem putTarget {target : Target} (own : target.key = key) :
    Concerns owner key (fun _ => True)
      (Transaction.change fun s => s.putTarget target : Transaction ε Unit) :=
  .change (fun _ divided => divided.agree_putTarget own) fun _ _ agree => agree.putTarget target

/-- Storing an action concerns its target. -/
theorem putAction {a : Action} (fits : Fits owner key a) :
    Concerns owner key (fun _ => True)
      (Transaction.change fun s => s.putAction a : Transaction ε Unit) :=
  .change (fun _ divided => divided.agree_putAction fits) fun _ _ agree => agree.putAction fits

/-- A remark on an action concerns its target. -/
theorem note {action : Nat} (owned : owner action = some key) (status : Status) (now : Instant)
    (message : String) :
    Concerns owner key (fun _ => True)
      (Transaction.note action status now message : Transaction ε Unit) :=
  .change (fun _ divided => divided.agree_append owned) fun _ _ agree => agree.append owned

/-- A new entry in the log of an action concerns its target. -/
theorem append {e : LogEntry} (owned : owner e.action = some key) :
    Concerns owner key (fun _ => True) (Transaction.append e : Transaction ε LogEntry) := by
  refine .bind (p := fun _ => True) (.read (fun s u agree => ?_) fun _ _ => trivial)
    fun position _ => ?_
  · -- The position is taken behind the entries of that log.
    simp only [Store.nextPosition, agree.positions owned]
  · have change : Concerns owner key (fun _ => True)
        (Transaction.change fun s => s.append e : Transaction ε Unit) :=
      .change (fun _ divided => divided.agree_append owned) fun _ _ agree => agree.append owned
    exact .bind change fun _ _ => .pure trivial

end Concerns

end Transaction

namespace Deployments

open Transaction (Concerns)

variable {owner : Nat → Option String} {key : String} {a : Action} {now : Instant}

section Reports

/-- The target of an action of a target is that target. -/
theorem targetOf_concerns (own : a.targetKey = key) :
    Concerns owner key (fun t => t.key = key) (targetOf a) := by
  subst own
  refine .bind (p := fun o => ∀ t, o = some t → t.key = a.targetKey)
    (.read (fun s u agree => agree.target? rfl) fun s divided t found => divided.keyed found)
    fun o keyed => ?_
  exact (Concerns.orElse o _).mono keyed

/-- What else is in flight to a target concerns that target. -/
theorem othersInFlight_concerns (own : a.targetKey = key) (except : Nat) :
    Concerns (ε := DeployError) owner key (fun _ => True)
      (Transaction.read fun s => othersInFlight s a except) := by
  subst own
  refine .read (fun s u agree => ?_) fun _ _ => trivial
  rw [othersInFlight, othersInFlight, agree.actionsOf rfl]

/-- The end of a cancellation concerns its target. -/
theorem supersede_concerns (fits : Fits owner key a) (id : Nat) (now : Instant) :
    Concerns owner key (fun _ => True) (supersede id now a) := by
  have ended : Fits owner key (a.supersedeCancel now).action :=
    fits.moved .finished now fun active => by cases active
  refine .bind (.putAction ended) fun _ _ => ?_
  exact .bind (.note fits.owned _ _ _) fun _ _ => .pure trivial

/-- The end of the cancellations of a deployment concerns its target. -/
theorem onSuperseded_concerns (own : a.targetKey = key) (id : Nat) (now : Instant) :
    Concerns owner key (fun _ => True) (onSuperseded a id now) := by
  subst own
  refine .bind (p := fun pending => ∀ b ∈ pending, Fits owner a.targetKey b)
    (.read (fun s u agree => ?_) fun s divided b member => ?_) fun pending fit => ?_
  · rw [agree.actionsOf rfl]
  · -- What is pending is listed for the target.
    obtain ⟨stored, own⟩ := divided.indexed.mem_actionsOf.mp (List.mem_filter.mp member).1
    have fits := (divided.fits stored).2
    rw [own] at fits
    exact fits
  · rw [map_eq_pure_bind]
    exact .bind (.mapM fun b member => supersede_concerns (fit b member) id now)
      fun _ _ => .pure trivial

/-- The end of a deployment that is given up concerns its target. -/
theorem onConfirmed_concerns (own : a.targetKey = key) {id : Nat} (owned : owner id = some key)
    (cancel : Nat) (now : Instant) :
    Concerns owner key (fun _ => True) (onConfirmed a id cancel now) := by
  refine .bind (p := fun o => ∀ b, o = some b → Fits owner key b)
    (.read (fun s u agree => agree.action? owned a.tenant) fun s divided b found => ?_)
    fun o fit => ?_
  · -- What is stored under the number is of the target that has the number.
    obtain ⟨stored, -⟩ := Option.filter_eq_some_iff.mp found
    obtain ⟨rfl, fits⟩ := divided.fits stored
    rw [fits.owned] at owned
    exact Option.some.inj owned ▸ fits
  · cases o with
    | none => exact .pure trivial
    | some subject =>
      have fits := fit subject rfl
      dsimp only
      split
      -- What has ended on its own in the meantime is left as it is.
      · exact .pure trivial
      · have ended : Fits owner key (subject.confirmCancel now).action :=
          fits.moved .canceled now fun active => by cases active
        refine .bind (.putAction ended) fun _ _ => ?_
        refine .bind (.note owned _ _ _) fun _ _ => ?_
        refine .bind (targetOf_concerns own) fun t keyed => ?_
        refine .bind (othersInFlight_concerns fits.own id) fun others _ => ?_
        exact .bind (.putTarget keyed) fun _ _ => .pure trivial

/-- What follows from an event of an action concerns its target. -/
theorem handle_concerns (own : a.targetKey = key) (now : Instant) {e : Event}
    (owned : ∀ id cancel, e = .cancelConfirmed id cancel → owner id = some key) :
    Concerns owner key (fun _ => True) (handle a now e) := by
  -- The other actions that have a part in what follows are listed for the target or named by it.
  cases e with
  | statusChanged | cancelRequested | cancelRejected => exact .pure trivial
  | cancelSuperseded id => exact onSuperseded_concerns own id now
  | cancelConfirmed id cancel => exact onConfirmed_concerns own (owned id cancel rfl) cancel now
  | deploymentFinished id set =>
    -- The target and the other actions in flight are found for the key alone.
    have finished : Concerns owner key (fun _ => True) (onFinished a id set now) := by
      refine .bind (targetOf_concerns own) fun t keyed => ?_
      exact .bind (othersInFlight_concerns own id) fun others _ => .putTarget keyed
    exact .bind finished fun _ _ => .pure trivial
  | deploymentFailed id set =>
    have failed : Concerns owner key (fun _ => True) (onFailed a now) :=
      .bind (targetOf_concerns own) fun t keyed => .putTarget keyed
    exact .bind failed fun _ _ => .pure trivial

/-- An action fits in its place after a report. -/
theorem Fits.reported (fits : Fits owner key a) {f : Feedback} {step : Transition}
    (reported : a.report f now = .ok step) : Fits owner key step.action := by
  have active : a.active = true := Action.active_of_open (Action.open_of_reported reported)
  rcases Action.report_moved reported with stays | ⟨status, still, moved⟩
  · rw [stays]
    exact fits
  · rw [moved]
    exact fits.moved status now fun _ => active

variable {tenant controller : String}

/-- A report on an action of a target concerns that target. -/
theorem reportIn_concerns (own : TenantSettings) (id : Nat) (f : Feedback) (cancel : Bool)
    (now : Instant) :
    Concerns owner (Target.keyOf tenant controller) (fun _ => True)
      (reportIn own tenant controller id f cancel now) := by
  refine .select (fun s u agree => agree.seen rfl (fun b passes => ?_) id) fun a seen => ?_
  · simp only [Bool.and_eq_true, beq_iff_eq] at passes
    exact passes.1
  -- The action that is found is of the target, and fits in its place.
  obtain ⟨rfl, fits⟩ : a.id = id ∧ Fits owner (Target.keyOf tenant controller) a := by
    obtain ⟨s, divided, found⟩ := seen
    obtain ⟨here, passes⟩ := Option.filter_eq_some_iff.mp found
    simp only [Bool.and_eq_true, beq_iff_eq] at passes
    exact divided.fits_found here passes.1
  refine .bind (.lift _) fun _ _ => ?_
  -- What has been written so far is counted in the log of this action only.
  refine .bind (p := fun _ => True) (.read (fun s u agree => ?_) fun _ _ => trivial)
    fun written _ => ?_
  · rw [Store.countEntries, Store.countEntries, agree.logOf fits.owned]
  refine .guard (.bind (.lift _) fun step reported => ?_)
  refine .bind (.putAction (fits.reported reported)) fun _ _ => ?_
  refine .bind (.append fits.owned) fun entry _ => ?_
  -- What is told to be cancelled is what the action names, which is of the same target.
  have events : ∀ e ∈ step.events, Concerns owner (Target.keyOf tenant controller) (fun _ => True)
      (handle step.action now e) := fun e member =>
    handle_concerns (fits.reported reported).own now fun subject other same => by
      subst same
      exact fits.cancels (Action.active_of_open (Action.open_of_reported reported))
        (Action.report_confirms reported member)
  exact .bind (.mapM events) fun _ _ => .pure trivial

/-- A report concerns the target that sends it. -/
theorem report_concerns (own : TenantSettings) (id : Nat) (f : Feedback) (cancel : Bool)
    (now : Instant) :
    Concerns owner (Target.keyOf tenant controller) (fun _ => True)
      (report own tenant controller id f cancel now) :=
  Concerns.guard (f := fun _ => reportIn own tenant controller id f cancel now)
    (reportIn_concerns own id f cancel now)

/-- Attributes concern the target that sends them. -/
theorem updateAttributes_concerns (r : AttributeReport) (now : Instant) :
    Concerns owner (Target.keyOf tenant controller) (fun _ => True)
      (updateAttributes tenant controller r now) := by
  refine .bind (p := fun o => ∀ t, o = some t → t.key = Target.keyOf tenant controller)
    (.read (fun s u agree => agree.target? rfl) fun s divided t found => divided.keyed found)
    fun o keyed => ?_
  refine .bind (.orElse o _) fun t found => ?_
  exact .bind (.putTarget (keyed t found)) fun _ _ => .pure trivial

end Reports

/-- What is done is local to a target: others are left alone, and have no part in it. -/
structure Local {α : Type} (owner : Nat → Option String) (key : String) (f : Store → α × Store) :
    Prop where
  keeps : ∀ ⦃s⦄, Divided owner s → Coincide owner (· ≠ some key) s (f s).2
  same : ∀ ⦃s u⦄, Coincide owner (· = some key) s u →
    (f s).1 = (f u).1 ∧ Coincide owner (· = some key) (f s).2 (f u).2

section Locality

variable {ε α β : Type} {s : Store} {other : String}

/-- A transaction that concerns a target is local to it, whether it succeeds or not. -/
theorem Local.run {expected : α → Prop} {t : Transaction ε α}
    (concerns : Concerns owner key expected t) : Local owner key t.run where
  keeps s divided := by
    -- A failed transaction changes nothing, and a finished one only what it is about.
    cases outcome : t s with
    | error e =>
      rw [Transaction.run_of_error outcome]
      exact .refl divided
    | ok done =>
      rw [Transaction.run_of_ok outcome]
      exact (concerns.keeps divided outcome).2
  same s u agree := by
    have alike := concerns.same agree
    simp only [Transaction.run, StateT.run]
    generalize t s = x at alike
    generalize t u = y at alike
    cases alike with
    | ok a agree' => exact ⟨rfl, agree'⟩
    | error e => exact ⟨rfl, agree⟩

/-- A question is local to a target if all stores that agree on the target answer it alike. -/
theorem Local.look {q : Store → α} (same : ∀ ⦃s u⦄, Coincide owner (· = some key) s u → q s = q u) :
    Local owner key fun s => (q s, s) where
  keeps _ divided := .refl divided
  same _ _ agree := ⟨same agree, agree⟩

/-- What is local to one target comes to the same before and after what is local to another. -/
theorem Local.commute {f : Store → α × Store} {g : Store → β × Store} (first : Local owner key f)
    (second : Local owner other g) (apart : key ≠ other) (divided : Divided owner s) :
    (f (g s).2).1 = (f s).1 ∧ (g (f s).2).1 = (g s).1 ∧ (g (f s).2).2 = (f (g s).2).2 := by
  have left := first.keeps divided
  have right := second.keeps divided
  -- Neither finds anything changed that it is about.
  have unseen : Coincide owner (· = some key) s (g s).2 :=
    right.mono fun z here same => apart (Option.some.inj (here.symm.trans same))
  have hidden : Coincide owner (· = some other) s (f s).2 :=
    left.mono fun z here same => apart (Option.some.inj (same.symm.trans here))
  obtain ⟨answer, own⟩ := first.same unseen
  obtain ⟨reply, foreign⟩ := second.same hidden
  refine ⟨answer.symm, reply.symm, ?_⟩
  -- In the end, the one target is as the first request leaves it, and the other as the second does.
  have after := second.keeps left.right
  have before := first.keeps right.right
  have here : Coincide owner (· = some key) (g (f s).2).2 (f (g s).2).2 :=
    (after.symm.mono fun z here same => apart (Option.some.inj (here.symm.trans same))).trans own
  have there : Coincide owner (· = some other) (g (f s).2).2 (f (g s).2).2 :=
    foreign.symm.trans (before.mono fun z here same => apart (Option.some.inj (same.symm.trans here)))
  have elsewhere : Coincide owner (fun z => z ≠ some key ∧ z ≠ some other) (g (f s).2).2 (f (g s).2).2 :=
    ((after.symm.mono fun z out => out.2).trans (left.symm.mono fun z out => out.1)).trans
      ((right.mono fun z out => out.2).trans (before.mono fun z out => out.1))
  -- Every action belongs to the one target, to the other, or to neither.
  refine (here.or (there.or elsewhere)).eq fun z => ?_
  by_cases one : z = some key
  · exact Or.inl one
  · by_cases two : z = some other
    · exact Or.inr (Or.inl two)
    · exact Or.inr (Or.inr ⟨one, two⟩)

end Locality

end Deployments

end DeviceUpdate
