import SlotBooking.Proofs.Script

/-!
# Two runs side by side

What one run shows of another is stated about both at once: they start from stores and collaborators
that are alike in some respect, end alike in every step and stay alike in this respect.

* `EndsAlike`: two results that fail in the same way or succeed with related values.
* `RunsAlike`: two computations that end alike and leave related collaborators.
* `Task`, `Visit`, `World.visit`: what happens to a world that keeps its store and its collaborators
  from one visit to the next.
* `World.visit_alike`: a visit to two worlds in which its task runs alike.
-/

namespace SlotBooking

open Directory (Collaborators Error Lookup Source)
open Capacity (Governing Scope)

variable {ε α α' β β' : Type}

/-! ## Results -/

/-- Both results are the same failure, or successes with related values. -/
inductive EndsAlike (R : α → α' → Prop) : Except ε α → Except ε α' → Prop
  | ok {a : α} {a' : α'} (h : R a a') : EndsAlike R (.ok a) (.ok a')
  | error (e : ε) : EndsAlike R (.error e) (.error e)

namespace EndsAlike

variable {R : α → α' → Prop} {S : β → β' → Prop}

theorem mono {R' : α → α' → Prop} {x : Except ε α} {x' : Except ε α'} (h : EndsAlike R x x')
    (hR : ∀ a a', R a a' → R' a a') : EndsAlike R' x x' := by
  cases h with
  | ok h => exact .ok (hR _ _ h)
  | error e => exact .error e

theorem bind {x : Except ε α} {x' : Except ε α'} {f : α → Except ε β} {f' : α' → Except ε β'}
    (hx : EndsAlike R x x') (hf : ∀ a a', R a a' → EndsAlike S (f a) (f' a')) :
    EndsAlike S (x >>= f) (x' >>= f') := by
  cases hx with
  | ok h => exact hf _ _ h
  | error e => exact .error e

/-- Related values are what the results are. -/
theorem known {x : Except ε α} {x' : Except ε α'} (h : EndsAlike R x x') :
    EndsAlike (fun a a' => R a a' ∧ x = .ok a ∧ x' = .ok a') x x' := by
  cases h with
  | ok h => exact .ok ⟨h, rfl, rfl⟩
  | error e => exact .error e

theorem of_eq {x x' : Except ε α} (h : x = x') : EndsAlike (· = ·) x x' := by
  rw [h]
  cases x' with
  | ok a => exact .ok rfl
  | error e => exact .error e

theorem eq {x x' : Except ε α} (h : EndsAlike (· = ·) x x') : x = x' := by
  cases h with
  | ok h => rw [h]
  | error e => rfl

/-- One computation on both sides gives one value. -/
theorem bind_same {x : Except ε α} {f : α → Except ε β} {f' : α → Except ε β'}
    (hf : ∀ a, x = .ok a → EndsAlike S (f a) (f' a)) : EndsAlike S (x >>= f) (x >>= f') :=
  (of_eq rfl).known.bind fun a _ h => h.1 ▸ hf a h.2.1

theorem ite {p : Prop} [Decidable p] {x y : Except ε α} {x' y' : Except ε α'}
    (hx : p → EndsAlike R x x') (hy : ¬ p → EndsAlike R y y') :
    EndsAlike R (if p then x else y) (if p then x' else y') := by
  by_cases hp : p
  · rw [if_pos hp, if_pos hp]
    exact hx hp
  · rw [if_neg hp, if_neg hp]
    exact hy hp

/-- Such results are the same once something is forgotten of their values. -/
theorem map_eq {g : α → β} {g' : α' → β} {x : Except ε α} {x' : Except ε α'}
    (h : EndsAlike (fun a a' => g a = g' a') x x') : x.map g = x'.map g' := by
  cases h with
  | ok h => exact congrArg Except.ok h
  | error e => rfl

end EndsAlike

/-! ## Computations -/

/-- From related collaborators both computations end alike, and leave related collaborators. -/
def RunsAlike (A : Collaborators → Collaborators → Prop) (R : α → α' → Prop) (x : Lookup ε α)
    (x' : Lookup ε α') : Prop :=
  ∀ k k', A k k' → EndsAlike R (x.value k) (x'.value k') ∧ A (x.after k) (x'.after k')

namespace RunsAlike

variable {A : Collaborators → Collaborators → Prop} {R : α → α' → Prop} {S : β → β' → Prop}

theorem lift {x : Except ε α} {x' : Except ε α'} (h : EndsAlike R x x') :
    RunsAlike A R (liftM x : Lookup ε α) (liftM x' : Lookup ε α') := fun _ _ hk => ⟨h, hk⟩

theorem pure {a : α} {a' : α'} (h : R a a') :
    RunsAlike A R (pure a : Lookup ε α) (pure a' : Lookup ε α') := lift (.ok h)

theorem throw (e : ε) : RunsAlike A R (throw e : Lookup ε α) (throw e : Lookup ε α') :=
  lift (.error e)

theorem bind {x : Lookup ε α} {x' : Lookup ε α'} {f : α → Lookup ε β} {f' : α' → Lookup ε β'}
    (hx : RunsAlike A R x x') (hf : ∀ a a', R a a' → RunsAlike A S (f a) (f' a')) :
    RunsAlike A S (x >>= f) (x' >>= f') := by
  intro k k' hk
  obtain ⟨hvalue, hafter⟩ := hx k k' hk
  rw [Lookup.value_bind, Lookup.value_bind, Lookup.after_bind, Lookup.after_bind]
  generalize x.value k = r at hvalue
  generalize x'.value k' = r' at hvalue
  cases hvalue with
  | ok h => exact hf _ _ h _ _ hafter
  | error e => exact ⟨.error e, hafter⟩

/-- Both go on from one value. -/
theorem bind_eq {x x' : Lookup ε α} {f : α → Lookup ε β} {f' : α → Lookup ε β'}
    (hx : RunsAlike A (· = ·) x x') (hf : ∀ a, RunsAlike A S (f a) (f' a)) :
    RunsAlike A S (x >>= f) (x' >>= f') := hx.bind fun a _ h => h ▸ hf a

/-- A check on both sides. -/
theorem lift_bind {x : Except ε α} {f : α → Lookup ε β} {f' : α → Lookup ε β'}
    (hf : ∀ a, x = .ok a → RunsAlike A S (f a) (f' a)) :
    RunsAlike A S ((liftM x : Lookup ε α) >>= f) ((liftM x : Lookup ε α) >>= f') :=
  (lift (EndsAlike.of_eq rfl).known).bind fun a _ h => h.1 ▸ hf a h.2.1

theorem ite {p : Prop} [Decidable p] {x y : Lookup ε α} {x' y' : Lookup ε α'}
    (hx : p → RunsAlike A R x x') (hy : ¬ p → RunsAlike A R y y') :
    RunsAlike A R (if p then x else y) (if p then x' else y') := by
  by_cases hp : p
  · rw [if_pos hp, if_pos hp]
    exact hx hp
  · rw [if_neg hp, if_neg hp]
    exact hy hp

/-- Errors of the collaborators become the same failures. -/
theorem refusing {subject : Refusal.Subject} {R : α → α' → Prop} {l : Lookup Error α}
    {l' : Lookup Error α'} (h : RunsAlike A R l l') :
    RunsAlike A R (Directory.refusing subject l) (Directory.refusing subject l') := by
  intro k k' hk
  obtain ⟨hvalue, hafter⟩ := h k k' hk
  rw [Lookup.value_refusing, Lookup.value_refusing, Lookup.after_refusing, Lookup.after_refusing]
  refine ⟨?_, hafter⟩
  generalize l.value k = r at hvalue
  generalize l'.value k' = r' at hvalue
  cases hvalue with
  | ok h => exact .ok h
  | error e => exact .error _

end RunsAlike

/-! ## Visits -/

/-- Something that is done with a store: an operation, or one of the two look-ups of the terms that
govern, which operations use. -/
inductive Task where
  | operation (op : Operation)
  /-- The stored rule that governs, if there is one. -/
  | storedRule (scope : Scope)
  /-- What governs, be it a stored rule or the standard terms. -/
  | governing (scope : Scope)

/-- Runs a task. -/
def Task.run (store : Store) (now : Instant) : Task → Lookup Failure (Outcome × Store)
  | operation op => op.run store now
  | storedRule scope => do
    match ← store.resolve? scope with
    | some r => return (.governing (.ofRule r), store)
    | none => return (.nothing, store)
  | governing scope => do return (.governing (← store.governing scope), store)

/-- A task, with the clock and the write lock of other sessions as it meets them. -/
structure Visit where
  task : Task
  now : Instant
  writeLocked : Bool

/-- What a visit meets in a world. -/
def Visit.meets (v : Visit) (w : World) : World :=
  ⟨{ w.store with writeLocked := v.writeLocked }, v.now, w.collaborators⟩

namespace World

/-- Does a task; the store changes only if it succeeds. -/
def carryOut (w : World) (t : Task) : Except Failure Outcome × World :=
  match w.ask (t.run w.store w.now) with
  | (.ok (outcome, store), w) => (.ok outcome, { w with store })
  | (.error e, w) => (.error e, w)

/-- What a visit ends with, and the world after it. -/
def visit (w : World) (v : Visit) : Except Failure Outcome × World := (v.meets w).carryOut v.task

/-- What visits end with, one after the other. -/
def answers (w : World) : List Visit → List (Except Failure Outcome)
  | [] => []
  | v :: vs => (w.visit v).1 :: (w.visit v).2.answers vs

/-- The world after some visits. -/
def afterVisits (w : World) (vs : List Visit) : World := vs.foldl (fun w v => (w.visit v).2) w

/-- An operation is carried out as it is performed. -/
theorem carryOut_operation (w : World) (op : Operation) :
    w.carryOut (.operation op) = w.perform op := rfl

theorem carryOut_fst (w : World) (t : Task) :
    (w.carryOut t).1 = ((t.run w.store w.now).value w.collaborators).map (·.1) := by
  unfold carryOut World.ask Lookup.value
  rcases (t.run w.store w.now).run w.collaborators with ⟨_ | ⟨out, s⟩, k⟩ <;> rfl

/-- The store of a world changes only if the task succeeds. -/
theorem carryOut_store (w : World) (t : Task) :
    (w.carryOut t).2.store =
      match (t.run w.store w.now).value w.collaborators with
      | .ok (_, s) => s
      | .error _ => w.store := by
  unfold carryOut World.ask Lookup.value
  rcases (t.run w.store w.now).run w.collaborators with ⟨_ | ⟨out, s⟩, k⟩ <;> rfl

theorem carryOut_collaborators (w : World) (t : Task) :
    (w.carryOut t).2.collaborators = (t.run w.store w.now).after w.collaborators := by
  unfold carryOut World.ask Lookup.after
  rcases (t.run w.store w.now).run w.collaborators with ⟨_ | ⟨out, s⟩, k⟩ <;> rfl

variable {A : Collaborators → Collaborators → Prop} {R : Outcome → Outcome → Prop}
  {S : Store → Store → Prop} {w w' : World} {v : Visit}

/-- Two worlds stay alike over a visit whose task runs alike on what it meets in them. -/
theorem visit_alike (hk : A w.collaborators w'.collaborators)
    (hs : S (v.meets w).store (v.meets w').store)
    (h : RunsAlike A (fun p p' => R p.1 p'.1 ∧ S p.2 p'.2)
      (v.task.run (v.meets w).store (v.meets w).now)
      (v.task.run (v.meets w').store (v.meets w').now)) :
    EndsAlike R (w.visit v).1 (w'.visit v).1 ∧ S (w.visit v).2.store (w'.visit v).2.store ∧
      A (w.visit v).2.collaborators (w'.visit v).2.collaborators := by
  obtain ⟨hvalue, hafter⟩ := h (v.meets w).collaborators (v.meets w').collaborators hk
  unfold visit
  rw [carryOut_fst, carryOut_fst, carryOut_store, carryOut_store, carryOut_collaborators,
    carryOut_collaborators]
  refine ⟨?_, ?_, hafter⟩
  · exact hvalue.bind fun _ _ hp => .ok hp.1
  · generalize Lookup.value _ (v.meets w).collaborators = r at hvalue
    generalize Lookup.value _ (v.meets w').collaborators = r' at hvalue
    cases hvalue with
    | ok hp => exact hp.2
    | error e => exact hs

end World

end SlotBooking
