import SlotBooking.Operation

/-!
# Computations that ask the collaborators

A `Lookup` ends with a result or a failure and leaves the collaborators with more calls and, with a
cache, more entries. Its two halves are `Lookup.value` and `Lookup.after`, and `value` takes a
computation to a plain `Except` one, so that rules about operations are proved there.

* `bind_eq_ok`, `mem_of_mapM_eq_ok`: what a successful sequence went through.
* `bind_eq_error`: where a sequence failed.
* `NeverRefused`: computations that may fail but are never refused.
* `Lookup.value_bind`: the value of a sequence; the second part meets the collaborators as the first
  left them.
-/

namespace SlotBooking

variable {ε α β : Type}

/-! ## Sequences of checks -/

theorem bind_eq_ok {x : Except ε α} {f : α → Except ε β} {b : β} :
    x >>= f = .ok b ↔ ∃ a, x = .ok a ∧ f a = .ok b := by
  cases x with
  | error e => simp [bind, Except.bind]
  | ok a => simp [bind, Except.bind]

theorem bind_eq_error {x : Except ε α} {f : α → Except ε β} {e : ε} :
    x >>= f = .error e ↔ x = .error e ∨ ∃ a, x = .ok a ∧ f a = .error e := by
  cases x with
  | error e' => simp [bind, Except.bind]
  | ok a => simp [bind, Except.bind]

theorem mapError_eq_ok {ε' : Type} {x : Except ε α} {f : ε → ε'} {a : α} :
    x.mapError f = .ok a ↔ x = .ok a := by
  cases x with
  | error e => constructor <;> rintro ⟨⟩
  | ok b => constructor <;> (rintro ⟨⟩; rfl)

theorem mapError_eq_error {ε' : Type} {x : Except ε α} {f : ε → ε'} {e' : ε'} :
    x.mapError f = .error e' ↔ ∃ e, x = .error e ∧ f e = e' := by
  cases x with
  | error e =>
    constructor
    · intro h
      exact ⟨e, rfl, Except.error.inj h⟩
    · rintro ⟨_, ⟨⟩, rfl⟩
      rfl
  | ok a =>
    constructor
    · rintro ⟨⟩
    · rintro ⟨_, ⟨⟩, _⟩

@[simp] theorem ok_bind (a : α) (f : α → Except ε β) : (Except.ok a >>= f) = f a := rfl

theorem refuse_ne_ok {r : Refusal} {a : α} : refuse r ≠ .ok a := nofun

/-- A check that refuses lets a computation through exactly if its condition does not hold. -/
theorem ite_refuse_eq_ok {p : Prop} [Decidable p] {r : Refusal} {x : Except Failure α} {a : α} :
    (if p then refuse r else x) = .ok a ↔ ¬ p ∧ x = .ok a := by
  by_cases hp : p <;> simp [hp, refuse_ne_ok]

/-- The results of a list are those of its elements. -/
theorem mem_of_mapM_eq_ok {f : α → Except ε β} {xs : List α} {ys : List β}
    (h : xs.mapM f = .ok ys) :
    (∀ x ∈ xs, ∃ y ∈ ys, f x = .ok y) ∧ ∀ y ∈ ys, ∃ x ∈ xs, f x = .ok y := by
  induction xs generalizing ys with
  | nil =>
    cases h
    exact ⟨fun x hx => absurd hx List.not_mem_nil, fun y hy => absurd hy List.not_mem_nil⟩
  | cons x xs ih =>
    simp only [List.mapM_cons, bind_eq_ok] at h
    obtain ⟨y, hy, ys', hys, h⟩ := h
    cases h
    obtain ⟨hto, hof⟩ := ih hys
    constructor
    · intro a ha
      rcases List.mem_cons.mp ha with rfl | ha
      · exact ⟨y, List.mem_cons_self, hy⟩
      · obtain ⟨b, hb, hab⟩ := hto a ha
        exact ⟨b, List.mem_cons_of_mem y hb, hab⟩
    · intro b hb
      rcases List.mem_cons.mp hb with rfl | hb
      · exact ⟨x, List.mem_cons_self, hy⟩
      · obtain ⟨a, ha, hab⟩ := hof b hb
        exact ⟨a, List.mem_cons_of_mem x ha, hab⟩

/-- Results that name their elements do so in the order of these. -/
theorem map_of_mapM_eq_ok {f : α → Except ε β} {g : β → α} {xs : List α} {ys : List β}
    (h : xs.mapM f = .ok ys) (hg : ∀ x y, f x = .ok y → g y = x) : ys.map g = xs := by
  induction xs generalizing ys with
  | nil =>
    cases h
    rfl
  | cons x xs ih =>
    simp only [List.mapM_cons, bind_eq_ok] at h
    obtain ⟨y, hy, ys', hys, h⟩ := h
    cases h
    rw [List.map_cons, hg x y hy, ih hys]

theorem mapM_eq_ok_map {f : α → Except ε β} {g : α → β} {xs : List α}
    (h : ∀ x ∈ xs, f x = .ok (g x)) : xs.mapM f = .ok (xs.map g) := by
  induction xs with
  | nil => rfl
  | cons x xs ih =>
    rw [List.mapM_cons, h x List.mem_cons_self, ok_bind,
      ih fun a ha => h a (List.mem_cons_of_mem x ha)]
    rfl

theorem mapM_congr_of_mem {f g : α → Except ε β} {xs : List α} (h : ∀ x ∈ xs, f x = g x) :
    xs.mapM f = xs.mapM g := by
  induction xs with
  | nil => rfl
  | cons x xs ih =>
    rw [List.mapM_cons, List.mapM_cons, h x List.mem_cons_self,
      ih fun a ha => h a (List.mem_cons_of_mem x ha)]

/-- Where every element of a list has its result, the list has its results. -/
theorem exists_mapM_eq_ok {f : α → Except ε β} {xs : List α} (h : ∀ x ∈ xs, ∃ y, f x = .ok y) :
    ∃ ys, xs.mapM f = .ok ys := by
  induction xs with
  | nil => exact ⟨[], rfl⟩
  | cons x xs ih =>
    obtain ⟨y, hy⟩ := h x List.mem_cons_self
    obtain ⟨ys, hys⟩ := ih fun a ha => h a (List.mem_cons_of_mem x ha)
    exact ⟨y :: ys, by rw [List.mapM_cons, hy, ok_bind, hys]; rfl⟩

/-- A computation that may fail but is never refused. -/
def NeverRefused (x : Except Failure α) : Prop := ∀ r, x ≠ .error (.refused r)

namespace NeverRefused

theorem ok (a : α) : NeverRefused (.ok a) := nofun

theorem bind {x : Except Failure α} {f : α → Except Failure β} (hx : NeverRefused x)
    (hf : ∀ a, NeverRefused (f a)) : NeverRefused (x >>= f) := by
  cases x with
  | ok a => exact hf a
  | error e => exact fun r h => hx r (by cases h; rfl)

theorem mapM {f : α → Except Failure β} (hf : ∀ a, NeverRefused (f a)) (xs : List α) :
    NeverRefused (xs.mapM f) := by
  induction xs with
  | nil => exact ok []
  | cons x xs ih =>
    rw [List.mapM_cons]
    exact (hf x).bind fun y => ih.bind fun ys => ok (y :: ys)

/-- An error of another kind, as a failure of the service, is no refusal. -/
theorem mapError {x : Except ε α} {f : ε → Failure} (hf : ∀ e r, f e ≠ .refused r) :
    NeverRefused (x.mapError f) := by
  cases x with
  | ok a => exact nofun
  | error e => exact fun r h => hf e r (Except.error.inj h)

end NeverRefused

/-- A computation that fails, if at all, by being refused. -/
def OnlyRefuses (x : Except Failure α) : Prop := ∀ f, x = .error f → f.IsRefusal

namespace OnlyRefuses

theorem ok (a : α) : OnlyRefuses (.ok a) := by
  rintro f ⟨⟩

theorem refuse (r : Refusal) : OnlyRefuses (refuse r : Except Failure α) := by
  rintro f ⟨⟩
  exact ⟨r, rfl⟩

theorem ite {p : Prop} [Decidable p] {x y : Except Failure α} (hx : OnlyRefuses x)
    (hy : OnlyRefuses y) : OnlyRefuses (if p then x else y) := by
  split
  · exact hx
  · exact hy

end OnlyRefuses

/-! ## Computations -/

namespace Directory.Lookup

/-- What a computation ends with. -/
def value (x : Lookup ε α) (k : Collaborators) : Except ε α := (x.run k).1

/-- The collaborators after a computation. -/
def after (x : Lookup ε α) (k : Collaborators) : Collaborators := (x.run k).2

variable (k : Collaborators)

@[simp] theorem value_bind (x : Lookup ε α) (f : α → Lookup ε β) :
    (x >>= f).value k = x.value k >>= fun a => (f a).value (x.after k) := by
  unfold value after
  rw [ExceptT.run_bind]
  simp only [bind, StateT.bind, Except.bind]
  rcases x.run k with ⟨_ | a, k'⟩ <;> rfl

@[simp] theorem value_pure (a : α) : (pure a : Lookup ε α).value k = .ok a := rfl

@[simp] theorem value_lift (x : Except ε α) : (liftM x : Lookup ε α).value k = x := rfl

@[simp] theorem after_lift (x : Except ε α) : (liftM x : Lookup ε α).after k = k := rfl

@[simp] theorem after_bind (x : Lookup ε α) (f : α → Lookup ε β) :
    (x >>= f).after k =
      match x.value k with
      | .ok a => (f a).after (x.after k)
      | .error _ => x.after k := by
  unfold value after
  rw [ExceptT.run_bind]
  simp only [bind, StateT.bind]
  rcases x.run k with ⟨_ | a, k'⟩ <;> rfl

@[simp] theorem after_pure (a : α) : (pure a : Lookup ε α).after k = k := rfl

@[simp] theorem value_get : (get : Lookup ε Collaborators).value k = .ok k := rfl

@[simp] theorem after_get : (get : Lookup ε Collaborators).after k = k := rfl

@[simp] theorem value_note (call : Call) : (note call : Lookup ε Unit).value k = .ok () := rfl

@[simp] theorem after_note (call : Call) :
    (note call : Lookup ε Unit).after k = { k with calls := k.calls ++ [call] } := rfl

@[simp] theorem value_refusing (subject : Refusal.Subject) (l : Lookup Error α) :
    (refusing subject l).value k = (l.value k).mapError (·.failure subject) := rfl

@[simp] theorem after_refusing (subject : Refusal.Subject) (l : Lookup Error α) :
    (refusing subject l).after k = l.after k := rfl

@[simp] theorem value_ite (p : Prop) [Decidable p] (x y : Lookup ε α) :
    (if p then x else y).value k = if p then x.value k else y.value k := by
  split <;> rfl

@[simp] theorem after_ite (p : Prop) [Decidable p] (x y : Lookup ε α) :
    (if p then x else y).after k = if p then x.after k else y.after k := by
  split <;> rfl

end Directory.Lookup

/-- An operation that a world performs ends with the value of its computation. -/
theorem World.perform_fst (w : World) (op : Operation) :
    (w.perform op).1 = ((op.run w.store w.now).value w.collaborators).map (·.1) := by
  unfold World.perform World.ask Directory.Lookup.value
  rcases (op.run w.store w.now).run w.collaborators with ⟨_ | ⟨out, s⟩, k⟩ <;> rfl

/-- The store of a world changes only if its operation succeeds. -/
theorem World.perform_store (w : World) (op : Operation) :
    (w.perform op).2.store =
      match (op.run w.store w.now).value w.collaborators with
      | .ok (_, s) => s
      | .error _ => w.store := by
  unfold World.perform World.ask Directory.Lookup.value
  rcases (op.run w.store w.now).run w.collaborators with ⟨_ | ⟨out, s⟩, k⟩ <;> rfl

end SlotBooking
