import SlotBooking.Proofs.Source

/-!
# Operations as scripts

An operation asks the collaborators through reads and nothing else. A script lays its reads open: it
is done, or it reads a source and goes on with what that gives. In this form reads can be told
apart, so that something may happen between two of them.

* `Script`, `Script.run`: scripts, and the computation of one.
* `Scripted`: computations that have a script; they are closed under what operations are built of.
* `Operation.scripted`: every operation has one.
* `World.perform_echoes`: after an operation the collaborators say the same, or what the cache kept.
-/

namespace SlotBooking

open Directory (Collaborators Error Lookup Source)

variable {ε α β : Type}

/-- A computation whose reads are laid open. -/
inductive Script (ε α : Type) where
  | done (r : Except ε α)
  | read (s : Source) (next : Except Error s.Model → Script ε α)

namespace Script

/-- The computation of a script. -/
def run : Script ε α → Lookup ε α
  | done r => liftM r
  | read s next => ExceptT.mk fun k => (next (s.read.value k)).run.run (s.read.after k)

/-- One script after another. -/
def andThen : Script ε α → (α → Script ε β) → Script ε β
  | done (.ok a), f => f a
  | done (.error e), _ => done (.error e)
  | read s next, f => read s fun r => (next r).andThen f

variable {k : Collaborators}

@[simp] theorem value_done (r : Except ε α) : (done r).run.value k = r := rfl

@[simp] theorem after_done (r : Except ε α) : (done r).run.after k = k := rfl

@[simp] theorem value_read (s : Source) (next : Except Error s.Model → Script ε α) :
    (read s next).run.value k = (next (s.read.value k)).run.value (s.read.after k) := rfl

@[simp] theorem after_read (s : Source) (next : Except Error s.Model → Script ε α) :
    (read s next).run.after k = (next (s.read.value k)).run.after (s.read.after k) := rfl

theorem run_andThen (p : Script ε α) (f : α → Script ε β) :
    (p.andThen f).run = p.run >>= fun a => (f a).run := by
  induction p with
  | done r =>
    cases r with
    | ok a => rfl
    | error e => rfl
  | read s next ih =>
    funext k
    show (((next (s.read.value k)).andThen f).run).run (s.read.after k) = _
    rw [ih]
    rfl

/-- What a script leaves says the same as before, or what the cache kept. -/
theorem echoes (p : Script ε α) (k : Collaborators) : k.Echoes (p.run.after k) := by
  induction p generalizing k with
  | done r => exact .refl k
  | read s next ih => exact (k.echoes_read s).trans (ih _ _)

end Script

/-- The computation has a script. -/
def Scripted (x : Lookup ε α) : Prop := ∃ p : Script ε α, p.run = x

namespace Scripted

theorem lift (r : Except ε α) : Scripted (liftM r : Lookup ε α) := ⟨.done r, rfl⟩

theorem pure (a : α) : Scripted (pure a : Lookup ε α) := lift (.ok a)

theorem throw (e : ε) : Scripted (throw e : Lookup ε α) := lift (.error e)

theorem bind {x : Lookup ε α} {f : α → Lookup ε β} (hx : Scripted x)
    (hf : ∀ a, Scripted (f a)) : Scripted (x >>= f) := by
  obtain ⟨p, rfl⟩ := hx
  choose q hq using hf
  refine ⟨p.andThen q, ?_⟩
  rw [Script.run_andThen]
  exact congrArg _ (funext hq)

theorem ite {p : Prop} [Decidable p] {x y : Lookup ε α} (hx : Scripted x) (hy : Scripted y) :
    Scripted (if p then x else y) := by
  split
  · exact hx
  · exact hy

/-- A read, with its errors as refusals. -/
theorem refusing (subject : Refusal.Subject) (s : Source) :
    Scripted (Directory.refusing subject s.read) :=
  ⟨.read s fun r => .done (r.mapError (·.failure subject)), rfl⟩

theorem fetchCompany (id : Int) : Scripted (Directory.fetchCompany id) :=
  refusing .company (.company id)

theorem fetchService (company id : Int) : Scripted (Directory.fetchService company id) :=
  refusing .service (.service company id)

theorem fetchVehicle (user : Int) : Scripted (Directory.fetchVehicle user) :=
  refusing .vehicle (.vehicle user)

theorem fetchManaged (company user : Int) : Scripted (Directory.fetchManaged company user) :=
  (fetchCompany company).bind fun _ => ite (pure _) (throw _)

end Scripted

/-! ## Operations -/

theorem scripted_allocate (store : Store) (now : Instant) (r : Admission.Request) :
    Scripted (Admission.allocate store now r) := by
  have hlookUp (o : Admission.Order) : Scripted o.lookUp :=
    (Scripted.fetchCompany _).bind fun _ => (Scripted.lift _).bind fun _ =>
      (Scripted.fetchService _ _).bind fun _ => (Scripted.lift _).bind fun _ =>
        (Scripted.fetchVehicle _).bind fun _ => .pure _
  exact (Scripted.lift _).bind fun o => (hlookUp o).bind fun _ => .lift _

theorem scripted_availability (store : Store) (now : Instant) (company address service : Option Int)
    (date : Date) : Scripted (availability store now company address service date) :=
  (Scripted.lift _).bind fun _ => (Scripted.lift _).bind fun _ => (Scripted.lift _).bind fun _ =>
    (Scripted.fetchCompany _).bind fun _ => (Scripted.lift _).bind fun _ =>
      (Scripted.fetchService _ _).bind fun _ => (Scripted.lift _).bind fun _ => .lift _

namespace Lifecycle

theorem scripted_view (store : Store) (id user : Int) : Scripted (view store id user) :=
  (Scripted.lift _).bind fun _ => .ite (.pure _) ((Scripted.fetchManaged _ _).bind fun _ => .pure _)

theorem scripted_ofCompany (store : Store) (user : Int) (q : Query) :
    Scripted (ofCompany store user q) :=
  (Scripted.fetchManaged _ _).bind fun _ =>
    .ite (.throw _) ((Scripted.lift _).bind fun _ => .lift _)

theorem scripted_cancel (store : Store) (now : Instant) (id user : Int) (reason : Option String) :
    Scripted (cancel store now id user reason) :=
  .ite (.throw _) ((Scripted.lift _).bind fun _ =>
    .ite (.lift _) ((Scripted.fetchManaged _ _).bind fun _ => .lift _))

theorem scripted_changeStatus (store : Store) (now : Instant) (id user : Int) (status : Text) :
    Scripted (changeStatus store now id user status) :=
  (Scripted.lift _).bind fun _ => (Scripted.fetchManaged _ _).bind fun _ =>
    (Scripted.lift _).bind fun _ => .ite (.lift _) (.lift _)

end Lifecycle

namespace Capacity.Management

theorem scripted_create (store : Store) (user : Int) (scope : Scope) (d : Draft) :
    Scripted (create store user scope d) := by
  have hcheck : Scripted (checkCreate user scope d) := by
    refine (Scripted.fetchManaged _ _).bind fun c => (Scripted.lift _).bind fun terms => ?_
    cases scope.address with
    | none =>
      cases scope.service with
      | none => exact .pure _
      | some v => exact (Scripted.fetchService _ _).bind fun _ => .pure _
    | some a =>
      refine (Scripted.lift _).bind fun _ => ?_
      cases scope.service with
      | none => exact .pure _
      | some v => exact (Scripted.fetchService _ _).bind fun _ => .ite (.pure _) (.throw _)
  exact hcheck.bind fun _ => .lift _

theorem scripted_update (store : Store) (id user : Int) (changes : Changes) :
    Scripted (update store id user changes) := by
  have hcheck : Scripted (checkUpdate store id user changes) := by
    refine (Scripted.lift _).bind fun r => (Scripted.fetchManaged _ _).bind fun _ => ?_
    cases unknownName? changes with
    | none => exact .pure _
    | some name => exact .throw _
  exact hcheck.bind fun _ => .lift _

theorem scripted_delete (store : Store) (id user : Int) : Scripted (delete store id user) :=
  ((Scripted.lift _).bind fun _ => (Scripted.fetchManaged _ _).bind fun _ => .pure _).bind
    fun _ => .lift _

theorem scripted_deleteFor (store : Store) (scope : Scope) (user : Int) :
    Scripted (deleteFor store scope user) :=
  (Scripted.fetchManaged _ _).bind fun _ => .lift _

theorem scripted_ofCompany (store : Store) (company user : Int) :
    Scripted (ofCompany store company user) :=
  (Scripted.fetchManaged _ _).bind fun _ => .lift _

end Capacity.Management

/-- Every operation asks the collaborators through reads alone. -/
theorem Operation.scripted (store : Store) (now : Instant) (op : Operation) :
    Scripted (op.run store now) := by
  cases op with
  | allocate r => exact (scripted_allocate store now r).bind fun _ => .pure _
  | availability c a v date =>
    exact (scripted_availability store now c a v date).bind fun _ => .pure _
  | viewBooking id user => exact (Lifecycle.scripted_view store id user).bind fun _ => .pure _
  | userBookings user status => exact (Scripted.lift _).bind fun _ => .pure _
  | companyBookings user q =>
    exact (Lifecycle.scripted_ofCompany store user q).bind fun _ => .pure _
  | cancelBooking id user reason =>
    exact (Lifecycle.scripted_cancel store now id user reason).bind fun _ => .pure _
  | changeStatus id user t =>
    exact (Lifecycle.scripted_changeStatus store now id user t).bind fun _ => .pure _
  | createRule user scope d =>
    exact (Capacity.Management.scripted_create store user scope d).bind fun _ => .pure _
  | viewRule id => exact (Scripted.lift _).bind fun _ => .pure _
  | effectiveRule scope => exact (Scripted.lift _).bind fun _ => .pure _
  | companyRules c user =>
    exact (Capacity.Management.scripted_ofCompany store c user).bind fun _ => .pure _
  | updateRule id user changes =>
    exact (Capacity.Management.scripted_update store id user changes).bind fun _ => .pure _
  | deleteRule id user =>
    exact (Capacity.Management.scripted_delete store id user).bind fun _ => .pure _
  | deleteRuleFor scope user =>
    exact (Capacity.Management.scripted_deleteFor store scope user).bind fun _ => .pure _

theorem World.perform_collaborators (w : World) (op : Operation) :
    (w.perform op).2.collaborators = (op.run w.store w.now).after w.collaborators := by
  unfold World.perform World.ask Directory.Lookup.after
  rcases (op.run w.store w.now).run w.collaborators with ⟨_ | ⟨out, s⟩, k⟩ <;> rfl

theorem World.perform_now (w : World) (op : Operation) : (w.perform op).2.now = w.now := by
  unfold World.perform World.ask
  rcases (op.run w.store w.now).run w.collaborators with ⟨_ | ⟨out, s⟩, k⟩ <;> rfl

theorem World.perform_eq (w : World) (op : Operation) : (w.perform op).2 =
    ⟨(w.perform op).2.store, w.now, (w.perform op).2.collaborators⟩ := by
  rw [← w.perform_now op]

/-- After an operation the collaborators say the same as before, or what the cache kept. -/
theorem World.perform_echoes (w : World) (op : Operation) :
    w.collaborators.Echoes (w.perform op).2.collaborators := by
  rw [perform_collaborators]
  obtain ⟨p, hp⟩ := op.scripted w.store w.now
  rw [← hp]
  exact p.echoes _

end SlotBooking
