import SlotBooking.Proofs.Run
import SlotBooking.Web.Response

/-!
# Contacts with the service

The service is asked for an operation itself, or by a web request. Either way at most one operation
is performed, so that what holds after every run of operations holds after every sequence of
contacts.

* `Inquiry.asked?`: the operation that is asked for, if any.
* `Contact.next_of_asked`, `Contact.next_of_asked_none`: the store after a contact.
* `Contact.succeeds_iff`: a web request is answered with a status of success exactly if the
  operation that it asks for succeeds.
* `Store.serve`, `Store.exists_run_of_serve`: sequences of contacts, and the runs that they amount
  to.
-/

namespace SlotBooking

/-! ## Web requests -/

namespace Web

/-- The operation that a request asks for, if it can be routed and read. -/
def Request.asked? (r : Request) : Option Operation :=
  match route r.method r.path with
  | .found e =>
    match r.operation e with
    | .ok op? => op?
    | .error _ => none
  | _ => none

/-- The status says that a request succeeded. -/
def Response.Succeeds (a : Response) : Prop := 200 ≤ a.status ∧ a.status < 300

theorem Response.succeeds_ofOutcome (e : Endpoint) (o : Outcome) : (ofOutcome e o).Succeeds := by
  cases e <;> simp [Succeeds, ofOutcome, successStatus]

theorem Response.not_succeeds_ofFailure (f : Failure) : ¬ (ofFailure f).Succeeds := by
  rintro ⟨-, h⟩
  cases f with
  | refused r =>
    have hkind : ∀ k : Refusal.Kind, ¬ statusOfKind k < 300 := by
      intro k
      cases k <;> decide
    exact hkind r.kind h
  | _ => simp [ofFailure, serverError] at h

variable {w : World} {r : Request} {op : Operation}

theorem Request.asked?_eq_some : r.asked? = some op ↔
    ∃ e, route r.method r.path = .found e ∧ r.operation e = .ok (some op) := by
  unfold asked?
  constructor
  · intro h
    split at h
    · rename_i e he
      split at h
      · rename_i o ho
        subst h
        exact ⟨e, he, ho⟩
      · cases h
    · cases h
  · rintro ⟨e, he, ho⟩
    rw [he]
    dsimp only
    rw [ho]

/-- A request that asks for no operation changes nothing. -/
theorem handle_of_asked_none (h : r.asked? = none) : (handle w r).2 = w := by
  unfold Request.asked? at h
  unfold handle
  split at h
  · rename_i e he
    rw [he]
    dsimp only
    split at h
    · rename_i o ho
      rw [ho, h]
    · rename_i rejection ho
      rw [ho]
  · split <;> first | rfl | simp_all

/-- A request that asks for an operation performs it, and is answered with what it ended with. -/
theorem handle_of_asked (h : r.asked? = some op) :
    (handle w r).2 = (w.perform op).2 ∧
      ((handle w r).1.Succeeds ↔ ∃ out, (w.perform op).1 = .ok out) := by
  obtain ⟨e, he, ho⟩ := Request.asked?_eq_some.mp h
  unfold handle
  rw [he]
  dsimp only
  rw [ho]
  dsimp only
  rcases w.perform op with ⟨f | out, w'⟩ <;> dsimp only
  · refine ⟨rfl, iff_of_false (Response.not_succeeds_ofFailure f) ?_⟩
    rintro ⟨out, h⟩
    cases h
  · exact ⟨rfl, iff_of_true (Response.succeeds_ofOutcome e out) ⟨out, rfl⟩⟩

end Web

/-! ## One contact -/

/-- What reaches the service. -/
inductive Inquiry where
  | operation (op : Operation)
  | web (r : Web.Request)

/-- The operation that is asked for, if any. -/
def Inquiry.asked? : Inquiry → Option Operation
  | operation op => some op
  | web r => r.asked?

/-- An inquiry, with the surroundings as it meets them. -/
structure Contact where
  inquiry : Inquiry
  now : Instant
  collaborators : Directory.Collaborators
  /-- Another session holds the write lock. -/
  writeLocked : Bool

namespace Contact

/-- The world in which a contact happens. -/
def world (c : Contact) (s : Store) : World :=
  ⟨{ s with writeLocked := c.writeLocked }, c.now, c.collaborators⟩

/-- The store after a contact. -/
def next (c : Contact) (s : Store) : Store :=
  match c.inquiry with
  | .operation op => ((c.world s).perform op).2.store
  | .web r => (Web.handle (c.world s) r).2.store

/-- A contact ends with an outcome, or with an answer whose status says so. -/
def Succeeds (c : Contact) (s : Store) : Prop :=
  match c.inquiry with
  | .operation op => ∃ out, ((c.world s).perform op).1 = .ok out
  | .web r => (Web.handle (c.world s) r).1.Succeeds

/-- The event that performs an operation in the surroundings of a contact. -/
def event (c : Contact) (op : Operation) : Event := ⟨op, c.now, c.collaborators, c.writeLocked⟩

variable {c : Contact} {s : Store} {op : Operation}

theorem next_of_asked (h : c.inquiry.asked? = some op) : c.next s = (c.event op).next s := by
  unfold next
  cases hi : c.inquiry with
  | operation op' =>
    rw [hi] at h
    cases h
    rfl
  | web r =>
    rw [hi] at h
    exact congrArg World.store (Web.handle_of_asked h).1

theorem next_of_asked_none (h : c.inquiry.asked? = none) : c.next s = (c.world s).store := by
  unfold next
  cases hi : c.inquiry with
  | operation op' =>
    rw [hi] at h
    cases h
  | web r =>
    rw [hi] at h
    exact congrArg World.store (Web.handle_of_asked_none h)

theorem succeeds_iff (h : c.inquiry.asked? = some op) :
    c.Succeeds s ↔ ∃ out, (c.event op).outcome s = .ok out := by
  unfold Succeeds
  cases hi : c.inquiry with
  | operation op' =>
    rw [hi] at h
    cases h
    rfl
  | web r =>
    rw [hi] at h
    exact (Web.handle_of_asked h).2

/-- A contact that fails leaves the tables. -/
theorem next_of_not_succeeds (h : ¬ c.Succeeds s) : c.next s = (c.world s).store := by
  cases ha : c.inquiry.asked? with
  | none => exact next_of_asked_none ha
  | some op =>
    rw [next_of_asked ha]
    obtain ⟨f, -, hn⟩ | ⟨out, hout, -⟩ := (c.event op).next_cases s
    · exact hn
    · exact absurd ((succeeds_iff ha).mpr ⟨out, hout⟩) h

end Contact

/-! ## Sequences of contacts -/

namespace Store

/-- The store after a list of contacts. -/
def serve (s : Store) (cs : List Contact) : Store := cs.foldl (fun s c => c.next s) s

@[simp] theorem serve_concat (s : Store) (cs : List Contact) (c : Contact) :
    s.serve (cs ++ [c]) = c.next (s.serve cs) := by
  simp [serve]

/-- Contacts amount to a run of operations, up to who holds the write lock at the end. -/
theorem exists_run_of_serve (s : Store) (cs : List Contact) :
    ∃ es locked, s.serve cs = { s.run es with writeLocked := locked } := by
  induction cs using List.reverseRecOn with
  | nil => exact ⟨[], s.writeLocked, rfl⟩
  | append_singleton cs c ih =>
    obtain ⟨es, locked, hs⟩ := ih
    rw [serve_concat]
    cases h : c.inquiry.asked? with
    | none =>
      refine ⟨es, c.writeLocked, ?_⟩
      rw [Contact.next_of_asked_none h, hs]
      rfl
    | some op =>
      -- An event brings its own lock, so that it happens the same whoever held it before.
      refine ⟨es ++ [c.event op], ((c.event op).next (s.run es)).writeLocked, ?_⟩
      rw [Contact.next_of_asked h, hs, run_concat]
      rfl

end Store

end SlotBooking
