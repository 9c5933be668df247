import SlotBooking.Proofs.Admission
import SlotBooking.Proofs.Source

/-!
# Ids that nothing is stored under

Bookings and rules that are there already are named by their ids. An operation on one of them looks
it up before anything else, so that an id of which there is no row is refused at once: nobody is
asked, and nothing is written. An id that no column can hold never comes to be looked for, and fails
without a refusal.

* `Operation.OnBooking`, `Operation.OnRule`: the operations on one booking and on one rule.
* `Lookup.FailsAtOnce`: a computation that fails before it asks the collaborators.
* `Store.booking_of_absent`, `Store.rule_of_absent`: looking up what is not there.
* `unknown_id_refused`: the main statement.
* `unknown_id_unforeseen`: an id that is too large to be looked for.
-/

namespace SlotBooking

open Directory (Lookup)
open Capacity.Management (Changes)

/-! ## Operations on one row -/

/-- The operation is about the booking of an id; a reason to cancel it is as short as permitted. -/
inductive Operation.OnBooking (id : Int) : Operation → Prop
  | view (user : Int) : OnBooking id (.viewBooking id user)
  | cancel (user : Int) {reason : Option String} (hr : ¬ Lifecycle.ReasonTooLong reason) :
    OnBooking id (.cancelBooking id user reason)
  | changeStatus (user : Int) (status : Text) : OnBooking id (.changeStatus id user status)

/-- The operation is about the rule of an id. -/
inductive Operation.OnRule (id : Int) : Operation → Prop
  | view : OnRule id (.viewRule id)
  | update (user : Int) (changes : Changes) : OnRule id (.updateRule id user changes)
  | delete (user : Int) : OnRule id (.deleteRule id user)

/-! ## Failing at once -/

section FailsAtOnce

variable {ε α β : Type} {e : ε} {x : Lookup ε α}

/-- The computation fails before it asks anything. -/
def Directory.Lookup.FailsAtOnce (x : Lookup ε α) (e : ε) : Prop := ∀ k, x.run k = (.error e, k)

theorem Directory.Lookup.FailsAtOnce.bind (h : x.FailsAtOnce e) (f : α → Lookup ε β) :
    (x >>= f).FailsAtOnce e := fun k => Lookup.run_bind_error (h k)

theorem Directory.Lookup.failsAtOnce_lift {r : Except ε α} (h : r = .error e) :
    (liftM r : Lookup ε α).FailsAtOnce e := by
  subst h
  exact fun _ => rfl

theorem World.perform_of_failsAtOnce {w : World} {op : Operation} {f : Failure}
    (h : (op.run w.store w.now).FailsAtOnce f) : w.perform op = (.error f, w) := by
  unfold World.perform World.ask
  rw [h]

end FailsAtOnce

/-! ## Looking up what is not there -/

/-- The failure for an id of which there is no row: the refusal, if a column can hold the id. -/
def Failure.ofUnknown (id : Int) (r : Refusal) : Failure :=
  if Store.Storable id then .refused r else .integerRange

section

variable {id : Int} (r : Refusal)

theorem Failure.ofUnknown_of_storable (h : Store.Storable id) : ofUnknown id r = .refused r :=
  if_pos h

theorem Failure.ofUnknown_of_not_storable (h : ¬ Store.Storable id) :
    ofUnknown id r = .integerRange := if_neg h

end

namespace Store

variable {s : Store} {id : Int}

theorem booking_of_absent {rows : List Booking} (hrows : s.bookings = some rows)
    (h : ∀ b ∈ rows, b.id ≠ id) : s.booking id = .error (.ofUnknown id (.bookingNotFound id)) := by
  have hnone : rows.find? (fun b => decide (b.id = id)) = none := by simpa using h
  unfold booking booking? Failure.ofUnknown requireStorable
  rw [hrows]
  simp only [Store.rows, ok_bind, List.mem_singleton, forall_eq]
  split
  · rw [ok_bind, hnone]
    rfl
  · rfl

theorem rule_of_absent {rules : List Capacity.Rule} (hrules : s.rules = some rules)
    (h : ∀ r ∈ rules, r.id ≠ id) : s.rule id = .error (.ofUnknown id (.ruleNotFound id)) := by
  have hnone : rules.find? (fun r => decide (r.id = id)) = none := by simpa using h
  unfold rule rule? Failure.ofUnknown requireStorable
  rw [hrules]
  simp only [Store.rows, ok_bind, List.mem_singleton, forall_eq]
  split
  · rw [ok_bind, hnone]
    rfl
  · rfl

end Store

section Perform

variable {w : World} {op : Operation} {id : Int} {f : Failure}

/-- An operation on a booking fails as looking the booking up does. -/
theorem World.perform_onBooking (hop : op.OnBooking id) (h : w.store.booking id = .error f) :
    w.perform op = (.error f, w) := by
  apply perform_of_failsAtOnce
  have hlift := Lookup.failsAtOnce_lift h
  cases hop with
  | view user => exact (hlift.bind _).bind _
  | cancel user hr =>
    unfold Operation.run Lifecycle.cancel
    simp only [if_neg hr]
    exact (hlift.bind _).bind _
  | changeStatus user t => exact (hlift.bind _).bind _

/-- An operation on a rule fails as looking the rule up does. -/
theorem World.perform_onRule (hop : op.OnRule id) (h : w.store.rule id = .error f) :
    w.perform op = (.error f, w) := by
  apply perform_of_failsAtOnce
  have hlift := Lookup.failsAtOnce_lift h
  cases hop with
  | view => exact hlift.bind _
  | update user changes => exact ((hlift.bind _).bind _).bind _
  | delete user => exact ((hlift.bind _).bind _).bind _

end Perform

/-! ## The main statement -/

/-- **Unknown ids.** While both tables are there, an operation on a booking or on a rule of an id of
which there is no row is refused because there is none, if a column can hold the id; otherwise the
id is out of range. Either way the world stays as it is: both tables, and the collaborators, who are
not asked. -/
theorem unknown_id_refused (w : World) {rows : List Booking} {rules : List Capacity.Rule}
    (hrows : w.store.bookings = some rows) (hrules : w.store.rules = some rules) (id : Int) :
    ((∀ b ∈ rows, b.id ≠ id) → ∀ op : Operation, op.OnBooking id →
      (Store.Storable id → w.perform op = (.error (.refused (.bookingNotFound id)), w)) ∧
      (¬ Store.Storable id → w.perform op = (.error .integerRange, w))) ∧
    ((∀ r ∈ rules, r.id ≠ id) → ∀ op : Operation, op.OnRule id →
      (Store.Storable id → w.perform op = (.error (.refused (.ruleNotFound id)), w)) ∧
      (¬ Store.Storable id → w.perform op = (.error .integerRange, w))) := by
  refine ⟨fun habsent op hop => ?_, fun habsent op hop => ?_⟩
  · rw [World.perform_onBooking hop (Store.booking_of_absent hrows habsent)]
    exact ⟨fun h => by rw [Failure.ofUnknown_of_storable _ h],
      fun h => by rw [Failure.ofUnknown_of_not_storable _ h]⟩
  · rw [World.perform_onRule hop (Store.rule_of_absent hrules habsent)]
    exact ⟨fun h => by rw [Failure.ofUnknown_of_storable _ h],
      fun h => by rw [Failure.ofUnknown_of_not_storable _ h]⟩

section Sample

open Admission (sampleWorld)

theorem sample_ids (id : Int) (h : id ≠ 1) : (∀ b ∈ [Admission.sampleBooking], b.id ≠ id) ∧
    ∀ r ∈ ([⟨1, ⟨1, none, none⟩, ⟨30, 2, 14, 60⟩⟩] : List Capacity.Rule), r.id ≠ id := by
  simp [Admission.sampleBooking, h.symm]

/-- In the sample world there are a booking and a rule of id 1, and none of id 2. -/
theorem unknown_id_refused_sample :
    (sampleWorld "" false).perform (.changeStatus 2 7 "confirmed") =
      (.error (.refused (.bookingNotFound 2)), sampleWorld "" false) ∧
    (sampleWorld "" false).perform (.deleteRule 2 7) =
      (.error (.refused (.ruleNotFound 2)), sampleWorld "" false) := by
  obtain ⟨hbookings, hrules⟩ := sample_ids 2 (by decide)
  obtain ⟨hb, hr⟩ := unknown_id_refused (sampleWorld "" false) rfl rfl 2
  have hfits : Store.Storable 2 := by decide
  exact ⟨(hb hbookings _ (.changeStatus 7 _)).1 hfits, (hr hrules _ (.delete 7)).1 hfits⟩

/-- No row can have the id 2⁶³, and no operation on it is refused because there is none. -/
theorem unknown_id_unforeseen :
    (∀ b ∈ [Admission.sampleBooking], b.id ≠ 0x8000000000000000) ∧
    (∀ op : Operation, op.OnBooking 0x8000000000000000 →
      ((sampleWorld "" false).perform op).1 = .error .integerRange) ∧
    ∀ op : Operation, op.OnRule 0x8000000000000000 →
      ((sampleWorld "" false).perform op).1 = .error .integerRange := by
  obtain ⟨hbookings, hrules⟩ := sample_ids 0x8000000000000000 (by decide)
  refine ⟨hbookings, fun op hop => ?_, fun op hop => ?_⟩
  · rw [World.perform_onBooking hop (Store.booking_of_absent rfl hbookings)]
    rfl
  · rw [World.perform_onRule hop (Store.rule_of_absent rfl hrules)]
    rfl

end Sample

end SlotBooking
