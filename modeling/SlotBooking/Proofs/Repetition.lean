import SlotBooking.Proofs.Agreement
import SlotBooking.Proofs.Script

/-!
# The same question later

Availabilities and admissions ask the store twice: once for the terms that govern, and once for the
active bookings of a day at an address. Where neither of the two has changed, nor what the
collaborators say, they find what they found before; where one booking was added to the day, the
count is one more for the windows that it overlaps.

* `approach_echo`: the first checks, asked again.
* `Filter.list_concat_of_not_admits`, `Admission.countTaken_concat`: a day with one more row.
* `Admission.committed`: what a successful admission leaves.
-/

namespace SlotBooking

open Directory (Collaborators Service)
open Admission (Booked Request countTaken)

/-! ## Results with something done to them -/

section Map

variable {ε α β γ : Type}

theorem map_bind (x : Except ε α) (f : α → Except ε β) (g : β → γ) :
    (x >>= f).map g = x >>= fun a => (f a).map g := by
  cases x <;> rfl

theorem bind_of_map (x : Except ε α) (g : α → β) (f : β → Except ε γ) :
    x.map g >>= f = x >>= fun a => f (g a) := by
  cases x <;> rfl

end Map

/-! ## The approach -/

/-- What was found, with the service as the cache gives it back. -/
def Approach.kept (a : Approach) : Approach := { a with offer := a.offer.kept }

/-- Under the same clock and rules the approach is the same, but perhaps for the price of the
service. -/
theorem approach_echo (w w' : World) (hk : w.collaborators.Echoes w'.collaborators)
    (hnow : w'.now = w.now) (hrules : w'.store.rules = w.store.rules)
    (company address service : Option Int) (date : Date) :
    approach w' company address service date = approach w company address service date ∨
      approach w' company address service date =
        (approach w company address service date).map Approach.kept := by
  unfold approach
  rw [hnow, Store.governing_congr hrules]
  cases Admission.requirePositive "company_id" company with
  | error f => exact .inl rfl
  | ok c =>
  cases Admission.requirePositive "address_id" address with
  | error f => exact .inl rfl
  | ok a =>
  cases Admission.requirePositive "service_id" service with
  | error f => exact .inl rfl
  | ok v =>
  simp only [ok_bind, hk.fetchCompany]
  rcases hk.fetchService c v with hsame | hkept
  · rw [hsame]
    exact .inl rfl
  · -- Nothing but the offer itself looks at the price.
    simp only [hkept, map_bind, bind_of_map]
    exact .inr rfl

/-! ## The day -/

section Day

variable {rows : List Booking} {b : Booking} {w : Window} {company address : Int} {date : Date}

/-- A listing does not notice a row that it does not show. -/
theorem Filter.list_concat_of_not_admits {f : Filter} (h : ¬ f.Admits b) :
    f.list (rows ++ [b]) = f.list rows := by
  unfold list
  rw [List.filter_append, List.filter_cons_of_neg (by simpa using h), List.filter_nil,
    List.append_nil]

/-- One more booking counts once, in the windows of its day that it overlaps. -/
theorem countP_occupies_concat (hact : b.IsActive) :
    ((rows ++ [b]).countP fun r => decide (r.Occupies company address date w)) =
      (rows.countP fun r => decide (r.Occupies company address date w)) +
        if b.IsAt company address date ∧ b.Meets w then 1 else 0 := by
  have hoccupies : b.Occupies company address date w ↔
      b.IsAt company address date ∧ b.Meets w := and_iff_right hact
  rw [List.countP_append, List.countP_singleton]
  simp only [decide_eq_true_eq, hoccupies]

theorem Admission.countTaken_concat (hact : b.IsActive) (hread : b.Readable) {n : Nat}
    (h : countTaken w ((Filter.day company address date).list rows) = .ok n) :
    countTaken w ((Filter.day company address date).list (rows ++ [b])) =
      .ok (n + if b.IsAt company address date ∧ b.Meets w then 1 else 0) := by
  obtain ⟨hrows, rfl⟩ := countTaken_day_eq_ok.mp h
  refine countTaken_day_eq_ok.mpr ⟨fun r hr => ?_, (countP_occupies_concat hact).symm⟩
  rcases List.mem_append.mp hr with hr | hr
  · exact hrows r hr
  · rw [List.mem_singleton.mp hr]
    exact fun _ _ => hread

end Day

/-! ## After an admission -/

namespace Admission

variable {w : World} {r : Request} {b : Booking}

theorem Booked.isActive {rows : List Booking} (h : Booked w r rows b) : b.IsActive := by
  show Status.ActiveText b.status
  rw [h.status]
  exact (Status.activeText_text .confirmed).mpr trivial

/-- What a successful admission leaves: its table has one more row, which is active and has a start
time that can be read, and nothing else in the store differs. -/
theorem committed (h : (w.perform (.allocate r)).1 = .ok (.booking b)) :
    w.store.writeLocked = false ∧ ∃ rows, w.store.bookings = some rows ∧ Booked w r rows b ∧
      b.Readable ∧
      (w.perform (.allocate r)).2.store = { w.store with bookings := some (rows ++ [b]) } := by
  obtain ⟨b', s', hv, hout, hs⟩ | ⟨f, -, hout, -⟩ := perform_allocate w r
  · cases hout.symm.trans h
    obtain ⟨rows, hrows, hb, rfl⟩ := booked_of_ok hv
    rw [allocate_value] at hv
    simp only [bind_eq_ok] at hv
    obtain ⟨o, ho, ⟨c, v, u⟩, -, ha⟩ := hv
    obtain ⟨hl, -⟩ := Order.admit_eq_ok.mp ha
    obtain ⟨-, -, -, -, -, hstart, hparse, -⟩ := Request.order_eq_ok.mp ho
    have htime : o.startTime = b.startTime := Option.some.inj (hstart.symm.trans hb.startTime)
    have hread : b.Readable :=
      ⟨⟨o.start, b.duration⟩, Occupancy.window_eq_ok.mpr ⟨htime ▸ hparse, rfl⟩⟩
    exact ⟨hl, rows, hrows, hb, hread, hs⟩
  · rw [hout] at h
    cases h

end Admission

end SlotBooking
