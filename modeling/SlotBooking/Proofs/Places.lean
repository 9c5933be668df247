import SlotBooking.Proofs.Agreement

/-!
# The places left at a slot

Which bookings take a place is decided twice, by the listing of the day and again by the count, and
each booking is reckoned with its own length. Here a slot of an answer is compared with the table
itself, whatever the terms were when its bookings were admitted.

* `Booking.TakesPlace`: a booking takes a place in a window, said of its row alone.
* `availability_counts`: the slots of every day that is answered.
-/

namespace SlotBooking

open Directory (Company fetchCompany)

/-! ## Rows that take a place -/

namespace Booking

/-- The booking is for a date at an address of a company, it has not been withdrawn, and its own
window overlaps the one from `start` to `stop`. -/
def TakesPlace (b : Booking) (company address : Int) (date : Date) (start stop : Int) : Prop :=
  b.company = company ∧ b.address = address ∧ b.date = date ∧ b.status ∉ Status.inactiveTexts ∧
    ∃ m, TimeOfDay.parse b.startTime = .ok m ∧ start < m + b.duration ∧ m < stop

instance (b : Booking) (company address : Int) (date : Date) (start stop : Int) :
    Decidable (b.TakesPlace company address date start stop) :=
  inferInstanceAs (Decidable (_ ∧ _ ∧ _ ∧ _ ∧ _))

theorem meets_window {b : Booking} {w : Window} : b.Meets w ↔
    ∃ m, TimeOfDay.parse b.startTime = .ok m ∧ w.start < m + b.duration ∧ m < w.stop := by
  unfold Occupancy.Meets
  constructor
  · rintro ⟨v, hv, hoverlaps⟩
    obtain ⟨hm, hlength⟩ := Occupancy.window_eq_ok.mp hv
    exact ⟨v.start, hm, hlength ▸ hoverlaps.1, hoverlaps.2⟩
  · rintro ⟨m, hm, hbefore, hafter⟩
    exact ⟨⟨m, b.duration⟩, Occupancy.window_eq_ok.mpr ⟨hm, rfl⟩, hbefore, hafter⟩

/-- What the row says of a place is what listing and counting find. -/
theorem takesPlace_iff {b : Booking} {company address : Int} {date : Date} {w : Window} :
    b.TakesPlace company address date w.start w.stop ↔ b.Occupies company address date w := by
  have hactive : b.IsActive ↔ b.status ∉ Status.inactiveTexts := Status.activeText_iff
  unfold TakesPlace Occupies IsAt
  rw [hactive, meets_window]
  constructor
  · rintro ⟨hcompany, haddress, hdate, hkept, hmeets⟩
    exact ⟨hkept, ⟨hcompany, haddress, hdate⟩, hmeets⟩
  · rintro ⟨hkept, ⟨hcompany, haddress, hdate⟩, hmeets⟩
    exact ⟨hcompany, haddress, hdate, hkept, hmeets⟩

end Booking

/-! ## The slots of an answer -/

/-- An answer is the approach and the slots. -/
theorem availability_eq_ok {w : World} {company address service : Option Int} {date : Date}
    {d : DayAvailability} :
    (w.perform (.availability company address service date)).1 = .ok (.day d) ↔
      ∃ a slots, approach w company address service date = .ok a ∧
        Availability.slots w.store w.now a.company a.address date (a.seller.scheduleOn date)
          a.governing.terms = .ok slots ∧
        d = ⟨a.company, a.address, a.service, date, a.governing, slots⟩ := by
  rw [perform_availability_fst]
  simp only [bind_eq_ok]
  refine exists_congr fun a => ?_
  constructor
  · rintro ⟨ha, slots, hslots, h⟩
    cases h
    exact ⟨slots, ha, hslots, rfl⟩
  · rintro ⟨slots, ha, hslots, rfl⟩
    exact ⟨ha, slots, hslots, rfl⟩

section Places

variable {store : Store} {now : Instant} {company address : Int} {date : Date} {day : DaySchedule}
  {terms : Capacity.Terms} {slots : List Slot}

/-- A slot leaves what the rows that take a place in it do not take, but never less than none. -/
theorem slot_counts
    (h : Availability.slots store now company address date day terms = .ok slots) {s : Slot}
    (hs : s ∈ slots) : s.duration = terms.slotMinutes ∧ s.places = terms.maxConcurrent ∧
      ∃ rows, store.bookings = some rows ∧ s.free = max 0 (s.places - rows.countP fun b =>
        decide (b.TakesPlace company address date s.start (s.start + s.duration))) := by
  have hworking := isWorkingDay_of_mem_slots h hs
  obtain ⟨bookings, taken, hlist, hcount, hslot⟩ := (slots_eq_ok hworking h).2 s hs
  obtain ⟨rows, hrows, -, rfl⟩ := Store.list_eq_ok.mp hlist
  obtain ⟨-, rfl⟩ := Admission.countTaken_day_eq_ok.mp hcount
  rw [hslot]
  refine ⟨rfl, rfl, rows, hrows, ?_⟩
  have htaken : (rows.countP fun b =>
      decide (b.Occupies company address date ⟨s.start, terms.slotMinutes⟩)) =
      rows.countP fun b =>
        decide (b.TakesPlace company address date s.start (s.start + terms.slotMinutes)) :=
    List.countP_congr fun b _ => by
      rw [decide_eq_true_eq, decide_eq_true_eq]
      exact Booking.takesPlace_iff.symm
  simp only [htaken]

end Places

/-- **Places.** Whenever an availability is answered: the answer is for the company, the address,
the service and the date of the query, under the terms that govern there. On a day that is not a
working day it has no slots; on a working day its slots start where the grid of the day has starts
to offer, as minutes and as they are written. Every slot has the length and the number of places of the terms, and of these are left
what the rows that take a place in its window do not take, or none if they take more. -/
theorem availability_counts (w : World) (company address service : Option Int) (date : Date)
    (d : DayAvailability)
    (h : (w.perform (.availability company address service date)).1 = .ok (.day d)) :
    company = some d.company ∧ address = some d.address ∧ service = some d.service ∧
    d.date = date ∧
    w.store.governing ⟨d.company, some d.address, some d.service⟩ = .ok d.governing ∧
    ∃ c, (fetchCompany d.company).value w.collaborators = .ok c ∧
      (¬ (c.scheduleOn date).IsWorkingDay → d.slots = []) ∧
      ((c.scheduleOn date).IsWorkingDay →
        Schedule.daySlots (c.scheduleOn date) d.governing.terms.slotMinutes date w.now
          d.governing.terms.noticeMinutes = .ok (d.slots.map (·.start)) ∧
        Schedule.startTimes (c.scheduleOn date) d.governing.terms.slotMinutes date w.now
          d.governing.terms.noticeMinutes = .ok (d.slots.map (·.startTime))) ∧
      ∀ s ∈ d.slots, s.duration = d.governing.terms.slotMinutes ∧
        s.places = d.governing.terms.maxConcurrent ∧
        (∃ rows, w.store.bookings = some rows ∧ s.free = max 0 (s.places - rows.countP fun b =>
          decide (b.TakesPlace d.company d.address date s.start (s.start + s.duration)))) ∧
        (d.governing.terms.Permitted → 0 ≤ s.free ∧ s.free ≤ s.places) := by
  obtain ⟨a, slots, ha, hslots, rfl⟩ := availability_eq_ok.mp h
  obtain ⟨⟨hcompany, -⟩, ⟨haddress, -⟩, ⟨hservice, -⟩, hseller, -, -, -, hgoverning, -⟩ :=
    approach_eq_ok.mp ha
  refine ⟨hcompany, haddress, hservice, rfl, hgoverning, a.seller, hseller, fun hclosed => ?_,
    fun hworking => ⟨(slots_eq_ok hworking hslots).1, startTimes_eq_ok hworking hslots⟩,
    fun s hs => ?_⟩
  · rw [slots_of_closed hclosed] at hslots
    cases hslots
    rfl
  · obtain ⟨hlength, hplaces, rows, hrows, hfree⟩ := slot_counts hslots hs
    refine ⟨hlength, hplaces, ⟨rows, hrows, hfree⟩, fun hpermitted => ?_⟩
    have hlow : 1 ≤ a.governing.terms.maxConcurrent := (hpermitted .maxConcurrent).1
    omega

open Admission (sampleWorld) in
/-- At 10:00 one of two places is left, as one row takes a place. -/
theorem availability_counts_sample : ∃ d,
    ((sampleWorld "" false).perform (.availability (some 1) (some 1) (some 1) sampleDate)).1 =
      .ok (.day d) ∧ ⟨600, 30, 1, 2⟩ ∈ d.slots ∧ d.governing.terms.maxConcurrent = 2 ∧
      ∃ rows, (sampleWorld "" false).store.bookings = some rows ∧
        1 = max (0 : Int) (2 - rows.countP fun b =>
          decide (b.TakesPlace d.company d.address sampleDate 600 630)) := by
  obtain ⟨d, hd, hs⟩ := sample_availability "" false
  obtain ⟨-, -, -, -, -, c, -, -, -, hslots⟩ :=
    availability_counts (sampleWorld "" false) (some 1) (some 1) (some 1) sampleDate d hd
  obtain ⟨-, hplaces, ⟨rows, hrows, hfree⟩, -⟩ := hslots _ hs
  exact ⟨d, hd, hs, hplaces.symm, rows, hrows, hfree⟩

end SlotBooking
