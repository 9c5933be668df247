import SlotBooking.Proofs.Authority
import SlotBooking.Proofs.Occupancy

/-!
# Stored bookings are well formed

Counting what is taken reads stored start times with nothing around it, so that one unreadable row
would keep a whole day from being booked. No such row is ever stored: a booking is admitted with a
start that was read, for positive ids, under terms that are within their ranges, and later only its
status changes, to one that was read too.

* `Booking.WellFormed`: what holds of every stored booking.
* `Event.Makes.wellFormed`, `Event.Admits.wellFormed`: the two ways in which a row comes about.
* `Store.run_wellFormed`: the tables after a run.
* `Store.countOverlaps_of_readable`: listings of readable bookings can be counted.
* `Store.serve_wellFormed`: the main statement.
-/

namespace SlotBooking

open Admission (Order Request)

/-! ## One booking -/

/-- What holds of every stored booking. -/
structure Booking.WellFormed (b : Booking) : Prop where
  status : ∃ s : Status, b.status = s.text
  startTime : ∃ m, TimeOfDay.parse b.startTime = .ok m
  duration : 1 ≤ b.duration ∧ b.duration ≤ 480
  user : 0 < b.user
  company : 0 < b.company
  address : 0 < b.address
  service : 0 < b.service
  price : ¬ b.price.IsNaN

section Step

variable {e : Event} {s : Store} {b a : Booking}

theorem Booking.WellFormed.readable (h : b.WellFormed) : b.Readable := by
  obtain ⟨m, hm⟩ := h.startTime
  exact ⟨⟨m, b.duration⟩, Occupancy.window_eq_ok.mpr ⟨hm, rfl⟩⟩

/-- The other fields of a well-formed booking bear every status. -/
theorem Booking.WellFormed.restated (h : b.WellFormed) (status : Status) (reason : Option String)
    (time : Option Instant) : Booking.WellFormed { b with
      status := status.text, cancellationReason := reason, cancelledAt := time } :=
  { h with status := ⟨status, rfl⟩ }

/-- What an event makes of a well-formed booking is well formed. -/
theorem Event.Makes.wellFormed (h : e.Makes s b a) (hb : b.WellFormed) : a.WellFormed := by
  cases h with
  | kept => exact hb
  | @cancelled status reason => exact hb.restated status reason (some e.now)
  | @statusSet _ _ status => exact hb.restated status b.cancellationReason b.cancelledAt

/-- A booking is admitted well formed, under sound rules. -/
theorem Event.Admits.wellFormed (h : e.Admits s b) (hrules : s.RulesSound) : b.WellFormed := by
  obtain ⟨r, o, c, v, w, -, ho, -, hadmit⟩ := h.admitted
  obtain ⟨⟨-, huser⟩, ⟨-, hcompany⟩, ⟨-, haddress⟩, ⟨-, hservice⟩, -, -, hstart, -⟩ :=
    Request.order_eq_ok.mp ho
  obtain ⟨-, g, hg, -, -, -, -, -, -, -, -, hadd⟩ := Order.admit_eq_ok.mp hadmit
  obtain ⟨rows, -, hkeeps, rfl, -⟩ := Store.addBooking_eq_ok.mp hadd
  have hterms : g.terms.Permitted :=
    Store.RulesSound.governing (s := (e.world s).store) hrules hg
  exact {
    status := ⟨.confirmed, rfl⟩
    startTime := ⟨o.start, hstart⟩
    duration := hterms .slotMinutes
    user := huser
    company := hcompany
    address := haddress
    service := hservice
    price := fun hnan => hkeeps.price (Binary64.isNaN_dropZeroSign.mp hnan) }

end Step

/-! ## Tables -/

namespace Store

/-- After every run from empty tables all bookings are well formed. -/
theorem run_wellFormed (es : List Event) :
    ∃ rows, (empty.run es).bookings = some rows ∧ ∀ b ∈ rows, b.WellFormed := by
  induction es using List.reverseRecOn with
  | nil => exact ⟨[], rfl, fun b hb => absurd hb List.not_mem_nil⟩
  | append_singleton es e ih =>
    obtain ⟨rows, hr, hrows⟩ := ih
    rw [run_concat]
    obtain ⟨f, hf, hmakes⟩ | ⟨b, hadm, hnew⟩ :=
      e.next_rows hr ((run_keyed empty_keyed es).bookings rows hr)
    · refine ⟨rows.map f, hf, fun a ha => ?_⟩
      obtain ⟨b, hb, rfl⟩ := List.mem_map.mp ha
      exact (hmakes b hb).wellFormed (hrows b hb)
    · refine ⟨rows ++ [b], hnew, fun a ha => ?_⟩
      rcases List.mem_append.mp ha with ha | ha
      · exact hrows a ha
      · rw [List.mem_singleton.mp ha]
        exact hadm.wellFormed (run_rulesSound (s := empty) ⟨[], rfl, .nil⟩ es)

variable {s : Store} {rows bs : List Booking}

/-- Bookings from a table in which all start times can be read are counted, whatever the window. -/
theorem countOverlaps_of_readable (hread : ∀ b ∈ rows, b.Readable) (hbs : bs ⊆ rows) (w : Window) :
    ∃ n, countOverlaps w (bs.map (·.toOccupancy)) = .ok n := by
  refine ⟨_, countOverlaps_eq_ok.mpr ⟨fun o ho _ => ?_, rfl⟩⟩
  obtain ⟨b, hb, rfl⟩ := List.mem_map.mp ho
  exact hread b (hbs hb)

/-- The store lists rows of its table. -/
theorem list_subset (hr : s.bookings = some rows) {f : Filter} (h : s.list f = .ok bs) :
    bs ⊆ rows := by
  obtain ⟨rows', hr', -, rfl⟩ := list_eq_ok.mp h
  cases hr.symm.trans hr'
  exact fun b hb => (Filter.mem_list.mp hb).1

/-- The store lists rows of its table. -/
theorem listOf_subset (hr : s.bookings = some rows) {user : Int} {status : Option Status}
    (h : s.listOf user status = .ok bs) : bs ⊆ rows := by
  obtain ⟨rows', hr', -, rfl⟩ := listOf_eq_ok.mp h
  cases hr.symm.trans hr'
  intro b hb
  exact (List.mem_filter.mp ((List.mergeSort_perm _ _).mem_iff.mp hb)).1

/-- **Well-formed bookings.** Whatever contacts a service has had since its tables were empty, no
two bookings have one id, and each has one of the statuses, a start time that can be read, a length
between one minute and eight hours, positive ids and a price that is a number. So whatever the store
lists, for a company or for a user, can be counted for every window. -/
theorem serve_wellFormed (cs : List Contact) :
    ∃ rows, (empty.serve cs).bookings = some rows ∧ (rows.map (·.id)).Nodup ∧
      (∀ b ∈ rows, b.WellFormed) ∧
      ∀ bs, ((∃ f, (empty.serve cs).list f = .ok bs) ∨
          ∃ user status, (empty.serve cs).listOf user status = .ok bs) →
        ∀ w, ∃ n, countOverlaps w (bs.map (·.toOccupancy)) = .ok n := by
  obtain ⟨es, locked, hs⟩ := empty.exists_run_of_serve cs
  obtain ⟨rows, hr, hrows⟩ := run_wellFormed es
  have hids := (run_keyed empty_keyed es).bookings rows hr
  have hr : (empty.serve cs).bookings = some rows := by
    rw [hs]
    exact hr
  refine ⟨rows, hr, hids, hrows, fun bs hbs => ?_⟩
  refine countOverlaps_of_readable (fun b hb => (hrows b hb).readable) ?_
  obtain ⟨f, hf⟩ | ⟨user, status, hu⟩ := hbs
  · exact list_subset hr hf
  · exact listOf_subset hr hu

end Store

end SlotBooking
