import SlotBooking.Proofs.Cancellation

/-!
# Whom a cancelled status names

A cancelled status names the side that cancelled: the user for whom the booking is, or the company.
Cancelling itself takes the status from who acts, so that it is always right. A manager who sets a
status says which one it is, and may name the other side.

* `Event.Attributes`: the status that a booking gets is that of the side of the user who acts.
* `Event.Mislabels`: a manager sets the cancelled status of the other side.
* `Store.run_attribution`: in every run, a cancelled status that a booking gets is that of the side
  of the user who acts, except where a manager mislabels it.
* `cancelled_in_name_of_user`: a booking that is mislabelled.
-/

namespace SlotBooking

open Lifecycle (Manages readStatus)

/-- The status that the event gives to a booking is that of the side of the user who acts: its
owner, or a manager of its company who is not its owner. Other statuses name no side. -/
def Event.Attributes (e : Event) (b : Booking) : Status → Prop
  | .cancelledByUser => e.operation.user? = some b.user
  | .cancelledByCompany => e.operation.user? ≠ some b.user ∧ e.ByManagerOf b.company
  | _ => True

/-- A manager sets a cancelled status that is not that of his side: for the booking of another user
that of its user, for his own booking that of the company. -/
def Event.Mislabels (e : Event) (b : Booking) (status : Status) : Prop :=
  ∃ user t, e.operation = .changeStatus b.id user t ∧ readStatus t = .ok status ∧
    Manages e.collaborators user b.company ∧ status.IsCancelled ∧
    (status = .cancelledByUser ↔ user ≠ b.user)

section Step

variable {e : Event} {s : Store} {b a : Booking} {user : Int} {t : Text} {status : Status}

/-- Only a change of status can mislabel. -/
theorem Event.not_mislabels_of_cancel {reason : Option String}
    (hop : e.operation = .cancelBooking b.id user reason) : ¬ e.Mislabels b status := by
  rintro ⟨_, _, hop', -⟩
  cases hop.symm.trans hop'

/-- A manager who sets a cancelled status may name either side. -/
theorem Event.attributes_iff_of_changeStatus (hop : e.operation = .changeStatus b.id user t)
    (ht : readStatus t = .ok status) (hm : Manages e.collaborators user b.company)
    (hc : status.IsCancelled) : e.Attributes b status ↔ ¬ e.Mislabels b status := by
  have huser : e.operation.user? = some user := by
    rw [hop]
    rfl
  have hmislabels : e.Mislabels b status ↔ (status = .cancelledByUser ↔ user ≠ b.user) := by
    constructor
    · rintro ⟨user', t', hop', -, -, -, h⟩
      cases hop.symm.trans hop'
      exact h
    · exact fun h => ⟨user, t, hop, ht, hm, hc, h⟩
  rw [hmislabels]
  cases status with
  | cancelledByUser => simp [Event.Attributes, huser]
  | cancelledByCompany => simp [Event.Attributes, huser, Event.byManagerOf huser hm]
  | pending | confirmed | inProgress | completed | noShow => exact hc.elim

/-- Cancelling takes the status from who acts; a change of status takes it from the request. -/
theorem Event.attributes_of_cancels {reason : Option String}
    (h : Lifecycle.Cancels e.collaborators b b.id e.operation status reason) :
    e.Attributes b status ↔ ¬ e.Mislabels b status := by
  generalize hop : e.operation = op at h
  cases h with
  | owner =>
    have howner : e.operation.user? = some b.user := by
      rw [hop]
      rfl
    exact iff_of_true howner (Event.not_mislabels_of_cancel hop)
  | @manager user _ _ hne hm =>
    have huser : e.operation.user? = some user := by
      rw [hop]
      rfl
    have hother : e.operation.user? ≠ some b.user := by
      rw [huser]
      exact fun h => hne (Option.some.inj h).symm
    exact iff_of_true ⟨hother, Event.byManagerOf huser hm⟩ (Event.not_mislabels_of_cancel hop)
  | status hm ht hc => exact Event.attributes_iff_of_changeStatus hop ht hm hc

/-- A booking keeps its status in an event, or gets one that the event attributes, unless it is
mislabelled. -/
theorem Event.Makes.attributed (h : e.Makes s b a) (hc : status.IsCancelled)
    (ha : a.status = status.text) :
    b.status = a.status ∨ (e.Attributes b status ↔ ¬ e.Mislabels b status) := by
  cases h with
  | kept => exact .inl rfl
  | @cancelled status' _ _ hcancels =>
    obtain rfl : status' = status := Status.text_injective ha
    exact .inr (Event.attributes_of_cancels hcancels)
  | @statusSet _ _ status' _ _ _ _ hnot =>
    obtain rfl : status' = status := Status.text_injective ha
    exact absurd hc hnot

end Step

/-- **Attribution.** Whenever, in a run from an empty table of bookings, a row has a cancelled
status after an event, it was a row under its id before; and either it had that status, or the
status is that of the side of the user who acts: the owner's, or that of the company for a manager
who is not the owner. The only exception is a manager who sets the cancelled status of the other
side. -/
theorem Store.run_attribution (rules : Option (List Capacity.Rule)) (es : List Event) (e : Event) :
    ∃ rows rows', ((Store.unbooked rules).run es).bookings = some rows ∧
      ((Store.unbooked rules).run (es ++ [e])).bookings = some rows' ∧
      ∀ a ∈ rows', ∀ status : Status, status.IsCancelled → a.status = status.text →
        ∃ b ∈ rows, b.id = a.id ∧ (b.status = a.status ∨
          (e.Attributes b status ↔ ¬ e.Mislabels b status)) := by
  obtain ⟨rows, hr, hs⟩ := run_bookings rules es
  obtain ⟨f, hf, hmakes⟩ | ⟨new, hadm, hrows⟩ := e.next_rows hr hs.ascending.nodup
  · refine ⟨rows, rows.map f, hr, by rw [run_concat]; exact hf, fun a ha status hc hst => ?_⟩
    obtain ⟨b, hb, rfl⟩ := List.mem_map.mp ha
    exact ⟨b, hb, (hmakes b hb).id_eq.symm, (hmakes b hb).attributed hc hst⟩
  · refine ⟨rows, rows ++ [new], hr, by rw [run_concat]; exact hrows, fun a ha status hc hst => ?_⟩
    rcases List.mem_append.mp ha with ha | ha
    · exact ⟨a, ha, rfl, .inl rfl⟩
    · -- A booking is admitted as confirmed.
      obtain ⟨o, g, v, w, taken, -, -, -, -, hnew, -⟩ := hadm.row hr
      rw [List.mem_singleton.mp ha, hnew] at hst
      obtain rfl : Status.confirmed = status := Status.text_injective hst
      exact hc.elim

/-- From empty tables: user 7 books at company 1, and its manager 5 sets the booking to the status
of a cancellation by the user, who did not act. -/
theorem cancelled_in_name_of_user : ∃ b a,
    ((Store.unbooked (some [])).run ([.allocate Admission.sampleRequest].map
      attendedEvent)).bookings = some [b] ∧
    ((Store.unbooked (some [])).run ([.allocate Admission.sampleRequest,
      .changeStatus 1 5 "cancelled_by_user"].map attendedEvent)).bookings = some [a] ∧
    b.id = a.id ∧ b.status ≠ a.status ∧ a.status = Status.cancelledByUser.text ∧
    ¬ (attendedEvent (.changeStatus 1 5 "cancelled_by_user")).Attributes b .cancelledByUser := by
  refine ⟨sampleRow, sampleRow.cancelled .cancelledByUser none emptyWorld.now, ?_, ?_, rfl,
    by decide, rfl, ?_⟩
  · show ((attendedEvent (.allocate _)).next (Store.unbooked (some []))).bookings = _
    rw [sampleRow_admitted]
  · show ((attendedEvent (.changeStatus 1 5 "cancelled_by_user")).next
      ((attendedEvent (.allocate _)).next (Store.unbooked (some [])))).bookings = _
    rw [sampleRow_admitted]
    rfl
  · intro h
    cases h

end SlotBooking
