import SlotBooking.Proofs.Authority
import SlotBooking.Proofs.Filling

/-!
# When a cancellation is noted

The time of a cancellation is noted together with a cancelled status, so the two would say the same
of every booking, were it not for one change of status: an inactive booking may not become active
again, but a cancelled one may still be set to a no-show, and then keeps the time.

* `Event.Relabels`, `Store.Relabelled`: that change, in one event and in a run.
* `Store.Stamped`: what a run makes of the time and the status of every booking.
* `Store.run_cancellation`: the time is noted exactly for bookings that are cancelled or were
  relabelled.
* `cancelled_no_show`: a booking that is relabelled.
-/

namespace SlotBooking

open Capacity (Rule)

theorem Ascending.nodup {rows : List Booking} (h : Ascending rows) : (rows.map (·.id)).Nodup :=
  h.imp fun hlt => Int.ne_of_lt hlt

/-- A status that takes up no place and is not that of a cancelled booking. -/
theorem Status.eq_noShow {s : Status} (ha : ¬ s.IsActive) (hc : ¬ s.IsCancelled) : s = .noShow := by
  cases s with
  | pending | confirmed | inProgress | completed => exact absurd trivial ha
  | cancelledByUser | cancelledByCompany => exact absurd trivial hc
  | noShow => rfl

/-- The booking of an id was cancelled, and the event sets its status to that of a no-show. -/
def Event.Relabels (e : Event) (s : Store) (id : Int) : Prop :=
  ∃ b user t out, s.HasBooking b ∧ b.id = id ∧ Status.CancelledText b.status ∧
    e.operation = .changeStatus id user t ∧ Lifecycle.readStatus t = .ok .noShow ∧
    e.outcome s = .ok out

namespace Store

/-- In one of its events a run relabelled the booking of an id. -/
def Relabelled (s : Store) (es : List Event) (id : Int) : Prop :=
  ∃ before e, before ++ [e] <+: es ∧ e.Relabels (s.run before) id

section Relabelled

variable {s : Store} {es : List Event} {e : Event} {id : Int} {b : Booking}

theorem not_relabelled_nil : ¬ s.Relabelled [] id := by
  rintro ⟨before, e, hp, -⟩
  simp at hp

theorem relabelled_concat :
    s.Relabelled (es ++ [e]) id ↔ s.Relabelled es id ∨ e.Relabels (s.run es) id := by
  constructor
  · rintro ⟨before, e', hp, h⟩
    rcases List.prefix_concat_iff.mp hp with heq | hp
    · obtain ⟨rfl, he⟩ := List.append_inj' heq rfl
      cases he
      exact .inr h
    · exact .inl ⟨before, e', hp, h⟩
  · rintro (⟨before, e', hp, h⟩ | h)
    · exact ⟨before, e', hp.trans (List.prefix_append _ _), h⟩
    · exact ⟨es, e, List.prefix_refl _, h⟩

end Relabelled

end Store

section Step

variable {e : Event} {s : Store} {rows : List Booking} {b a : Booking}

/-- A booking that is relabelled keeps all but its status. -/
theorem Event.Relabels.next (hr : s.bookings = some rows) (hasc : Ascending rows) (hb : b ∈ rows)
    (h : e.Relabels s b.id) :
    Status.CancelledText b.status ∧ (e.next s).HasBooking (b.withStatus .noShow) := by
  obtain ⟨b', user, t, out, hb', hid, hcancelled, hop, ht, hdone⟩ := h
  obtain rfl := hasc.eq_of_id_eq ((Store.hasBooking_iff hr).mp hb') hb hid
  refine ⟨hcancelled, ?_⟩
  obtain ⟨f, hf, -⟩ | ⟨out, -, heff⟩ := e.next_cases s
  · cases hf.symm.trans hdone
  rw [hop] at heff
  generalize e.next s = s' at heff
  cases heff with
  | read h => exact h.elim
  | cancelled _ _ _ hcancels =>
    cases hcancels with
    | status _ ht' hc =>
      cases ht.symm.trans ht'
      exact hc.elim
  | statusSet _ hrow _ ht' =>
    cases ht.symm.trans ht'
    obtain ⟨hmem, hid⟩ := Store.booking_mem hrow
    obtain rfl := hasc.eq_of_id_eq ((Store.hasBooking_iff hr).mp hmem) hb hid
    refine ⟨_, Store.putBooking_rows hr hasc.nodup hmem rfl, ?_⟩
    exact List.mem_map.mpr ⟨_, hb, if_pos rfl⟩

/-- A cancelled booking that gets another status is relabelled. -/
theorem Event.relabels_of_cancelled {status : Status} (hb : s.HasBooking b)
    (hcancelled : Status.CancelledText b.status) {user : Int} {t : Text}
    (hop : e.operation = .changeStatus b.id user t) (ht : Lifecycle.readStatus t = .ok status)
    (hdone : e.outcome s = .ok (.booking (b.withStatus status))) (hc : ¬ status.IsCancelled)
    (ha : status.IsActive → b.IsActive) : e.Relabels s b.id := by
  have hinactive : ¬ status.IsActive := fun h =>
    Booking.not_isActive_of_cancelled hcancelled (ha h)
  rw [Status.eq_noShow hinactive hc] at ht
  exact ⟨b, user, t, _, hb, rfl, hcancelled, hop, ht, hdone⟩

/-- A no-show stays one. -/
theorem Event.Makes.noShow (h : e.Makes s b a) (hb : b.status = Status.noShow.text) :
    a.status = Status.noShow.text := by
  have hinactive : ¬ b.IsActive := by
    intro h
    unfold Booking.IsActive Occupancy.IsActive at h
    rw [hb, Status.activeText_text] at h
    exact h
  cases h with
  | kept => exact hb
  | cancelled hc => exact absurd (Booking.isActive_of_cancellable hc) hinactive
  | statusSet _ _ _ _ hc ha =>
    rw [Status.eq_noShow (fun h => hinactive (ha h)) hc]
    rfl

end Step

namespace Store

/-- The time of a cancellation is noted for the bookings that are cancelled or were relabelled, and
those that were relabelled are no-shows. -/
structure Stamped (s : Store) (es : List Event) (rows : List Booking) : Prop where
  noted : ∀ b ∈ rows, b.cancelledAt.isSome ↔
    Status.CancelledText b.status ∨ s.Relabelled es b.id
  relabelled : ∀ id, s.Relabelled es id → ∃ b ∈ rows, b.id = id ∧ b.status = Status.noShow.text

section Stamped

variable {s : Store} {es : List Event} {e : Event} {rows : List Booking}

/-- An event that makes something of every booking. -/
theorem Stamped.map (h : s.Stamped es rows) (hr : (s.run es).bookings = some rows)
    (hasc : Ascending rows) {f : Booking → Booking}
    (hf : (e.next (s.run es)).bookings = some (rows.map f))
    (hmakes : ∀ b ∈ rows, e.Makes (s.run es) b (f b)) : s.Stamped (es ++ [e]) (rows.map f) := by
  have hrow {b : Booking} (hb : b ∈ rows) : (s.run es).HasBooking b := ⟨rows, hr, hb⟩
  -- What is relabelled now is the row of its id afterwards.
  have hnow {b : Booking} (hb : b ∈ rows) (h : e.Relabels (s.run es) b.id) :
      Status.CancelledText b.status ∧ f b = b.withStatus .noShow := by
    obtain ⟨hcancelled, hnext⟩ := h.next hr hasc hb
    have hasc' : Ascending (rows.map f) := hasc.map fun b hb => (hmakes b hb).id_eq
    exact ⟨hcancelled, hasc'.eq_of_id_eq (List.mem_map_of_mem hb) ((hasBooking_iff hf).mp hnext)
      (hmakes b hb).id_eq⟩
  constructor
  · intro a ha
    obtain ⟨b, hb, rfl⟩ := List.mem_map.mp ha
    have hnoted := h.noted b hb
    rw [(hmakes b hb).id_eq, relabelled_concat]
    by_cases hrel : e.Relabels (s.run es) b.id
    · obtain ⟨hcancelled, hfb⟩ := hnow hb hrel
      rw [hfb]
      exact iff_of_true (hnoted.mpr (.inl hcancelled)) (.inr (.inr hrel))
    · rw [or_iff_left hrel]
      have hmade := hmakes b hb
      generalize f b = a at hmade
      cases hmade with
      | kept => exact hnoted
      | cancelled _ hop =>
        exact iff_of_true rfl (.inl ((Status.cancelledText_text _).mpr hop.isCancelled))
      | @statusSet _ _ status hop hdone _ ht hc ha =>
        have hnot : ¬ Status.CancelledText b.status := fun hcancelled =>
          hrel (Event.relabels_of_cancelled (hrow hb) hcancelled hop ht hdone hc ha)
        have hnot' : ¬ Status.CancelledText (b.withStatus status).status := fun h =>
          hc ((Status.cancelledText_text _).mp h)
        rw [or_iff_right hnot] at hnoted
        rw [or_iff_right hnot']
        exact hnoted
  · intro i hrel
    rcases relabelled_concat.mp hrel with hrel | hrel
    · obtain ⟨b, hb, hid, hstatus⟩ := h.relabelled i hrel
      exact ⟨f b, List.mem_map_of_mem hb, (hmakes b hb).id_eq.trans hid,
        (hmakes b hb).noShow hstatus⟩
    · obtain ⟨b, -, -, -, hb, rfl, -⟩ := id hrel
      have hb := (hasBooking_iff hr).mp hb
      refine ⟨f b, List.mem_map_of_mem hb, (hmakes b hb).id_eq, ?_⟩
      rw [(hnow hb hrel).2]
      rfl

/-- An admission. -/
theorem Stamped.concat (h : s.Stamped es rows) (hr : (s.run es).bookings = some rows)
    {b : Booking} (hb : e.Admits (s.run es) b) : s.Stamped (es ++ [e]) (rows ++ [b]) := by
  have hsame (id : Int) : s.Relabelled (es ++ [e]) id ↔ s.Relabelled es id := by
    rw [relabelled_concat, or_iff_left]
    rintro ⟨_, _, _, _, -, -, -, hop, -⟩
    obtain ⟨⟨r, hop'⟩, -⟩ := hb
    cases hop.symm.trans hop'
  have hlt := hb.id_lt hr
  obtain ⟨o, g, v, w, taken, -, -, -, -, hrow, -⟩ := hb.row hr
  constructor
  · intro a ha
    rw [hsame]
    rcases List.mem_append.mp ha with ha | ha
    · exact h.noted a ha
    · rw [List.mem_singleton.mp ha]
      have hstatus : ¬ Status.CancelledText b.status := by
        rw [hrow]
        exact fun h => (Status.cancelledText_text .confirmed).mp h
      have hnew : ¬ s.Relabelled es b.id := by
        intro hrel
        obtain ⟨x, hx, hid, -⟩ := h.relabelled b.id hrel
        exact absurd (hlt x hx) (by omega)
      have hnone : b.cancelledAt = none := by
        rw [hrow]
        rfl
      exact iff_of_false (by rw [hnone]; exact Bool.false_ne_true) (not_or.mpr ⟨hstatus, hnew⟩)
  · intro id hrel
    obtain ⟨x, hx, hid⟩ := h.relabelled id ((hsame id).mp hrel)
    exact ⟨x, List.mem_append_left _ hx, hid⟩

end Stamped

/-- After every run from an empty table of bookings, the table is sound and stamped. -/
theorem run_stamped (rules : Option (List Rule)) (es : List Event) :
    ∃ rows, ((unbooked rules).run es).bookings = some rows ∧ SoundTable rows ∧
      (unbooked rules).Stamped es rows := by
  induction es using List.reverseRecOn with
  | nil =>
    refine ⟨[], rfl, ⟨List.Pairwise.nil, fun b hb => absurd hb List.not_mem_nil⟩, ?_, ?_⟩
    · exact fun b hb => absurd hb List.not_mem_nil
    · exact fun id hrel => absurd hrel not_relabelled_nil
  | append_singleton es e ih =>
    obtain ⟨rows, hr, hs, hstamped⟩ := ih
    obtain ⟨rows', hr', hs'⟩ := run_bookings rules (es ++ [e])
    refine ⟨rows', hr', hs', ?_⟩
    rw [run_concat] at hr'
    obtain ⟨f, hf, hmakes⟩ | ⟨b, hadm, hrows⟩ := e.next_rows hr hs.ascending.nodup
    · cases hf.symm.trans hr'
      exact hstamped.map hr hs.ascending hf hmakes
    · cases hrows.symm.trans hr'
      exact hstamped.concat hr hadm

end Store

/-! ## A booking that is relabelled -/

section Sample

open Admission (Order allocate allocate_value perform_allocate requireNotice sampleCompany
  sampleRequest sampleService)

/-- The empty world, in which manager 5 attends to company 1. -/
def attended : Directory.Collaborators :=
  { emptyWorld.collaborators with
    answer := fun path =>
      if path = "/internal/companies/1" then
        .reply 200 (.ok (Directory.Company.toJson { sampleCompany with managers := [5] }))
      else emptyWorld.collaborators.answer path }

/-- An operation in this world. -/
def attendedEvent (op : Operation) : Event := ⟨op, emptyWorld.now, attended, false⟩

/-- What the sample request orders. -/
def sampleOrder : Order := ⟨7, 1, 1, 1, sampleDate, "10:00", 600, none⟩

/-- The vehicle of its user. -/
def sampleVehicle : Directory.Vehicle := ⟨3, none, some "", none, none, none, none⟩

/-- The row that it gets in an empty table. -/
def sampleRow : Booking :=
  Store.rowOf [] (sampleOrder.booking .standard sampleService sampleVehicle)

/-- What the sample request orders with another start time. -/
def orderAt (t : String) (m : Int) : Order := { sampleOrder with startTime := t, start := m }

/-- The row that it gets in a table. -/
def rowAt (rows : List Booking) (t : String) (m : Int) : Booking :=
  Store.rowOf rows ((orderAt t m).booking .standard sampleService sampleVehicle)

/-- Where no row takes its place, the order is admitted. -/
theorem rowAt_admitted {rows : List Booking} {t : String} {m : Int}
    (ht : TimeOfDay.parse t = .ok m) (hcount : Admission.countTaken ⟨m, 30⟩
      ((Filter.day 1 1 sampleDate).list rows) = .ok 0) :
    (attendedEvent (.allocate (sampleRequest.starting t))).next ⟨some rows, some [], false⟩ =
      ⟨some (rows ++ [rowAt rows t m]), some [], false⟩ := by
  have hworking : (Directory.Company.scheduleOn { sampleCompany with managers := [5] }
      sampleDate).IsWorkingDay := by decide
  have hnotice : requireNotice sampleDate m emptyWorld.now .standard = .ok () := rfl
  have hplace : ((0 : Nat) : Int) < Capacity.Terms.standard.maxConcurrent := by decide
  have hlist : Store.list ⟨some rows, some [], false⟩ (.day 1 1 sampleDate) =
      .ok ((Filter.day 1 1 sampleDate).list rows) :=
    Store.list_eq_ok.mpr ⟨rows, rfl, by decide, rfl⟩
  have hkeeps : Store.Keeps ((orderAt t m).booking .standard sampleService sampleVehicle) :=
    ⟨(by decide : ∀ n ∈ [7, 1, 1, 1, 3, 30], Store.Storable n),
      (by decide : ∀ x ∈ [sampleService.name, ""], x.unencodable? = none),
      (by decide : ¬ Binary64.zero.IsNaN)⟩
  have hadmit : Order.admit (orderAt t m) ⟨some rows, some [], false⟩ emptyWorld.now
      { sampleCompany with managers := [5] } sampleService sampleVehicle =
        .ok (rowAt rows t m, ⟨some (rows ++ [rowAt rows t m]), some [], false⟩) :=
    Order.admit_eq_ok.mpr
      ⟨rfl, _, rfl, rfl, hworking, hnotice, _, hlist, 0, hcount, hplace,
        Store.addBooking_eq_ok.mpr ⟨rows, rfl, hkeeps, rfl, rfl⟩⟩
  have hvalue : (allocate ⟨some rows, some [], false⟩ emptyWorld.now
      (sampleRequest.starting t)).value attended =
        .ok (rowAt rows t m, ⟨some (rows ++ [rowAt rows t m]), some [], false⟩) := by
    have horder : (sampleRequest.starting t).order = .ok (orderAt t m) :=
      Admission.Request.starting_order rfl (by decide) rfl ht
    have hlookUp : (orderAt t m).lookUp.value attended =
        .ok ({ sampleCompany with managers := [5] }, sampleService, sampleVehicle) := rfl
    rw [allocate_value, horder, ok_bind, hlookUp, ok_bind]
    exact hadmit
  obtain ⟨b, s', hv, -, hnext⟩ | ⟨f, hv, -⟩ :=
    perform_allocate ⟨⟨some rows, some [], false⟩, emptyWorld.now, attended⟩
      (sampleRequest.starting t)
  · cases hvalue.symm.trans hv
    exact hnext
  · cases hvalue.symm.trans hv

theorem sampleRow_admitted :
    (attendedEvent (.allocate sampleRequest)).next (Store.unbooked (some [])) =
      ⟨some [sampleRow], some [], false⟩ := by
  have hempty : Admission.countTaken ⟨600, 30⟩ ((Filter.day 1 1 sampleDate).list []) = .ok 0 :=
    Admission.countTaken_day_eq_ok.mpr ⟨fun b hb => absurd hb List.not_mem_nil, rfl⟩
  exact rowAt_admitted rfl hempty

end Sample

/-! ## The time and the status -/

/-- **Noted cancellations.** After every run from an empty table of bookings, the time of a
cancellation is noted for exactly those bookings that have a cancelled status or that, in one event
of the run, went from a cancelled status to that of a no-show. The latter are no-shows still, so for
all other bookings time and status agree. -/
theorem Store.run_cancellation (rules : Option (List Rule)) (es : List Event) :
    ∃ rows, ((Store.unbooked rules).run es).bookings = some rows ∧ ∀ b ∈ rows,
      (b.cancelledAt.isSome ↔
        Status.CancelledText b.status ∨ (Store.unbooked rules).Relabelled es b.id) ∧
      ((Store.unbooked rules).Relabelled es b.id → b.status = Status.noShow.text) := by
  obtain ⟨rows, hr, hs, hstamped⟩ := Store.run_stamped rules es
  refine ⟨rows, hr, fun b hb => ⟨hstamped.noted b hb, fun hrel => ?_⟩⟩
  obtain ⟨x, hx, hid, hstatus⟩ := hstamped.relabelled b.id hrel
  rwa [← hs.ascending.eq_of_id_eq hx hb hid]

/-- From empty tables: a booking is admitted, a manager cancels it for the company, and then sets it
to a no-show. The time of its cancellation stays. -/
theorem cancelled_no_show : ∃ b,
    ((Store.unbooked (some [])).run ([.allocate Admission.sampleRequest,
      .changeStatus 1 5 "cancelled_by_company", .changeStatus 1 5 "no_show"].map
        attendedEvent)).bookings = some [b] ∧
    b.cancelledAt.isSome ∧ ¬ Status.CancelledText b.status := by
  refine ⟨(sampleRow.cancelled .cancelledByCompany none emptyWorld.now).withStatus .noShow, ?_, rfl,
    by decide⟩
  show ((attendedEvent (.changeStatus 1 5 "no_show")).next
    ((attendedEvent (.changeStatus 1 5 "cancelled_by_company")).next
      ((attendedEvent (.allocate _)).next (Store.unbooked (some []))))).bookings = _
  rw [sampleRow_admitted]
  rfl

end SlotBooking
