import Mathlib.Data.List.Nodup
import SlotBooking.Proofs.Run

/-!
# The history of bookings

A booking is a record of what was agreed: after its admission only its status and what is known of
its cancellation change. An inactive booking stays inactive, and a cancellation is noted once.

* `Booking.Follows`: what may become of a booking in one event.
* `Event.next_bookings`: an event lets every booking become one that follows it, or admits one.
* `Store.run_bookings`: after every run ids ascend, and active bookings have no cancellation noted.
* `Store.inactive_stays`: what is known of an inactive booking no longer changes.
-/

namespace SlotBooking

open Capacity (Rule)

/-! ## One booking -/

namespace Booking

/-- The bookings differ at most in their status and in what is known of a cancellation. -/
def SameRecord (b a : Booking) : Prop :=
  a = { b with
    status := a.status
    cancellationReason := a.cancellationReason
    cancelledAt := a.cancelledAt }

/-- The same is known of the cancellation of both bookings. -/
def SameCancellation (b a : Booking) : Prop :=
  a.cancelledAt = b.cancelledAt ∧ a.cancellationReason = b.cancellationReason

/-- From one booking to the next, a cancellation was noted: at an instant, of a booking that was
pending or confirmed, with a reason that is not too long. -/
structure CancelledAt (time : Instant) (b a : Booking) : Prop where
  cancellable : Status.CancellableText b.status
  cancelled : Status.CancelledText a.status
  time_eq : a.cancelledAt = some time
  reason_length : ∀ r ∈ a.cancellationReason, r.length ≤ Refusal.maxReasonLength

/-- What may become of a booking in an event at an instant. -/
structure Follows (time : Instant) (b a : Booking) : Prop where
  record : b.SameRecord a
  inactive : ¬ b.IsActive → ¬ a.IsActive
  cancellation : b.SameCancellation a ∨ b.CancelledAt time a

variable {b a : Booking} {time : Instant}

theorem SameRecord.id_eq (h : b.SameRecord a) : a.id = b.id := by rw [h]

theorem Follows.refl (time : Instant) (b : Booking) : b.Follows time b :=
  ⟨rfl, fun h => h, .inl ⟨rfl, rfl⟩⟩

theorem isActive_withStatus {status : Status} : (b.withStatus status).IsActive ↔ status.IsActive :=
  Status.activeText_text status

theorem isActive_of_cancellable (h : Status.CancellableText b.status) : b.IsActive := by
  obtain ⟨t, ht, hc⟩ := h
  intro u hu
  rw [ht] at hu
  cases hu
  exact Status.isActive_of_isCancellable hc

theorem not_isActive_of_cancelled (h : Status.CancelledText b.status) : ¬ b.IsActive := by
  obtain ⟨t, ht, hc⟩ := h
  exact fun ha => Status.not_isActive_of_isCancelled hc (ha t ht)

/-- A status that is active goes only to an active booking. -/
theorem follows_withStatus {status : Status} (ha : status.IsActive → b.IsActive) :
    b.Follows time (b.withStatus status) :=
  ⟨rfl, fun hb h => hb (ha (isActive_withStatus.mp h)), .inl ⟨rfl, rfl⟩⟩

theorem follows_cancelled {status : Status} {reason : Option String} (hs : status.IsCancelled)
    (hc : Status.CancellableText b.status) (hr : ¬ Lifecycle.ReasonTooLong reason) :
    b.Follows time (b.cancelled status reason time) := by
  have hst : Status.CancelledText (b.cancelled status reason time).status :=
    (Status.cancelledText_text status).mpr hs
  refine ⟨rfl, fun hb => absurd (isActive_of_cancellable hc) hb, .inr ⟨hc, hst, rfl, ?_⟩⟩
  exact fun r hr' => Nat.not_lt.mp fun hlt => hr ⟨r, hr', hlt⟩

end Booking

/-! ## Tables -/

/-- The ids of a table ascend. -/
def Ascending (rows : List Booking) : Prop := (rows.map (·.id)).Pairwise (· < ·)

namespace Ascending

variable {rows : List Booking}

theorem eq_of_id_eq (h : Ascending rows) {a b : Booking} (ha : a ∈ rows) (hb : b ∈ rows)
    (hid : a.id = b.id) : a = b :=
  List.inj_on_of_nodup_map (h.imp fun hlt => Int.ne_of_lt hlt) ha hb hid

theorem map (h : Ascending rows) {f : Booking → Booking} (hf : ∀ b ∈ rows, (f b).id = b.id) :
    Ascending (rows.map f) := by
  have : (rows.map f).map (·.id) = rows.map (·.id) := by
    rw [List.map_map]
    exact List.map_congr_left hf
  unfold Ascending
  rw [this]
  exact h

theorem concat (h : Ascending rows) {b : Booking} (hb : b.id = Store.nextId (rows.map (·.id))) :
    Ascending (rows ++ [b]) := by
  unfold Ascending at h ⊢
  rw [List.map_append, List.pairwise_append]
  refine ⟨h, List.pairwise_singleton _ _, fun i hi j hj => ?_⟩
  rw [List.map_singleton, List.mem_singleton] at hj
  rw [hj, hb]
  exact Store.lt_nextId hi

end Ascending

/-- The row that a store gives for an id is replaced by one that follows it, and no other row
changes. -/
theorem Store.replaced_follows {s : Store} {rows : List Booking} (hr : s.bookings = some rows)
    (hasc : Ascending rows) {id : Int} {b b' : Booking} (hb : s.booking id = .ok b)
    {time : Instant} (hf : b.Follows time b') :
    ∃ f : Booking → Booking, (s.putBooking b').bookings = some (rows.map f) ∧
      ∀ a ∈ rows, a.Follows time (f a) := by
  obtain ⟨rows', hr', -, hfind⟩ := Store.booking_eq_ok.mp hb
  rw [hr] at hr'
  cases hr'
  have hmem := List.mem_of_find?_eq_some hfind
  refine ⟨fun a => if a.id = b'.id then b' else a, by rw [putBooking_eq hr]; rfl, fun a ha => ?_⟩
  show a.Follows time (if a.id = b'.id then b' else a)
  by_cases hid : a.id = b'.id
  · rw [if_pos hid, hasc.eq_of_id_eq ha hmem (hid.trans hf.record.id_eq)]
    exact hf
  · rw [if_neg hid]
    exact .refl time a

/-! ## One event -/

/-- The event is an admission that succeeds with a booking. -/
def Event.Admits (e : Event) (s : Store) (b : Booking) : Prop :=
  (∃ r, e.operation = .allocate r) ∧ e.outcome s = .ok (.booking b)

theorem Event.Admits.admitted {e : Event} {s : Store} {b : Booking} (h : e.Admits s b) :
    ∃ r o c v w, e.operation = .allocate r ∧ r.order = .ok o ∧
      o.lookUp.value e.collaborators = .ok (c, v, w) ∧
      o.admit (e.world s).store e.now c v w = .ok (b, e.next s) := by
  obtain ⟨⟨r, hop⟩, hout⟩ := h
  obtain ⟨f, hf, -⟩ | ⟨out, hout', heff⟩ := e.next_cases s
  · rw [hout] at hf
    cases hf
  · rw [hout] at hout'
    cases hout'
    rw [hop] at heff
    generalize e.next s = s' at heff ⊢
    cases heff with
    | read h => exact h.elim
    | admitted ho hl ha => exact ⟨r, _, _, _, _, hop, ho, hl, ha⟩
    | cancelled _ _ _ hc => cases hc

/-- What an admission found and did: the booking is the row of an order under the terms that govern
it, fewer bookings overlapped it than these terms allow, and it was appended to the table. -/
theorem Event.Admits.row {e : Event} {s : Store} {b : Booking} (h : e.Admits s b)
    {rows : List Booking} (hr : s.bookings = some rows) :
    ∃ (o : Admission.Order) (g : Capacity.Governing) (v : Directory.Service)
      (w : Directory.Vehicle) (taken : Nat),
      TimeOfDay.parse o.startTime = .ok o.start ∧ s.governing o.scope = .ok g ∧
      Admission.countTaken ⟨o.start, g.terms.slotMinutes⟩
        ((Filter.day o.company o.address o.date).list rows) = .ok taken ∧
      (taken : Int) < g.terms.maxConcurrent ∧ b = Store.rowOf rows (o.booking g.terms v w) ∧
      (e.next s).bookings = some (rows ++ [b]) := by
  obtain ⟨r, o, c, v, w, -, ho, -, ha⟩ := h.admitted
  obtain ⟨-, g, hg, -, -, -, bs, hbs, taken, ht, hlt, hadd⟩ := Admission.Order.admit_eq_ok.mp ha
  obtain ⟨rows₁, hr₁, -, rfl⟩ := Store.list_eq_ok.mp hbs
  obtain ⟨rows₂, hr₂, -, hb, hs⟩ := Store.addBooking_eq_ok.mp hadd
  have hw : (e.world s).store.bookings = some rows := hr
  rw [hw] at hr₁ hr₂
  cases hr₁
  cases hr₂
  exact ⟨o, g, v, w, taken, (Admission.Request.order_eq_ok.mp ho).2.2.2.2.2.2.1, hg, ht, hlt, hb,
    by rw [hs]⟩

/-- An event either lets every booking become one that follows it, or admits one more. -/
theorem Event.next_bookings {s : Store} {rows : List Booking} (hr : s.bookings = some rows)
    (hasc : Ascending rows) (e : Event) :
    ((∀ b, ¬ e.Admits s b) ∧ ∃ f : Booking → Booking,
        (e.next s).bookings = some (rows.map f) ∧ ∀ b ∈ rows, b.Follows e.now (f b)) ∨
      ∃ b, e.Admits s b := by
  have hkept : ∀ s' : Store, s'.bookings = s.bookings → ∃ f : Booking → Booking,
      s'.bookings = some (rows.map f) ∧ ∀ b ∈ rows, b.Follows e.now (f b) := fun s' h =>
    ⟨id, by rw [h, hr, List.map_id], fun b _ => .refl e.now b⟩
  by_cases hadm : ∃ b, e.Admits s b
  · exact .inr hadm
  refine .inl ⟨fun b hb => hadm ⟨b, hb⟩, ?_⟩
  have hw : (e.world s).store.bookings = some rows := hr
  obtain ⟨f, -, hs⟩ | ⟨out, hout, heff⟩ := e.next_cases s
  · exact hkept _ (by rw [hs]; rfl)
  generalize hop : e.operation = op at heff
  generalize hnext : e.next s = s' at heff
  cases heff with
  | read => exact hkept _ rfl
  | admitted => exact absurd ⟨_, ⟨_, hop⟩, hout⟩ hadm
  | cancelled _ hb hc hop =>
    exact Store.replaced_follows hw hasc hb
      (Booking.follows_cancelled hop.isCancelled hc hop.not_reasonTooLong)
  | statusSet _ hb _ _ _ ha =>
    exact Store.replaced_follows hw hasc hb (Booking.follows_withStatus ha)
  | ruleAdded | ruleChanged | ruleErased | ruleErasedFor => exact hkept _ rfl

/-! ## Runs -/

/-- What every reachable table of bookings satisfies: ids ascend, and while a booking is active no
cancellation is noted. -/
structure SoundTable (rows : List Booking) : Prop where
  ascending : Ascending rows
  untouched : ∀ b ∈ rows, b.IsActive → b.cancelledAt = none ∧ b.cancellationReason = none

theorem SoundTable.map {rows : List Booking} (h : SoundTable rows) {f : Booking → Booking}
    {time : Instant} (hf : ∀ b ∈ rows, b.Follows time (f b)) : SoundTable (rows.map f) := by
  refine ⟨h.ascending.map fun b hb => (hf b hb).record.id_eq, fun a ha hact => ?_⟩
  obtain ⟨b, hb, rfl⟩ := List.mem_map.mp ha
  have hbact : b.IsActive := Decidable.byContradiction fun hn => (hf b hb).inactive hn hact
  rcases (hf b hb).cancellation with hc | hc
  · rw [hc.1, hc.2]
    exact h.untouched b hb hbact
  · exact absurd hact (Booking.not_isActive_of_cancelled hc.cancelled)

theorem SoundTable.concat {rows : List Booking} (h : SoundTable rows) {b : Booking}
    (hid : b.id = Store.nextId (rows.map (·.id)))
    (hb : b.cancelledAt = none ∧ b.cancellationReason = none) : SoundTable (rows ++ [b]) := by
  refine ⟨h.ascending.concat hid, fun a ha hact => ?_⟩
  rcases List.mem_append.mp ha with ha | ha
  · exact h.untouched a ha hact
  · rw [List.mem_singleton.mp ha]
    exact hb

namespace Store

/-- A store with an empty table of bookings and any table of capacity rules. -/
def unbooked (rules : Option (List Rule)) : Store := { bookings := some [], rules }

end Store

/-- An event takes a sound table to a sound one, in which every booking is followed. -/
theorem Event.next_sound {s : Store} {rows : List Booking} (hr : s.bookings = some rows)
    (hs : SoundTable rows) (e : Event) :
    ∃ rows', (e.next s).bookings = some rows' ∧ SoundTable rows' ∧
      ∀ b ∈ rows, ∃ a ∈ rows', b.Follows e.now a := by
  obtain ⟨-, f, hf, hfol⟩ | ⟨b, hb⟩ := e.next_bookings hr hs.ascending
  · exact ⟨rows.map f, hf, hs.map hfol, fun b hb => ⟨f b, List.mem_map_of_mem hb, hfol b hb⟩⟩
  · obtain ⟨o, g, v, w, taken, -, -, -, -, hb, hnext⟩ := hb.row hr
    exact ⟨_, hnext, hs.concat (by rw [hb]; rfl) (by rw [hb]; exact ⟨rfl, rfl⟩),
      fun a ha => ⟨a, List.mem_append_left _ ha, .refl e.now a⟩⟩

namespace Store

/-- After every run from an empty table of bookings, the table is sound. -/
theorem run_bookings (rules : Option (List Rule)) (es : List Event) :
    ∃ rows, ((unbooked rules).run es).bookings = some rows ∧ SoundTable rows := by
  induction es using List.reverseRecOn with
  | nil => exact ⟨[], rfl, List.Pairwise.nil, fun b hb => absurd hb List.not_mem_nil⟩
  | append_singleton es e ih =>
    obtain ⟨rows, hr, hs⟩ := ih
    obtain ⟨rows', hr', hs', -⟩ := e.next_sound hr hs
    exact ⟨rows', by rw [run_concat]; exact hr', hs'⟩

/-- An inactive booking stays inactive, and what is known of its cancellation no longer changes. -/
theorem inactive_stays {s : Store} {rows : List Booking} (hr : s.bookings = some rows)
    (hs : SoundTable rows) {b : Booking} (hb : b ∈ rows) (hact : ¬ b.IsActive)
    (es : List Event) :
    ∃ rows', (s.run es).bookings = some rows' ∧ SoundTable rows' ∧
      ∃ a ∈ rows', a.id = b.id ∧ ¬ a.IsActive ∧ b.SameCancellation a := by
  induction es using List.reverseRecOn with
  | nil => exact ⟨rows, hr, hs, b, hb, rfl, hact, rfl, rfl⟩
  | append_singleton es e ih =>
    obtain ⟨rows₁, hr₁, hs₁, a, ha, hid, hina, hsame⟩ := ih
    obtain ⟨rows₂, hr₂, hs₂, hfol⟩ := e.next_sound hr₁ hs₁
    obtain ⟨a', ha', hf⟩ := hfol a ha
    refine ⟨rows₂, by rw [run_concat]; exact hr₂, hs₂, a', ha', hf.record.id_eq.trans hid,
      hf.inactive hina, ?_⟩
    rcases hf.cancellation with hc | hc
    · exact ⟨hc.1.trans hsame.1, hc.2.trans hsame.2⟩
    · exact absurd (Booking.isActive_of_cancellable hc.cancellable) hina

/-- What is known of the cancellation of the booking of an id differs between two stores. -/
def CancellationDiffers (id : Int) (s s' : Store) : Prop :=
  ∃ rows rows', s.bookings = some rows ∧ s'.bookings = some rows' ∧
    ∃ b ∈ rows, ∃ a ∈ rows', b.id = id ∧ a.id = id ∧ ¬ b.SameCancellation a

end Store

/-- An event after which something else is known of a cancellation met the booking active and left
it inactive. -/
theorem Event.inactive_of_differs {s : Store} {rows : List Booking} (hr : s.bookings = some rows)
    (hs : SoundTable rows) {e : Event} {id : Int} (h : s.CancellationDiffers id (e.next s)) :
    (∃ b ∈ rows, b.id = id ∧ b.IsActive) ∧
      ∃ rows', (e.next s).bookings = some rows' ∧ ∃ a ∈ rows', a.id = id ∧ ¬ a.IsActive := by
  obtain ⟨rows₁, rows', hr₁, hr', b, hb, a, ha, hbid, haid, hne⟩ := h
  rw [hr] at hr₁
  cases hr₁
  obtain ⟨rows₂, hr₂, hs₂, hfol⟩ := e.next_sound hr hs
  rw [hr'] at hr₂
  cases hr₂
  obtain ⟨a', ha', hf⟩ := hfol b hb
  have haa : a' = a :=
    hs₂.ascending.eq_of_id_eq ha' ha (hf.record.id_eq.trans (hbid.trans haid.symm))
  subst haa
  have hc := hf.cancellation.resolve_left hne
  exact ⟨⟨b, hb, hbid, Booking.isActive_of_cancellable hc.cancellable⟩, rows', hr', a', ha, haid,
    Booking.not_isActive_of_cancelled hc.cancelled⟩

namespace Store

/-- The store after the first events of a run. -/
def runTo (s : Store) (es : List Event) (n : Nat) : Store := s.run (es.take n)

theorem runTo_succ (s : Store) {es : List Event} {n : Nat} (hn : n < es.length) :
    s.runTo es (n + 1) = es[n].next (s.runTo es n) := by
  unfold runTo
  rw [List.take_succ_eq_append_getElem hn, run_concat]

theorem runTo_run (s : Store) {es : List Event} {m n : Nat} (h : m ≤ n) :
    s.runTo es n = (s.runTo es m).run ((es.take n).drop m) := by
  have : (es.take n).take m = es.take m := by rw [List.take_take, Nat.min_eq_left h]
  unfold runTo
  rw [← this, ← run_append, List.take_append_drop]

/-- No two events of a run change what is known of the cancellation of one booking. -/
theorem not_differs_twice {rules : Option (List Rule)} {es : List Event} {id : Int} {m n : Nat}
    (hmn : m < n) (hn : n < es.length)
    (hm : ((unbooked rules).runTo es m).CancellationDiffers id
      ((unbooked rules).runTo es (m + 1))) :
    ¬ ((unbooked rules).runTo es n).CancellationDiffers id
      ((unbooked rules).runTo es (n + 1)) := by
  intro hdn
  have hto (i : Nat) : ∃ rows, ((unbooked rules).runTo es i).bookings = some rows ∧
      SoundTable rows := run_bookings rules (es.take i)
  obtain ⟨rows₀, hr₀, hs₀⟩ := hto m
  obtain ⟨rows₁, hr₁, hs₁⟩ := hto (m + 1)
  rw [runTo_succ _ (by omega)] at hm hdn hr₁
  obtain ⟨-, rows₁', hr₁', a, ha, haid, hina⟩ := Event.inactive_of_differs hr₀ hs₀ hm
  rw [hr₁] at hr₁'
  cases hr₁'
  -- From here on the booking is inactive, and the second event would need it active.
  obtain ⟨rows₂, hr₂, hs₂, a', ha', haid', hina', -⟩ :=
    inactive_stays hr₁ hs₁ ha hina ((es.take n).drop (m + 1))
  rw [← runTo_succ _ (by omega), ← runTo_run _ hmn] at hr₂
  obtain ⟨⟨b, hb, hbid, hact⟩, -⟩ := Event.inactive_of_differs hr₂ hs₂ hdn
  rw [hs₂.ascending.eq_of_id_eq hb ha' (hbid.trans (haid'.trans haid).symm)] at hact
  exact hina' hact

/-- **History.** In a run from an empty table of bookings, every event keeps every booking: exactly
one row has its id afterwards, and that is the same record. An inactive booking stays inactive. What
is known of a cancellation changes only where nothing was known before, in an event that cancels a
pending or confirmed booking, to the time of that event and a reason of bounded length; and it
changes in at most one event of the run. -/
theorem run_history (rules : Option (List Rule)) (es : List Event) :
    (∀ e : Event, ∃ rows rows', ((unbooked rules).run es).bookings = some rows ∧
      ((unbooked rules).run (es ++ [e])).bookings = some rows' ∧
      ∀ b ∈ rows, ∃ a ∈ rows', (∀ x ∈ rows', x.id = b.id ↔ x = a) ∧ b.SameRecord a ∧
        (¬ b.IsActive → ¬ a.IsActive) ∧
        (b.SameCancellation a ∨
          b.cancelledAt = none ∧ b.cancellationReason = none ∧ b.CancelledAt e.now a)) ∧
    ∀ (id : Int) (m n : Fin es.length),
      ((unbooked rules).runTo es m).CancellationDiffers id ((unbooked rules).runTo es (m + 1)) →
      ((unbooked rules).runTo es n).CancellationDiffers id ((unbooked rules).runTo es (n + 1)) →
      m = n := by
  constructor
  · intro e
    obtain ⟨rows, hr, hs⟩ := run_bookings rules es
    obtain ⟨rows', hr', hs', hfol⟩ := e.next_sound hr hs
    refine ⟨rows, rows', hr, by rw [run_concat]; exact hr', fun b hb => ?_⟩
    obtain ⟨a, ha, hf⟩ := hfol b hb
    refine ⟨a, ha, fun x hx => ⟨fun hid => ?_, fun h => h ▸ hf.record.id_eq⟩, hf.record,
      hf.inactive, ?_⟩
    · exact hs'.ascending.eq_of_id_eq hx ha (hid.trans hf.record.id_eq.symm)
    · refine hf.cancellation.imp_right fun hc => ?_
      obtain ⟨ht, hre⟩ := hs.untouched b hb (Booking.isActive_of_cancellable hc.cancellable)
      exact ⟨ht, hre, hc⟩
  · intro id m n hm hn
    rcases Nat.lt_trichotomy m n with h | h | h
    · exact absurd hn (not_differs_twice h n.isLt hm)
    · exact Fin.ext h
    · exact absurd hm (not_differs_twice h m.isLt hn)

end Store

end SlotBooking
