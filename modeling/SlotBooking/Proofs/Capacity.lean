import Mathlib.Data.List.MinMax
import SlotBooking.Proofs.History
import SlotBooking.Proofs.Occupancy

/-!
# Capacity over whole runs

The terms that govern a scope change during a run, and several services with terms of their own
share one address. What holds in every state is stated for each booking: among the active bookings
of its day that are no newer, those that overlap it are at most as many as the terms allowed under
which it was admitted.

* `Booking.Competes`: what is counted for a booking.
* `Store.AdmittedUnder`: the terms under which a run admitted a booking.
* `Store.Capped`: the invariant, with the steps `Capped.map` and `Capped.concat`.
* `Store.run_capacity`: the invariant holds after every run; so no minute has more active bookings
  than the most generous terms of the run allow.
-/

namespace SlotBooking

open Capacity (Governing Rule)

/-! ## Two bookings -/

namespace Booking

variable {a b : Booking}

/-- The scope whose terms governed the admission of the booking. -/
def scope (b : Booking) : Capacity.Scope := ⟨b.company, some b.address, some b.service⟩

/-- The windows of the bookings overlap. -/
def Overlaps (a b : Booking) : Prop :=
  ∃ v, a.window = .ok v ∧ ∃ w, b.window = .ok w ∧ v.Overlaps w

instance (a b : Booking) : Decidable (a.Overlaps b) := decidableOfOk _ _

/-- The booking `a` takes a place where `b` does and is no newer. A booking takes its own place,
also if it lasts no time. -/
def Competes (b a : Booking) : Prop :=
  a.id ≤ b.id ∧ a.IsActive ∧ a.IsAt b.company b.address b.date ∧ (a.id = b.id ∨ a.Overlaps b)

instance (b a : Booking) : Decidable (b.Competes a) := inferInstanceAs (Decidable (_ ∧ _ ∧ _ ∧ _))

/-- The booking is active and its window has a minute of a date at an address of a company. -/
def Covers (b : Booking) (company address : Int) (date : Date) (minute : Int) : Prop :=
  b.IsActive ∧ b.IsAt company address date ∧
    ∃ w, b.window = .ok w ∧ w.start ≤ minute ∧ minute < w.stop

instance (b : Booking) (company address : Int) (date : Date) (minute : Int) :
    Decidable (b.Covers company address date minute) :=
  inferInstanceAs (Decidable (_ ∧ _ ∧ ∃ _, _ ∧ _))

theorem SameRecord.window_eq (h : b.SameRecord a) : a.window = b.window := by rw [h]; rfl

/-- Bookings compete only if they did before an event. -/
theorem Competes.of_follows {a' b' : Booking} {time : Instant} (ha : a.Follows time a')
    (hb : b.Follows time b') (h : b'.Competes a') : b.Competes a := by
  obtain ⟨hle, hact, hat, hov⟩ := h
  have hact' : a.IsActive := Decidable.byContradiction fun hn => ha.inactive hn hact
  rw [ha.record.id_eq, hb.record.id_eq] at hle hov
  unfold Overlaps at hov
  rw [ha.record.window_eq, hb.record.window_eq] at hov
  refine ⟨hle, hact', ?_, hov⟩
  rw [ha.record, hb.record] at hat
  exact hat

/-- Of two bookings that have a minute in common, the newer one competes with the other. -/
theorem Covers.competes {company address : Int} {date : Date} {minute : Int}
    (ha : a.Covers company address date minute) (hb : b.Covers company address date minute)
    (hid : a.id ≤ b.id) : b.Competes a := by
  obtain ⟨hact, ⟨hac, haa, had⟩, v, hv, hv₁, hv₂⟩ := ha
  obtain ⟨-, ⟨hbc, hba, hbd⟩, w, hw, hw₁, hw₂⟩ := hb
  refine ⟨hid, hact, ⟨hac.trans hbc.symm, haa.trans hba.symm, had.trans hbd.symm⟩, .inr ?_⟩
  exact ⟨v, hv, w, hw, by omega, by omega⟩

end Booking

/-! ## The terms of an admission -/

theorem Event.Admits.unique {e : Event} {s : Store} {a b : Booking} (ha : e.Admits s a)
    (hb : e.Admits s b) : a = b := by
  have h := ha.2.symm.trans hb.2
  cases h
  rfl

/-- A booking gets the next id, and fewer bookings compete with it than its terms allow. -/
theorem Event.Admits.competes_lt {e : Event} {s : Store} {b : Booking} (h : e.Admits s b)
    {rows : List Booking} (hr : s.bookings = some rows) :
    b.id = Store.nextId (rows.map (·.id)) ∧ b.Readable ∧ ∃ g, s.governing b.scope = .ok g ∧
      (rows.countP fun a => decide (b.Competes a) : Nat) < g.terms.maxConcurrent := by
  obtain ⟨o, g, v, w, taken, hstart, hg, hcount, hlt, hrow, -⟩ := h.row hr
  have hid : b.id = Store.nextId (rows.map (·.id)) := by rw [hrow]; rfl
  have hwin : b.window = .ok ⟨o.start, g.terms.slotMinutes⟩ := by
    rw [hrow]
    exact Occupancy.window_eq_ok.mpr ⟨hstart, rfl⟩
  refine ⟨hid, ⟨_, hwin⟩, g, by rw [hrow]; exact hg, ?_⟩
  obtain ⟨-, rfl⟩ := Admission.countTaken_day_eq_ok.mp hcount
  refine Int.lt_of_le_of_lt (Int.ofNat_le.mpr (List.countP_mono_left fun a ha hc => ?_)) hlt
  obtain ⟨-, hact, hat, hsame | ⟨v', hv', w', hw', hov⟩⟩ := of_decide_eq_true hc
  · have := Store.lt_nextId (List.mem_map_of_mem (f := (·.id)) ha)
    omega
  · rw [hwin] at hw'
    cases hw'
    rw [hrow] at hat
    exact decide_eq_true ⟨hact, hat, v', hv', hov.symm⟩

namespace Store

/-- In one of its events a run admitted the booking of an id, under governing terms. -/
def AdmittedUnder (s : Store) (es : List Event) (id : Int) (g : Governing) : Prop :=
  ∃ before e b, before ++ [e] <+: es ∧ e.Admits (s.run before) b ∧ b.id = id ∧
    (s.run before).governing b.scope = .ok g

variable {s : Store} {es : List Event} {e : Event} {b : Booking} {id : Int} {g : Governing}

theorem not_admittedUnder_nil : ¬ s.AdmittedUnder [] id g := by
  rintro ⟨before, e, b, hp, -⟩
  simp at hp

theorem admittedUnder_concat : s.AdmittedUnder (es ++ [e]) id g ↔
    s.AdmittedUnder es id g ∨
      ∃ b, e.Admits (s.run es) b ∧ b.id = id ∧ (s.run es).governing b.scope = .ok g := by
  constructor
  · rintro ⟨before, e', b, hp, hb⟩
    rcases List.prefix_concat_iff.mp hp with h | h
    · obtain ⟨rfl, he⟩ := List.append_inj' h rfl
      cases he
      exact .inr ⟨b, hb⟩
    · exact .inl ⟨before, e', b, h, hb⟩
  · rintro (⟨before, e', b, hp, hb⟩ | ⟨b, hb⟩)
    · exact ⟨before, e', b, hp.trans (List.prefix_append _ _), hb⟩
    · exact ⟨es, e, b, List.prefix_refl _, hb⟩

/-- An event that admits nothing leaves the terms of all admissions. -/
theorem admittedUnder_concat_of_not (h : ∀ b, ¬ e.Admits (s.run es) b) :
    s.AdmittedUnder (es ++ [e]) id g ↔ s.AdmittedUnder es id g := by
  rw [admittedUnder_concat, or_iff_left_iff_imp]
  rintro ⟨b, hb, -⟩
  exact absurd hb (h b)

/-- An admission leaves the terms of the other bookings. -/
theorem admittedUnder_concat_of_ne (hb : e.Admits (s.run es) b) (hne : id ≠ b.id) :
    s.AdmittedUnder (es ++ [e]) id g ↔ s.AdmittedUnder es id g := by
  rw [admittedUnder_concat, or_iff_left_iff_imp]
  rintro ⟨b', hb', hid, -⟩
  rw [hb'.unique hb] at hid
  exact absurd hid.symm hne

/-! ## The invariant -/

/-- What a run admitted is what its table holds, and every booking is within the terms of its
admission. -/
structure Capped (s : Store) (es : List Event) (rows : List Booking) : Prop where
  readable : ∀ b ∈ rows, b.Readable
  kept : ∀ id g, s.AdmittedUnder es id g → ∃ b ∈ rows, b.id = id
  admitted : ∀ b ∈ rows, ∃ g, s.AdmittedUnder es b.id g
  bounded : ∀ b ∈ rows, ∀ g, s.AdmittedUnder es b.id g →
    (rows.countP fun a => decide (b.Competes a) : Nat) ≤ g.terms.maxConcurrent

variable {rows : List Booking}

/-- Bookings that only change their status or are cancelled compete no more than before. -/
theorem Capped.map (h : s.Capped es rows) (hno : ∀ b, ¬ e.Admits (s.run es) b)
    {f : Booking → Booking} (hf : ∀ b ∈ rows, b.Follows e.now (f b)) :
    s.Capped (es ++ [e]) (rows.map f) := by
  have hadm {id : Int} {g : Governing} :
      s.AdmittedUnder (es ++ [e]) id g ↔ s.AdmittedUnder es id g := admittedUnder_concat_of_not hno
  refine ⟨fun a ha => ?_, fun id g hg => ?_, fun a ha => ?_, fun a ha g hg => ?_⟩
  · obtain ⟨b, hb, rfl⟩ := List.mem_map.mp ha
    unfold Occupancy.Readable
    rw [(hf b hb).record.window_eq]
    exact h.readable b hb
  · obtain ⟨b, hb, rfl⟩ := h.kept id g (hadm.mp hg)
    exact ⟨f b, List.mem_map_of_mem hb, (hf b hb).record.id_eq⟩
  · obtain ⟨b, hb, rfl⟩ := List.mem_map.mp ha
    obtain ⟨g, hg⟩ := h.admitted b hb
    exact ⟨g, by rw [(hf b hb).record.id_eq]; exact hadm.mpr hg⟩
  · obtain ⟨b, hb, rfl⟩ := List.mem_map.mp ha
    rw [(hf b hb).record.id_eq] at hg
    have hle : (rows.map f).countP (fun a => decide ((f b).Competes a)) ≤
        rows.countP fun a => decide (b.Competes a) := by
      rw [List.countP_map]
      refine List.countP_mono_left fun a ha hc => ?_
      exact decide_eq_true ((of_decide_eq_true hc).of_follows (hf a ha) (hf b hb))
    have := h.bounded b hb g (hadm.mp hg)
    omega

/-- The row of an admission competes with the bookings that the admission counted and with itself,
and nothing else competes with it. -/
theorem Capped.concat (h : s.Capped es rows) (hr : (s.run es).bookings = some rows)
    (hb : e.Admits (s.run es) b) : s.Capped (es ++ [e]) (rows ++ [b]) := by
  obtain ⟨hid, hread, g, hg, hlt⟩ := hb.competes_lt hr
  have hold : ∀ a ∈ rows, a.id < b.id := fun a ha => by
    rw [hid]
    exact lt_nextId (List.mem_map_of_mem ha)
  have hterms : ∀ g', s.AdmittedUnder (es ++ [e]) b.id g' → g' = g := by
    intro g' hg'
    rcases admittedUnder_concat.mp hg' with hg' | ⟨b', hb', -, hg'⟩
    · obtain ⟨a, ha, haid⟩ := h.kept _ _ hg'
      have := hold a ha
      omega
    · rw [hb'.unique hb, hg] at hg'
      cases hg'
      rfl
  have hafter : ∀ a ∈ rows, ∀ g', s.AdmittedUnder (es ++ [e]) a.id g' ↔
      s.AdmittedUnder es a.id g' := fun a ha g' =>
    admittedUnder_concat_of_ne hb (Int.ne_of_lt (hold a ha))
  refine ⟨fun a ha => ?_, fun id g' hg' => ?_, fun a ha => ?_, fun a ha g' hg' => ?_⟩
  · rcases List.mem_append.mp ha with ha | ha
    · exact h.readable a ha
    · rw [List.mem_singleton.mp ha]
      exact hread
  · rcases admittedUnder_concat.mp hg' with hg' | ⟨b', hb', rfl, -⟩
    · obtain ⟨a, ha, haid⟩ := h.kept id g' hg'
      exact ⟨a, List.mem_append_left _ ha, haid⟩
    · exact ⟨b, List.mem_concat_self, by rw [hb'.unique hb]⟩
  · rcases List.mem_append.mp ha with ha | ha
    · obtain ⟨g', hg'⟩ := h.admitted a ha
      exact ⟨g', (hafter a ha g').mpr hg'⟩
    · rw [List.mem_singleton.mp ha]
      exact ⟨g, admittedUnder_concat.mpr (.inr ⟨b, hb, rfl, hg⟩)⟩
  · rw [List.countP_append, List.countP_singleton]
    rcases List.mem_append.mp ha with ha | ha
    · have hnot : ¬ a.Competes b := fun hc => by
        have := hold a ha
        have := hc.1
        omega
      rw [if_neg (by simpa using hnot)]
      exact h.bounded a ha g' ((hafter a ha g').mp hg')
    · rw [List.mem_singleton.mp ha] at hg' ⊢
      cases hterms g' hg'
      split <;> omega

/-- The invariant holds after every run from an empty table of bookings. -/
theorem run_capped (rules : Option (List Rule)) (es : List Event) :
    ∃ rows, ((unbooked rules).run es).bookings = some rows ∧ Ascending rows ∧
      (unbooked rules).Capped es rows := by
  induction es using List.reverseRecOn with
  | nil =>
    refine ⟨[], rfl, List.Pairwise.nil, ⟨?_, fun _ _ h => absurd h not_admittedUnder_nil, ?_, ?_⟩⟩
    · exact fun b hb => absurd hb List.not_mem_nil
    · exact fun b hb => absurd hb List.not_mem_nil
    · exact fun b hb => absurd hb List.not_mem_nil
  | append_singleton es e ih =>
    obtain ⟨rows, hr, hasc, hcap⟩ := ih
    rw [run_concat]
    obtain ⟨hno, f, hf, hfol⟩ | ⟨b, hb⟩ := e.next_bookings hr hasc
    · exact ⟨rows.map f, hf, hasc.map fun b hb => (hfol b hb).record.id_eq, hcap.map hno hfol⟩
    · obtain ⟨o, g, v, w, taken, -, -, -, -, hrow, hnext⟩ := hb.row hr
      exact ⟨rows ++ [b], hnext, hasc.concat (by rw [hrow]; rfl), hcap.concat hr hb⟩

/-- Under terms that all allow at most `most` bookings at once, no minute has more: the newest of
the bookings that cover it competes with all of them. -/
theorem Capped.covers_le (h : s.Capped es rows) {most : Nat}
    (hmost : ∀ id g, s.AdmittedUnder es id g → g.terms.maxConcurrent ≤ most)
    (company address : Int) (date : Date) (minute : Int) :
    (rows.countP fun b => decide (b.Covers company address date minute)) ≤ most := by
  cases hl : (rows.filter fun b => decide (b.Covers company address date minute)).argmax (·.id) with
  | none =>
    rw [List.argmax_eq_none] at hl
    rw [List.countP_eq_length_filter, hl]
    exact Nat.zero_le _
  | some b =>
    obtain ⟨hb, hcov⟩ := List.mem_filter.mp (List.argmax_mem hl)
    have hcov := of_decide_eq_true hcov
    have hle : (rows.countP fun a => decide (a.Covers company address date minute)) ≤
        rows.countP fun a => decide (b.Competes a) := by
      refine List.countP_mono_left fun a ha hc => decide_eq_true ?_
      have hid : a.id ≤ b.id := List.le_of_mem_argmax (List.mem_filter.mpr ⟨ha, hc⟩) hl
      exact (of_decide_eq_true hc).competes hcov hid
    obtain ⟨g, hg⟩ := h.admitted b hb
    have := h.bounded b hb g hg
    have := hmost b.id g hg
    omega

/-- **Capacity.** After every run from an empty table of bookings, every booking was admitted under
governing terms, and among the active bookings of its day that are no newer, those that overlap it
are at most as many as these terms allow. If all terms under which the run admitted a booking allow
at most `most`, then no more active bookings cover any minute of any day at any address. -/
theorem run_capacity (rules : Option (List Rule)) (es : List Event) :
    ∃ rows, ((unbooked rules).run es).bookings = some rows ∧
      (∀ b ∈ rows, b.Readable ∧ (∃ g, (unbooked rules).AdmittedUnder es b.id g) ∧
        ∀ g, (unbooked rules).AdmittedUnder es b.id g →
          (rows.countP fun a => decide (b.Competes a) : Nat) ≤ g.terms.maxConcurrent) ∧
      ∀ most : Nat,
        (∀ id g, (unbooked rules).AdmittedUnder es id g → g.terms.maxConcurrent ≤ most) →
        ∀ (company address : Int) (date : Date) (minute : Int),
          (rows.countP fun b => decide (b.Covers company address date minute)) ≤ most := by
  obtain ⟨rows, hr, -, hcap⟩ := run_capped rules es
  exact ⟨rows, hr, fun b hb => ⟨hcap.readable b hb, hcap.admitted b hb, hcap.bounded b hb⟩,
    fun most hmost => hcap.covers_le hmost⟩

end Store

end SlotBooking
