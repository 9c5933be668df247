import SlotBooking.Proofs.Store

/-!
# Counting what is taken

An admission counts the active bookings of a day that overlap the wanted window. Here the count is
stated on the table itself, without the listing that it goes through and without its order.

* `countOverlaps_eq_ok`: what is counted, and when counting succeeds.
* `Filter.found_perm`, `Filter.list_perm`, `Filter.day_admits`: what a listing shows.
* `Admission.countTaken_day_eq_ok`: the count of an admission, as a count over the table.
-/

namespace SlotBooking

/-! ## One list of occupancies -/

/-- A condition on a result can be decided. -/
instance decidableOfOk {ε α : Type} (x : Except ε α) (P : α → Prop) [DecidablePred P] :
    Decidable (∃ a, x = .ok a ∧ P a) :=
  match x with
  | .ok a => decidable_of_iff (P a) (by simp)
  | .error _ => .isFalse (by simp)

namespace Occupancy

/-- The start time can be read. -/
def Readable (o : Occupancy) : Prop := ∃ v, o.window = .ok v

/-- The occupancy overlaps a window. -/
def Meets (o : Occupancy) (w : Window) : Prop := ∃ v, o.window = .ok v ∧ w.Overlaps v

instance (o : Occupancy) (w : Window) : Decidable (o.Meets w) := decidableOfOk _ _

theorem meets_iff {o : Occupancy} {w v : Window} (h : o.window = .ok v) :
    o.Meets w ↔ w.Overlaps v := by
  simp [Meets, h]

theorem window_eq_ok {o : Occupancy} {v : Window} :
    o.window = .ok v ↔ TimeOfDay.parse o.startTime = .ok v.start ∧ o.duration = v.duration := by
  unfold window
  simp only [bind_eq_ok]
  constructor
  · rintro ⟨m, hm, h⟩
    cases h
    exact ⟨hm, rfl⟩
  · rintro ⟨hm, hd⟩
    exact ⟨_, hm, by rw [hd]; rfl⟩

end Occupancy

/-- Counting succeeds exactly if all active occupancies have start times that can be read. -/
theorem countOverlaps_eq_ok {w : Window} {os : List Occupancy} {n : Nat} :
    countOverlaps w os = .ok n ↔ (∀ o ∈ os, o.IsActive → o.Readable) ∧
      n = os.countP fun o => decide (o.IsActive ∧ o.Meets w) := by
  induction os generalizing n with
  | nil => simp [countOverlaps, eq_comm]
  | cons o os ih =>
    unfold countOverlaps
    rw [List.forall_mem_cons, List.countP_cons]
    by_cases ha : o.IsActive
    · simp only [if_pos ha, bind_eq_ok]
      constructor
      · rintro ⟨v, hv, m, hm, h⟩
        obtain ⟨hr, rfl⟩ := ih.mp hm
        refine ⟨⟨fun _ => ⟨v, hv⟩, hr⟩, ?_⟩
        cases h
        simp only [ha, Occupancy.meets_iff hv, true_and, decide_eq_true_eq]
        split <;> rfl
      · rintro ⟨⟨ho, hr⟩, rfl⟩
        obtain ⟨v, hv⟩ := ho ha
        refine ⟨v, hv, _, ih.mpr ⟨hr, rfl⟩, ?_⟩
        simp only [ha, Occupancy.meets_iff hv, true_and, decide_eq_true_eq]
        split <;> rfl
    · simp [ih, ha]

/-! ## Bookings of one day at one address -/

namespace Booking

/-- The booking is for a date at an address of a company. -/
def IsAt (b : Booking) (company address : Int) (date : Date) : Prop :=
  b.company = company ∧ b.address = address ∧ b.date = date

instance (b : Booking) (company address : Int) (date : Date) :
    Decidable (b.IsAt company address date) := inferInstanceAs (Decidable (_ ∧ _ ∧ _))

/-- The booking takes a place in a window on a date at an address of a company. -/
def Occupies (b : Booking) (company address : Int) (date : Date) (w : Window) : Prop :=
  b.IsActive ∧ b.IsAt company address date ∧ b.Meets w

instance (b : Booking) (company address : Int) (date : Date) (w : Window) :
    Decidable (b.Occupies company address date w) := inferInstanceAs (Decidable (_ ∧ _ ∧ _))

end Booking

namespace Filter

/-- Bookings are found once each. -/
theorem found_perm (f : Filter) (shown : List Booking) : (f.found shown).Perm shown := by
  have hindexed := List.mergeSort_perm shown Booking.isIndexedNoLater
  unfold found
  split
  · exact (List.reverse_perm _).trans hindexed
  · exact hindexed

theorem list_perm (f : Filter) (rows : List Booking) :
    (f.list rows).Perm (rows.filter fun b => decide (f.Admits b)) :=
  (List.mergeSort_perm _ _).trans (f.found_perm _)

theorem mem_list {f : Filter} {rows : List Booking} {b : Booking} :
    b ∈ f.list rows ↔ b ∈ rows ∧ f.Admits b := by
  rw [(f.list_perm rows).mem_iff, List.mem_filter, decide_eq_true_eq]

theorem day_admits {company address : Int} {date : Date} {b : Booking} :
    (day company address date).Admits b ↔ b.IsActive ∧ b.IsAt company address date := by
  simp only [Admits, AdmitsStatus, day, Option.mem_def, Option.some.injEq, forall_eq',
    Bool.false_eq_true, false_or]
  constructor
  · rintro ⟨hc, ha, hd, hd', hact⟩
    exact ⟨hact, hc, ha, Date.eq_of_day_eq (Nat.le_antisymm hd' hd)⟩
  · rintro ⟨hact, hc, ha, rfl⟩
    exact ⟨hc, ha, Nat.le_refl _, Nat.le_refl _, hact⟩

end Filter

/-- What an admission counts on a table. -/
theorem Admission.countTaken_day_eq_ok {w : Window} {company address : Int} {date : Date}
    {rows : List Booking} {n : Nat} :
    countTaken w ((Filter.day company address date).list rows) = .ok n ↔
      (∀ b ∈ rows, b.IsActive → b.IsAt company address date → b.Readable) ∧
        n = rows.countP fun b => decide (b.Occupies company address date w) := by
  have hcount : ((Filter.day company address date).list rows).countP
      ((fun o : Occupancy => decide (o.IsActive ∧ o.Meets w)) ∘ (·.toOccupancy)) =
      rows.countP fun b => decide (b.Occupies company address date w) := by
    rw [((Filter.day company address date).list_perm rows).countP_eq, List.countP_filter]
    refine List.countP_congr fun b _ => ?_
    rw [Bool.and_eq_true, Function.comp_apply, decide_eq_true_eq, decide_eq_true_eq,
      decide_eq_true_eq, Filter.day_admits]
    constructor
    · rintro ⟨⟨-, hm⟩, ha, hat⟩
      exact ⟨ha, hat, hm⟩
    · rintro ⟨ha, hat, hm⟩
      exact ⟨⟨ha, hm⟩, ha, hat⟩
  unfold countTaken
  rw [mapError_eq_ok, countOverlaps_eq_ok, List.countP_map, hcount]
  simp only [List.forall_mem_map, Filter.mem_list, Filter.day_admits]
  refine and_congr_left fun _ => ⟨fun h b hb ha hat => h b ⟨hb, ha, hat⟩ ha, fun h b hb _ => ?_⟩
  exact h b hb.1 hb.2.1 hb.2.2

end SlotBooking
