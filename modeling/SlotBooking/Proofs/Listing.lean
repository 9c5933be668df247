import Mathlib.Data.List.Nodup
import SlotBooking.Proofs.Admission
import SlotBooking.Proofs.History

/-!
# What a listing shows

Five conditions narrow a listing, one of which another one overrides, and its order depends on the
period. Rows are sorted by texts and dates only, so that nothing is said of rows for which these are
equal.

* `Filter.admits_iff`: the conditions, one by one.
* `Filter.pairwise_list_day`, `Filter.pairwise_list`, `pairwise_bookingsOf`: the orders of listings.
* `Store.list_union`: a listing whose conditions are parted is parted as they are.
* `Store.list_exact`: the rows, their multiplicity and their order, for every table.
* `Store.list_ties`: two rows of one start time, which two listings show in different orders.
-/

namespace SlotBooking

/-! ## The orders of listings -/

theorem mergeSort_pair {α : Type} {le : α → α → Bool} {a b : α} :
    [a, b].mergeSort le = if le a b then [a, b] else [b, a] := by
  simp [List.mergeSort, List.MergeSort.Internal.splitInTwo, List.merge]

namespace Booking

theorem startsNoLater_trans (a b c : Booking) (hab : startsNoLater a b = true)
    (hbc : startsNoLater b c = true) : startsNoLater a c = true := by
  unfold startsNoLater at *
  rw [decide_eq_true_eq] at *
  exact String.le_trans hab hbc

theorem startsNoLater_total (a b : Booking) :
    (startsNoLater a b || startsNoLater b a) = true := by
  unfold startsNoLater
  rw [Bool.or_eq_true, decide_eq_true_eq, decide_eq_true_eq]
  exact String.le_total _ _

theorem isNoOlder_trans (a b c : Booking) (hab : isNoOlder a b = true)
    (hbc : isNoOlder b c = true) : isNoOlder a c = true := by
  unfold isNoOlder at *
  rw [decide_eq_true_eq] at *
  simp only [Date.lt_def] at *
  rcases hab with hab | ⟨hab, hab'⟩
  · rcases hbc with hbc | ⟨hbc, -⟩
    · exact .inl (Nat.lt_trans hbc hab)
    · exact .inl (hbc ▸ hab)
  · rcases hbc with hbc | ⟨hbc, hbc'⟩
    · exact .inl (hab ▸ hbc)
    · exact .inr ⟨hbc.trans hab, String.le_trans hbc' hab'⟩

theorem isNoOlder_total (a b : Booking) : (isNoOlder a b || isNoOlder b a) = true := by
  unfold isNoOlder
  rw [Bool.or_eq_true, decide_eq_true_eq, decide_eq_true_eq]
  rcases Nat.lt_trichotomy a.date.day b.date.day with h | h | h
  · exact .inr (.inl h)
  · rcases String.le_total a.startTime b.startTime with hle | hle
    · exact .inr (.inr ⟨Date.eq_of_day_eq h, hle⟩)
    · exact .inl (.inr ⟨(Date.eq_of_day_eq h).symm, hle⟩)
  · exact .inl (.inl h)

end Booking

/-- A user's own bookings are listed from the latest on. -/
theorem pairwise_bookingsOf (user : Int) (status : Option Status) (rows : List Booking) :
    (bookingsOf user status rows).Pairwise fun a b =>
      b.date < a.date ∨ b.date = a.date ∧ b.startTime ≤ a.startTime :=
  (List.pairwise_mergeSort Booking.isNoOlder_trans Booking.isNoOlder_total _).imp of_decide_eq_true

namespace Filter

variable {f : Filter} {rows : List Booking}

/-- A listing of one day is from the earliest start time on. -/
theorem pairwise_list_day (hday : f.IsSingleDay) :
    (f.list rows).Pairwise fun a b => a.startTime ≤ b.startTime := by
  unfold list
  rw [if_pos hday]
  exact (List.pairwise_mergeSort Booking.startsNoLater_trans Booking.startsNoLater_total _).imp
    of_decide_eq_true

/-- Every other listing is from the latest booking on. -/
theorem pairwise_list (hday : ¬ f.IsSingleDay) :
    (f.list rows).Pairwise fun a b =>
      b.date < a.date ∨ b.date = a.date ∧ b.startTime ≤ a.startTime := by
  unfold list
  rw [if_neg hday]
  exact (List.pairwise_mergeSort Booking.isNoOlder_trans Booking.isNoOlder_total _).imp
    of_decide_eq_true

theorem nodup_list (hasc : Ascending rows) (f : Filter) : (f.list rows).Nodup := by
  have hnodup : rows.Nodup := (List.pairwise_map.mp hasc).imp fun hlt => by
    rintro rfl
    exact absurd hlt (Int.lt_irrefl _)
  exact (f.list_perm rows).nodup_iff.mpr (hnodup.filter _)

end Filter

/-! ## The rows of a listing -/

namespace Filter

/-- A status that is asked for decides alone; without one, inactive rows are asked for or not. -/
theorem admitsStatus_iff {f : Filter} {b : Booking} : f.AdmitsStatus b ↔
    (∀ s, f.status = some s → b.status = s.text) ∧
      (f.status = none → f.includeInactive = true ∨ b.status ∉ Status.inactiveTexts) := by
  have hactive : b.IsActive ↔ b.status ∉ Status.inactiveTexts := Status.activeText_iff
  unfold AdmitsStatus
  cases f.status with
  | none => simp [hactive]
  | some s => simp

theorem admits_iff {f : Filter} {b : Booking} : f.Admits b ↔ b.company = f.company ∧
    (∀ a, f.address = some a → b.address = a) ∧ (∀ d, f.first = some d → d ≤ b.date) ∧
      (∀ d, f.last = some d → b.date ≤ d) ∧ (∀ s, f.status = some s → b.status = s.text) ∧
      (f.status = none → f.includeInactive = true ∨ b.status ∉ Status.inactiveTexts) := by
  unfold Admits
  rw [admitsStatus_iff]
  exact Iff.rfl

/-- The ids that the listing asks for fit their columns. -/
def FitsColumns (f : Filter) : Prop := ∀ n ∈ f.company :: f.address.toList, Store.Storable n

instance (f : Filter) : Decidable f.FitsColumns := inferInstanceAs (Decidable (∀ n ∈ _, _))

/-! ## Parts of a listing -/

/-- The listing without inactive rows, and the listings of the inactive statuses. -/
def byActivity (f : Filter) : List Filter :=
  { f with includeInactive := false } ::
    [.cancelledByUser, .cancelledByCompany, .noShow].map fun t => { f with status := some t }

/-- The listing up to a date, and the one from another date on. -/
def byPeriod (f : Filter) (upTo fromOn : Date) : List Filter :=
  [{ f with last := some upTo }, { f with first := some fromOn }]

section Parts

variable {f : Filter} {b : Booking}

theorem admits_byActivity (hstatus : f.status = none) :
    { f with includeInactive := true }.Admits b ↔ ∃ g ∈ f.byActivity, g.Admits b := by
  have hnone : ∀ {P : Status → Prop}, ∀ t, f.status = some t → P t := by
    intro P t ht
    rw [hstatus] at ht
    cases ht
  constructor
  · rintro ⟨hcompany, haddress, hfirst, hlast, -⟩
    by_cases hs : b.status ∈ Status.inactiveTexts
    · have hnamed : b.status ∈
          [.cancelledByUser, .cancelledByCompany, .noShow].map Status.text := hs
      obtain ⟨t, ht, hbt⟩ := List.mem_map.mp hnamed
      exact ⟨_, List.mem_cons_of_mem _ (List.mem_map_of_mem ht), hcompany, haddress, hfirst, hlast,
        hbt.symm⟩
    · exact ⟨_, List.mem_cons_self, hcompany, haddress, hfirst, hlast,
        admitsStatus_iff.mpr ⟨hnone, fun _ => .inr hs⟩⟩
  · rintro ⟨g, hg, hadmits⟩
    have hall : { f with includeInactive := true }.AdmitsStatus b :=
      admitsStatus_iff.mpr ⟨hnone, fun _ => .inl rfl⟩
    rcases List.mem_cons.mp hg with rfl | hg
    · exact ⟨hadmits.1, hadmits.2.1, hadmits.2.2.1, hadmits.2.2.2.1, hall⟩
    · obtain ⟨t, -, rfl⟩ := List.mem_map.mp hg
      exact ⟨hadmits.1, hadmits.2.1, hadmits.2.2.1, hadmits.2.2.2.1, hall⟩

theorem byActivity_apart (hstatus : f.status = none) :
    f.byActivity.Pairwise fun g h => ∀ b, g.Admits b → ¬ h.Admits b := by
  refine List.pairwise_cons.mpr ⟨fun h hh b hg hadmits => ?_, List.pairwise_map.mpr ?_⟩
  · obtain ⟨t, ht, rfl⟩ := List.mem_map.mp hh
    have hactive : b.status ∉ Status.inactiveTexts := by
      have := (admits_iff.mp hg).2.2.2.2.2 hstatus
      simpa using this
    have hnamed : b.status = t.text := hadmits.2.2.2.2
    exact hactive (hnamed ▸ List.mem_map_of_mem (f := Status.text) ht)
  · have hdistinct : [Status.cancelledByUser, .cancelledByCompany, .noShow].Nodup := by decide
    refine hdistinct.imp fun {t u} htu b ht hu => ?_
    have ht : b.status = t.text := ht.2.2.2.2
    have hu : b.status = u.text := hu.2.2.2.2
    exact htu (Status.text_injective (ht.symm.trans hu))

variable {upTo fromOn : Date} (hnext : fromOn.day = upTo.day + 1)

include hnext

theorem admits_byPeriod (hfirst : ∀ d, f.first = some d → d ≤ fromOn)
    (hlast : ∀ d, f.last = some d → upTo ≤ d) :
    f.Admits b ↔ ∃ g ∈ f.byPeriod upTo fromOn, g.Admits b := by
  constructor
  · rintro ⟨hcompany, haddress, hafter, hbefore, hstatus⟩
    by_cases hb : b.date ≤ upTo
    · refine ⟨_, List.mem_cons_self, hcompany, haddress, hafter, ?_, hstatus⟩
      rintro d ⟨⟩
      exact hb
    · refine ⟨_, List.mem_cons_of_mem _ List.mem_cons_self, hcompany, haddress, ?_, hbefore,
        hstatus⟩
      rintro d ⟨⟩
      rw [Date.le_def] at hb ⊢
      omega
  · rintro ⟨g, hg, hadmits⟩
    rcases List.mem_pair.mp hg with rfl | rfl
    · obtain ⟨hcompany, haddress, hafter, hbefore, hstatus⟩ := hadmits
      exact ⟨hcompany, haddress, hafter, fun d hd =>
        Nat.le_trans (hbefore upTo rfl) (hlast d hd), hstatus⟩
    · obtain ⟨hcompany, haddress, hafter, hbefore, hstatus⟩ := hadmits
      exact ⟨hcompany, haddress, fun d hd =>
        Nat.le_trans (hfirst d hd) (hafter fromOn rfl), hbefore, hstatus⟩

theorem byPeriod_apart :
    (f.byPeriod upTo fromOn).Pairwise fun g h => ∀ b, g.Admits b → ¬ h.Admits b := by
  refine List.pairwise_pair.mpr fun b hg hh => ?_
  have hbefore : b.date ≤ upTo := hg.2.2.2.1 upTo rfl
  have hafter : fromOn ≤ b.date := hh.2.2.1 fromOn rfl
  rw [Date.le_def] at hbefore hafter
  omega

end Parts

end Filter

namespace Store

variable {s : Store} {rows : List Booking}

theorem list_of_fitsColumns (hrows : s.bookings = some rows) {f : Filter} (h : f.FitsColumns) :
    s.list f = .ok (f.list rows) := list_eq_ok.mpr ⟨rows, hrows, h, rfl⟩

/-- A listing whose conditions are those of one or another of several listings, and never of two,
is their disjoint union. -/
theorem list_union (hrows : s.bookings = some rows) (hasc : Ascending rows) {f : Filter}
    {parts : List Filter} (hf : f.FitsColumns) (hparts : ∀ g ∈ parts, g.FitsColumns)
    (hcover : ∀ b, f.Admits b ↔ ∃ g ∈ parts, g.Admits b)
    (hapart : parts.Pairwise fun g h => ∀ b, g.Admits b → ¬ h.Admits b) :
    ∃ all lists, s.list f = .ok all ∧ parts.mapM s.list = .ok lists ∧ all.Perm lists.flatten ∧
      lists.flatten.Nodup := by
  have hnodup : (parts.map (·.list rows)).flatten.Nodup := by
    rw [← List.flatMap_def, List.nodup_flatMap]
    refine ⟨fun g _ => Filter.nodup_list hasc g, hapart.imp fun {g h} hgh b hg hh => ?_⟩
    exact hgh b (Filter.mem_list.mp hg).2 (Filter.mem_list.mp hh).2
  refine ⟨_, _, list_of_fitsColumns hrows hf,
    mapM_eq_ok_map fun g hg => list_of_fitsColumns hrows (hparts g hg), ?_, hnodup⟩
  refine (List.perm_ext_iff_of_nodup (Filter.nodup_list hasc f) hnodup).mpr fun b => ?_
  rw [← List.flatMap_def, List.mem_flatMap, Filter.mem_list, hcover]
  constructor
  · rintro ⟨hb, g, hg, hadmits⟩
    exact ⟨g, hg, Filter.mem_list.mpr ⟨hb, hadmits⟩⟩
  · rintro ⟨g, hg, hmem⟩
    obtain ⟨hb, hadmits⟩ := Filter.mem_list.mp hmem
    exact ⟨hb, g, hg, hadmits⟩

/-- **Listing.** Let the ids of a table ascend, and let a listing ask for ids that fit their
columns. It shows the rows of its company that meet its address, the bounds of its period and its
status where given; without a status, the inactive rows too if they are asked for. Each is shown
once, for a single day by start time and otherwise from the latest on. So a listing with inactive rows is the disjoint union of the usual one and those of the three
inactive statuses, and the listing of a period is that of its parts up to one day and from the next
on. -/
theorem list_exact (s : Store) (rows : List Booking) (hrows : s.bookings = some rows)
    (hasc : Ascending rows) (f : Filter) (hf : f.FitsColumns) :
    (∃ bs, s.list f = .ok bs ∧
      (∀ b, b ∈ bs ↔ b ∈ rows ∧ b.company = f.company ∧
        (∀ a, f.address = some a → b.address = a) ∧ (∀ d, f.first = some d → d ≤ b.date) ∧
        (∀ d, f.last = some d → b.date ≤ d) ∧ (∀ t, f.status = some t → b.status = t.text) ∧
        (f.status = none → f.includeInactive = true ∨ b.status ∉ Status.inactiveTexts)) ∧
      bs.Nodup ∧
      (f.IsSingleDay → bs.Pairwise fun a b => a.startTime ≤ b.startTime) ∧
      (¬ f.IsSingleDay → bs.Pairwise fun a b =>
        b.date < a.date ∨ b.date = a.date ∧ b.startTime ≤ a.startTime)) ∧
    (f.status = none → ∃ all parts, s.list { f with includeInactive := true } = .ok all ∧
      f.byActivity.mapM s.list = .ok parts ∧ all.Perm parts.flatten ∧ parts.flatten.Nodup) ∧
    ∀ upTo fromOn : Date, fromOn.day = upTo.day + 1 → (∀ d, f.first = some d → d ≤ fromOn) →
      (∀ d, f.last = some d → upTo ≤ d) → ∃ all parts, s.list f = .ok all ∧
        (f.byPeriod upTo fromOn).mapM s.list = .ok parts ∧ all.Perm parts.flatten ∧
        parts.flatten.Nodup := by
  refine ⟨⟨_, list_of_fitsColumns hrows hf, fun b => ?_, Filter.nodup_list hasc f,
    Filter.pairwise_list_day, Filter.pairwise_list⟩, fun hstatus => ?_,
    fun upTo fromOn hnext hfirst hlast => ?_⟩
  · rw [Filter.mem_list, Filter.admits_iff]
  · refine list_union hrows hasc hf (fun g hg => ?_) (fun b => Filter.admits_byActivity hstatus)
      (Filter.byActivity_apart hstatus)
    rcases List.mem_cons.mp hg with rfl | hg
    · exact hf
    · obtain ⟨t, -, rfl⟩ := List.mem_map.mp hg
      exact hf
  · refine list_union hrows hasc hf (fun g hg => ?_)
      (fun b => Filter.admits_byPeriod hnext hfirst hlast) (Filter.byPeriod_apart hnext)
    rcases List.mem_pair.mp hg with rfl | rfl
    · exact hf
    · exact hf

section Sample

open Admission (sampleBooking)

/-- The sample booking, and one of the same slot with a status that no booking is given. -/
def sampleRows : List Booking := [sampleBooking, { sampleBooking with id := 2, status := "held" }]

theorem sampleRows_ascending : Ascending sampleRows := by
  unfold Ascending
  decide

/-- Both rows are listed, also the one of an unknown status. -/
theorem list_exact_sample : Ascending sampleRows ∧ Filter.FitsColumns { company := 1 } ∧
    ∃ bs, Store.list ⟨some sampleRows, some [], false⟩ { company := 1 } = .ok bs ∧
      (∀ b ∈ sampleRows, b ∈ bs) ∧ bs.Nodup ∧ bs.Pairwise fun a b =>
        b.date < a.date ∨ b.date = a.date ∧ b.startTime ≤ a.startTime := by
  obtain ⟨⟨bs, hbs, hmem, hnodup, -, hlatest⟩, -⟩ :=
    list_exact ⟨some sampleRows, some [], false⟩ sampleRows rfl sampleRows_ascending
      { company := 1 } (by decide)
  refine ⟨sampleRows_ascending, by decide, bs, hbs, fun b hb => (hmem b).mpr ⟨hb, ?_⟩, hnodup,
    hlatest (by decide)⟩
  rcases List.mem_pair.mp hb with rfl | rfl
  · exact ⟨rfl, nofun, nofun, nofun, nofun, fun _ => .inr (by decide)⟩
  · exact ⟨rfl, nofun, nofun, nofun, nofun, fun _ => .inr (by decide)⟩

/-- Both rows are of one date and start time: for their company they are listed by id, and for
their address the other way round. -/
theorem list_ties : Ascending sampleRows ∧
    (∀ a ∈ sampleRows, ∀ b ∈ sampleRows, a.date = b.date ∧ a.startTime = b.startTime) ∧
    Store.list ⟨some sampleRows, some [], false⟩ { company := 1 } = .ok sampleRows ∧
    Store.list ⟨some sampleRows, some [], false⟩ { company := 1, address := some 1 } =
      .ok sampleRows.reverse := by
  have hall (f : Filter) (hf : ∀ b ∈ sampleRows, f.Admits b) :
      (sampleRows.filter fun b => decide (f.Admits b)) = sampleRows :=
    List.filter_eq_self.mpr fun b hb => decide_eq_true (hf b hb)
  refine ⟨sampleRows_ascending, by decide, ?_, ?_⟩
  · refine list_eq_ok.mpr ⟨_, rfl, by decide, ?_⟩
    unfold Filter.list Filter.found
    rw [hall _ (by decide), if_neg (by decide), if_neg (by decide), sampleRows, mergeSort_pair,
      if_pos (by decide), mergeSort_pair, if_pos (by decide)]
  · refine list_eq_ok.mpr ⟨_, rfl, by decide, ?_⟩
    unfold Filter.list Filter.found
    rw [hall _ (by decide), if_pos (by decide), if_neg (by decide), sampleRows, mergeSort_pair,
      if_pos (by decide), List.reverse_cons, List.reverse_singleton, List.singleton_append,
      mergeSort_pair, if_pos (by decide)]

end Sample

end Store

end SlotBooking
