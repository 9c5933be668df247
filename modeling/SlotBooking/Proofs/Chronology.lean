import SlotBooking.Proofs.Cancellation
import SlotBooking.Proofs.Listing
import SlotBooking.Proofs.WellFormed

/-!
# Listings in the order of time

Listings are sorted by the texts of start times, while all else reckons in minutes. A start time is
kept as it was written, and digits of every script are read. So bookings are listed in the order of
their minutes as far as their start times are written in the same scripts, and out of that order
where one script comes after another.

* `Booking.NoLater`: the order of start times in minutes.
* `EarliestFirst`, `LatestFirst`: what listings of one day and other listings keep of it.
* `Store.run_chronological`: every listing after every run.
* `Store.lists_out_of_order`: two bookings of one day in different scripts.
-/

namespace SlotBooking

/-! ## The order of minutes -/

/-- Both start times can be read, and in minutes the booking starts no later than the other. -/
def Booking.NoLater (a b : Booking) : Prop :=
  ∃ m n, TimeOfDay.parse a.startTime = .ok m ∧ TimeOfDay.parse b.startTime = .ok n ∧ m ≤ n

/-- Of any two bookings whose start times are written in the same scripts, the first starts no later
than the second. -/
def EarliestFirst (bs : List Booking) : Prop :=
  bs.Pairwise fun a b => TimeOfDay.SameScripts a.startTime b.startTime → a.NoLater b

/-- Of any two bookings the first is for a later date, or for the same date and, if their start
times are written in the same scripts, starts no earlier than the second. -/
def LatestFirst (bs : List Booking) : Prop :=
  bs.Pairwise fun a b => b.date < a.date ∨
    b.date = a.date ∧ (TimeOfDay.SameScripts a.startTime b.startTime → b.NoLater a)

section Order

variable {a b : Booking} {bs : List Booking}

theorem Booking.noLater_of_le (ha : a.WellFormed) (hb : b.WellFormed)
    (hscripts : TimeOfDay.SameScripts a.startTime b.startTime)
    (h : a.startTime ≤ b.startTime) : a.NoLater b := by
  obtain ⟨m, hm⟩ := ha.startTime
  obtain ⟨n, hn⟩ := hb.startTime
  exact ⟨m, n, hm, hn, (TimeOfDay.le_iff_of_sameScripts hm hn hscripts).mp h⟩

theorem earliestFirst_of_pairwise (hbs : ∀ b ∈ bs, b.WellFormed)
    (h : bs.Pairwise fun a b => a.startTime ≤ b.startTime) : EarliestFirst bs :=
  h.imp_of_mem fun {a b} ha hb hle hscripts =>
    Booking.noLater_of_le (hbs a ha) (hbs b hb) hscripts hle

theorem latestFirst_of_pairwise (hbs : ∀ b ∈ bs, b.WellFormed)
    (h : bs.Pairwise fun a b => b.date < a.date ∨ b.date = a.date ∧ b.startTime ≤ a.startTime) :
    LatestFirst bs := by
  refine h.imp_of_mem fun {a b} ha hb hab => hab.imp_right fun ⟨hdate, hle⟩ => ⟨hdate, ?_⟩
  exact fun hscripts => Booking.noLater_of_le (hbs b hb) (hbs a ha) hscripts.symm hle

end Order

/-! ## Two bookings of one day -/

section Sample

open Admission (countTaken countTaken_day_eq_ok sampleRequest)

/-- Two requests of one user for the same day. -/
def requestsAt (t t' : String) : List Event :=
  [t, t'].map fun t => attendedEvent (.allocate (sampleRequest.starting t))

/-- The row that the first of them gets in an empty table. -/
def firstRow (t : String) (m : Int) : Booking := rowAt [] t m

/-- The row that the second then gets. -/
def secondRow (t : String) (m : Int) (t' : String) (m' : Int) : Booking :=
  rowAt [firstRow t m] t' m'

/-- The listing of that day. -/
def sampleListing : Filter := { company := 1, first := some sampleDate, last := some sampleDate }

theorem sampleListing_admits (rows : List Booking) (t : String) (m : Int) :
    sampleListing.Admits (rowAt rows t m) := by
  have hconfirmed : Status.confirmed.text ∉ Status.inactiveTexts := by decide
  refine Filter.admits_iff.mpr ⟨rfl, nofun, ?_, ?_, nofun, fun _ => .inr hconfirmed⟩
  · rintro d ⟨⟩
    exact Nat.le_refl _
  · rintro d ⟨⟩
    exact Nat.le_refl _

variable {t t' : String} {m m' : Int} (ht : TimeOfDay.parse t = .ok m)
  (ht' : TimeOfDay.parse t' = .ok m') (hapart : ¬ Window.Overlaps ⟨m', 30⟩ ⟨m, 30⟩)

include ht ht' hapart

theorem run_requestsAt : Store.empty.run (requestsAt t t') =
    ⟨some [firstRow t m, secondRow t m t' m'], some [], false⟩ := by
  have hempty : countTaken ⟨m, 30⟩ ((Filter.day 1 1 sampleDate).list []) = .ok 0 :=
    countTaken_day_eq_ok.mpr ⟨fun b hb => absurd hb List.not_mem_nil, rfl⟩
  have hwindow : (firstRow t m).window = .ok ⟨m, 30⟩ := Occupancy.window_eq_ok.mpr ⟨ht, rfl⟩
  have hone : countTaken ⟨m', 30⟩ ((Filter.day 1 1 sampleDate).list [firstRow t m]) = .ok 0 := by
    refine countTaken_day_eq_ok.mpr ⟨fun b hb _ _ => ?_, (List.countP_eq_zero.mpr ?_).symm⟩
    · rw [List.mem_singleton.mp hb]
      exact ⟨_, hwindow⟩
    · intro b hb
      rw [List.mem_singleton.mp hb, decide_eq_true_eq]
      exact fun hoccupies => hapart ((Occupancy.meets_iff hwindow).mp hoccupies.2.2)
  have hfirst := rowAt_admitted ht hempty
  have hsecond := rowAt_admitted ht' hone
  show (attendedEvent (.allocate (sampleRequest.starting t'))).next
    ((attendedEvent (.allocate (sampleRequest.starting t))).next ⟨some [], some [], false⟩) = _
  rw [hfirst]
  exact hsecond

/-- The day is listed by the texts of the start times, and the user's bookings against them. -/
theorem listings_requestsAt (hlt : t' < t) :
    (Store.empty.run (requestsAt t t')).list sampleListing =
      .ok [secondRow t m t' m', firstRow t m] ∧
    (Store.empty.run (requestsAt t t')).listOf 7 none =
      .ok [firstRow t m, secondRow t m t' m'] := by
  rw [run_requestsAt ht ht' hapart]
  have hadmits : [firstRow t m, secondRow t m t' m'].filter
      (fun b => decide (sampleListing.Admits b)) = [firstRow t m, secondRow t m t' m'] := by
    refine List.filter_eq_self.mpr fun b hb => decide_eq_true ?_
    rcases List.mem_pair.mp hb with rfl | rfl
    · exact sampleListing_admits [] t m
    · exact sampleListing_admits [firstRow t m] t' m'
  have hown : [firstRow t m, secondRow t m t' m'].filter
      (fun b => decide (b.user = 7 ∧ ∀ s ∈ (none : Option Status), b.status = s.text)) =
      [firstRow t m, secondRow t m t' m'] := by
    refine List.filter_eq_self.mpr fun b hb => decide_eq_true ⟨?_, nofun⟩
    rcases List.mem_pair.mp hb with rfl | rfl
    · exact rfl
    · exact rfl
  have hbefore : Booking.startsNoLater (firstRow t m) (secondRow t m t' m') = false :=
    decide_eq_false (String.not_le.mpr hlt)
  have hafter : Booking.isNoOlder (firstRow t m) (secondRow t m t' m') = true :=
    decide_eq_true (.inr ⟨rfl, Std.le_of_lt hlt⟩)
  constructor
  · refine Store.list_eq_ok.mpr ⟨_, rfl, by decide, ?_⟩
    have hindexed : Booking.isIndexedNoLater (firstRow t m) (secondRow t m t' m') = true :=
      decide_eq_true (.inr ⟨rfl, Nat.le_refl _⟩)
    unfold Filter.list Filter.found
    rw [hadmits, if_neg (by decide), if_pos (by decide), mergeSort_pair, hindexed, if_pos rfl,
      mergeSort_pair, hbefore]
    rfl
  · refine Store.listOf_eq_ok.mpr ⟨_, rfl, by decide, ?_⟩
    unfold bookingsOf
    rw [hown, mergeSort_pair, hafter]
    rfl

end Sample

namespace Store

/-- **Chronology.** After every run from empty tables, whatever start times it read: a listing of
one day has the earliest bookings first, and every other listing, of a company or of a user, the
latest ones, as far as start times are written in the same scripts. -/
theorem run_chronological (es : List Event) :
    (∀ f bs, (empty.run es).list f = .ok bs →
      (f.IsSingleDay → EarliestFirst bs) ∧ (¬ f.IsSingleDay → LatestFirst bs)) ∧
    ∀ user status bs, (empty.run es).listOf user status = .ok bs → LatestFirst bs := by
  obtain ⟨rows, hr, hrows⟩ := run_wellFormed es
  refine ⟨fun f bs hbs => ?_, fun user status bs hbs => ?_⟩
  · have hwell : ∀ b ∈ bs, b.WellFormed := fun b hb => hrows b (list_subset hr hbs hb)
    obtain ⟨rows', hr', -, rfl⟩ := list_eq_ok.mp hbs
    cases hr.symm.trans hr'
    exact ⟨fun hday => earliestFirst_of_pairwise hwell (Filter.pairwise_list_day hday),
      fun hday => latestFirst_of_pairwise hwell (Filter.pairwise_list hday)⟩
  · have hwell : ∀ b ∈ bs, b.WellFormed := fun b hb => hrows b (listOf_subset hr hbs hb)
    obtain ⟨rows', hr', -, rfl⟩ := listOf_eq_ok.mp hbs
    cases hr.symm.trans hr'
    exact latestFirst_of_pairwise hwell (pairwise_bookingsOf user status rows)

/-- The booking at 09:00 is listed before the one at 10:00 that was made before it. -/
theorem run_chronological_sample : ∃ first second : Booking,
    (empty.run (requestsAt "10:00" "09:00")).list sampleListing = .ok [first, second] ∧
      first.id = 2 ∧ first.NoLater second := by
  have hten : TimeOfDay.parse "10:00" = .ok 600 := rfl
  have hnine : TimeOfDay.parse "09:00" = .ok 540 := rfl
  obtain ⟨hday, -⟩ := listings_requestsAt hten hnine (by decide) (by decide)
  refine ⟨_, _, hday, rfl, ?_⟩
  have hearliest := ((run_chronological (requestsAt "10:00" "09:00")).1 _ _ hday).1 (by decide)
  exact (List.pairwise_pair.mp hearliest) (by decide)

/-- A booking at 09:00 whose time is written in the digits of another script: in the listing of the
day it comes after a booking at 10:00, and among the user's bookings, from the latest on, before
it. -/
theorem lists_out_of_order : ∃ b b' : Booking,
    TimeOfDay.parse b.startTime = .ok 540 ∧ TimeOfDay.parse b'.startTime = .ok 600 ∧
    b.date = b'.date ∧
    (empty.run (requestsAt "٠٩:٠٠" "10:00")).list sampleListing = .ok [b', b] ∧
    (empty.run (requestsAt "٠٩:٠٠" "10:00")).listOf 7 none = .ok [b, b'] := by
  have hnine : TimeOfDay.parse "٠٩:٠٠" = .ok 540 :=
    TimeOfDay.parse_eq_ok.mpr ⟨'٠', '٩', '٠', '٠', rfl, 0, 9, 0, 0, by decide, by decide,
      by decide, by decide, by decide, by decide, rfl⟩
  have hten : TimeOfDay.parse "10:00" = .ok 600 := rfl
  obtain ⟨hday, hown⟩ := listings_requestsAt hnine hten (by decide) (by decide)
  exact ⟨firstRow "٠٩:٠٠" 540, secondRow "٠٩:٠٠" 540 "10:00" 600, hnine, hten, rfl, hday, hown⟩

end Store

end SlotBooking
