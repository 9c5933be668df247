import SlotBooking.Proofs.Agreement
import SlotBooking.Proofs.WellFormed

/-!
# Bookings and opening hours

The slots of a day lie between its opening and closing times. An admission asks only whether the day
is a working day, so that a booking lies within the hours if its start is one that the availability
offers, and otherwise may start at any minute of the day.

* `Booking.realWindow`, `Booking.Coincides`: bookings of all dates on one line of minutes.
* `slot_within_hours`: what is offered.
* `admitted_on_working_day`: what an admission asks for.
* `offered_within_hours`: a start that is offered makes a booking within the hours of its day.
* `Store.run_coincides`: any bookings of a run that coincide are at most one date apart.
-/

namespace SlotBooking

open Admission (Order Request)
open Directory (Company Service Vehicle)

/-! ## The line of minutes -/

namespace Booking

variable {a b : Booking}

/-- The minutes taken up, counted from the first day of the calendar. -/
def realWindow (b : Booking) : Except TimeOfDay.Error Window :=
  b.window.map fun w => ⟨b.date.day * 1440 + w.start, w.duration⟩

/-- The bookings have time in common, whatever their dates. -/
def Coincides (a b : Booking) : Prop :=
  ∃ v, a.realWindow = .ok v ∧ ∃ w, b.realWindow = .ok w ∧ v.Overlaps w

theorem realWindow_eq {w : Window} (h : b.window = .ok w) :
    b.realWindow = .ok ⟨b.date.day * 1440 + w.start, w.duration⟩ := by
  unfold realWindow
  rw [h]
  rfl

theorem coincides_iff {v w : Window} (ha : a.window = .ok v) (hb : b.window = .ok w) :
    a.Coincides b ↔ (a.date.day * 1440 + v.start : Int) < b.date.day * 1440 + w.stop ∧
      (b.date.day * 1440 + w.start : Int) < a.date.day * 1440 + v.stop := by
  simp only [Coincides, realWindow_eq ha, realWindow_eq hb, Except.ok.injEq, exists_eq_left',
    Window.Overlaps, Window.stop, Int.add_assoc]

/-- Bookings of different dates that both end by midnight have no time in common. -/
theorem not_coincides_of_date_ne {v w : Window} (ha : a.window = .ok v) (hb : b.window = .ok w)
    (hv : 0 ≤ v.start ∧ v.stop ≤ 1440) (hw : 0 ≤ w.start ∧ w.stop ≤ 1440)
    (hne : a.date ≠ b.date) : ¬ a.Coincides b := by
  have hday : a.date.day ≠ b.date.day := fun h => hne (Date.eq_of_day_eq h)
  rw [coincides_iff ha hb]
  omega

end Booking

/-! ## What is offered -/

/-- On a day with slots every slot is between the opening and the closing time. -/
theorem slot_within_hours {store : Store} {now : Instant} {company address : Int} {date : Date}
    {day : DaySchedule} {terms : Capacity.Terms} {slots : List Slot} (hd : ¬ date < now.date)
    (h : Availability.slots store now company address date day terms = .ok slots) {s : Slot}
    (hs : s ∈ slots) : ∃ opens closes first last, day.hours? = some (opens, closes) ∧
      Schedule.readTime opens = .ok first ∧ Schedule.readTime closes = .ok last ∧
      first ≤ s.start ∧ s.start + terms.slotMinutes ≤ last := by
  have hworking := isWorkingDay_of_mem_slots h hs
  obtain ⟨⟨opens, closes⟩, hday⟩ := Option.isSome_iff_exists.mp hworking
  obtain ⟨hstarts, -⟩ := slots_eq_ok hworking h
  obtain ⟨hlen, first, last, hfirst, hlast, hmem⟩ := daySlots_eq_ok hday hd hstarts
  obtain ⟨⟨k, hk, hend⟩, -⟩ := (hmem _).mp (List.mem_map_of_mem hs)
  have hnonneg : 0 ≤ (k : Int) * terms.slotMinutes :=
    Int.mul_nonneg (Int.natCast_nonneg k) (Int.le_of_lt hlen)
  exact ⟨opens, closes, first, last, hday, hfirst, hlast, by omega, hend⟩

/-! ## What an admission asks for -/

/-- A booking is admitted for a working day and for a minute of it, with the length of a slot. -/
theorem admitted_on_working_day {w : World} {r : Request} {b : Booking}
    (h : (w.perform (.allocate r)).1 = .ok (.booking b)) :
    r.date = some b.date ∧ (∃ c, r.FindsCompany w c ∧ (c.scheduleOn b.date).IsWorkingDay) ∧
      (∃ g, r.IsGovernedBy w g ∧ b.duration = g.terms.slotMinutes) ∧
      ∃ m, r.StartsAt m ∧ b.window = .ok ⟨m, b.duration⟩ ∧ 0 ≤ m ∧ m < 1440 := by
  obtain ⟨b', s', hv, hout, -⟩ | ⟨f, -, hout, -⟩ := Admission.perform_allocate w r
  · rw [hout] at h
    cases h
    obtain ⟨rows, -, hb, -⟩ := Admission.booked_of_ok hv
    rw [Admission.allocate_value] at hv
    simp only [bind_eq_ok] at hv
    obtain ⟨o, ho, ⟨c, s, v⟩, hl, ha⟩ := hv
    obtain ⟨hc, -, -⟩ := Admission.Order.lookUp_eq_ok hl
    obtain ⟨-, g, -, -, hday, -⟩ := Admission.Order.admit_eq_ok.mp ha
    obtain ⟨-, -, -, -, hd, ht, hm, -⟩ := Admission.Request.order_eq_ok.mp ho
    have hdate : o.date = b.date := Option.some.inj (hd.symm.trans hb.date)
    have htime : o.startTime = b.startTime := Option.some.inj (ht.symm.trans hb.startTime)
    rw [hdate] at hday
    rw [htime] at ht hm
    exact ⟨hb.date, ⟨c, (Request.findsCompany_iff ho).mpr hc, hday⟩, hb.duration, o.start,
      ⟨b.startTime, ht, hm⟩, Occupancy.window_eq_ok.mpr ⟨hm, rfl⟩, TimeOfDay.parse_bounds hm⟩
  · rw [hout] at h
    cases h

/-! ## Offered starts -/

/-- The booking is admitted, for a start that the availability of the same world offers. -/
structure World.AdmitsOffered (w : World) (r : Request) (b : Booking) : Prop where
  admitted : (w.perform (.allocate r)).1 = .ok (.booking b)
  offered : ∃ d s, (w.perform (.availability r.company r.address r.service b.date)).1 =
    .ok (.day d) ∧ s ∈ d.slots ∧ r.StartsAt s.start

theorem World.AdmitsOffered.within {w : World} {r : Request} {b : Booking}
    (h : w.AdmitsOffered r b) : ∃ c opens closes first last m, r.FindsCompany w c ∧
      (c.scheduleOn b.date).hours? = some (opens, closes) ∧
      Schedule.readTime opens = .ok first ∧ Schedule.readTime closes = .ok last ∧
      b.window = .ok ⟨m, b.duration⟩ ∧ first ≤ m ∧ m + b.duration ≤ last := by
  obtain ⟨hadm, d, s, havail, hs, t', ht', hp'⟩ := h
  obtain ⟨-, -, ⟨g, hg, hdur⟩, m, ⟨t, ht, hp⟩, hwin, -⟩ := admitted_on_working_day hadm
  cases ht.symm.trans ht'
  cases hp.symm.trans hp'
  rw [perform_availability_fst] at havail
  simp only [bind_eq_ok] at havail
  obtain ⟨a, ha, slots, hslots, hout⟩ := havail
  cases hout
  obtain ⟨⟨hc, -⟩, ⟨haddress, -⟩, ⟨hservice, -⟩, hseller, -, -, -, hgov, -⟩ := approach_eq_ok.mp ha
  cases hg.unique ⟨_, hc, _, haddress, _, hservice, hgov⟩
  obtain ⟨opens, closes, first, last, hday, hfirst, hlast, hle, hend⟩ :=
    slot_within_hours (not_past_of_approach ha) hslots hs
  exact ⟨_, opens, closes, first, last, _, ⟨_, hc, hseller⟩, hday, hfirst, hlast, hwin, hle,
    hdur ▸ hend⟩

/-! ## Runs -/

namespace Store

/-- Bookings of a run that have time in common are of one date or of two that follow each other. -/
theorem run_coincides (es : List Event) : ∃ rows, (empty.run es).bookings = some rows ∧
    ∀ a ∈ rows, ∀ b ∈ rows, a.Coincides b →
      a.date.day ≤ b.date.day + 1 ∧ b.date.day ≤ a.date.day + 1 := by
  obtain ⟨rows, hr, hwell⟩ := run_wellFormed es
  refine ⟨rows, hr, fun a ha b hb hab => ?_⟩
  obtain ⟨v, hv⟩ := (hwell a ha).readable
  obtain ⟨w, hw⟩ := (hwell b hb).readable
  obtain ⟨hva, hvd⟩ := Occupancy.window_eq_ok.mp hv
  obtain ⟨hwb, hwd⟩ := Occupancy.window_eq_ok.mp hw
  have hva := TimeOfDay.parse_bounds hva
  have hwb := TimeOfDay.parse_bounds hwb
  have hda := (hwell a ha).duration
  have hdb := (hwell b hb).duration
  rw [Booking.coincides_iff hv hw] at hab
  unfold Window.stop at hab
  omega

end Store

/-! ## Hours that are kept, and hours that are not -/

section Sample

open Admission (Fits Requirement perform_ok_iff sampleCompany sampleRequest sampleWorld
  sample_findsCompany sample_fits sample_isGovernedBy sample_met sample_startsAt)
open Admission.Requirement (Met)

theorem sample_hours (date : Date) :
    (sampleCompany.scheduleOn date).hours? = some (.ofString "09:00", .ofString "11:00") := by
  unfold Company.scheduleOn
  cases date.weekday <;> rfl

/-- The sample request, for another date and time. -/
def requestAt (date : Date) (t : String) : Request :=
  { sampleRequest with date := some date, startTime := some t }

variable {date : Date} {t : String} {m : Int}

theorem requestAt_fits : Fits (sampleWorld "" false) (requestAt date t) :=
  { sample_fits "" false with
    readable := by
      rintro rows ⟨⟩ b hb - - - -
      rw [List.mem_singleton.mp hb]
      exact ⟨⟨600, 30⟩, rfl⟩ }

/-- Within the advance limit any minute of any day can be booked. -/
theorem requestAt_met (ht : TimeOfDay.parse t = .ok m) (hpast : 739676 < date.day)
    (hfar : date.day ≤ 739690) (q : Requirement) :
    Met (sampleWorld "" false) (requestAt date t) q := by
  have hg := sample_isGovernedBy "" false
  have hsample := sample_met "" false (q := q) (fun _ => rfl) fun _ => rfl
  cases q with
  | date => exact rfl
  | startTime => exact ⟨m, t, rfl, ht⟩
  | notPast => exact ⟨date, rfl, Nat.le_of_lt hpast⟩
  | notTooFar =>
    refine ⟨_, hg, .inr ⟨date, rfl, ?_⟩⟩
    show (date.day : Int) ≤ 739676 + 14
    omega
  | workingDay =>
    exact ⟨_, sample_findsCompany "" false, date, rfl, isWorkingDay_of_hours (sample_hours date)⟩
  | notice =>
    refine ⟨_, hg, .inl fun h => ?_⟩
    have hday : date.day = 739676 := congrArg Date.day (Option.some.inj h)
    omega
  | place =>
    -- Two bookings may overlap, and the table has only one.
    refine ⟨_, hg, _, ⟨1, rfl, 1, rfl, date, rfl, m, ⟨t, rfl, ht⟩, _, rfl, rfl⟩, ?_⟩
    exact Int.lt_of_le_of_lt (Int.ofNat_le.mpr List.countP_le_length) (by decide)
  | _ => exact hsample

theorem requestAt_admitted (date : Date) (t : String) (ht : TimeOfDay.parse t = .ok m)
    (hpast : 739676 < date.day) (hfar : date.day ≤ 739690) : ∃ b,
      ((sampleWorld "" false).perform (.allocate (requestAt date t))).1 = .ok (.booking b) ∧
      b.date = date ∧ b.window = .ok ⟨m, 30⟩ := by
  obtain ⟨b, hb⟩ := (perform_ok_iff requestAt_fits).mpr (requestAt_met ht hpast hfar)
  obtain ⟨hdate, -, ⟨g, hg, hdur⟩, m', ⟨t', hstart, ht'⟩, hwin, -⟩ := admitted_on_working_day hb
  cases (hstart : some t = some t')
  cases ht.symm.trans ht'
  cases hg.unique (sample_isGovernedBy "" false)
  exact ⟨b, hb, (Option.some.inj hdate).symm, by rw [hwin, hdur]; rfl⟩

theorem sample_admitsOffered : ∃ b, (sampleWorld "" false).AdmitsOffered sampleRequest b := by
  obtain ⟨b, hb⟩ := (perform_ok_iff (sample_fits "" false)).mpr fun q =>
    sample_met "" false (fun _ => rfl) fun _ => rfl
  obtain ⟨d, hd, hs⟩ := sample_availability "" false
  obtain ⟨hdate, -⟩ := admitted_on_working_day hb
  have hdate : b.date = sampleDate := (Option.some.inj hdate).symm
  exact ⟨b, hb, d, _, by rw [hdate]; exact hd, hs, sample_startsAt⟩

end Sample

/-- **Opening hours.** A booking that is admitted for a start which the availability of the same
world offers lies between the opening and the closing time of its day. So it is over by midnight,
and two such bookings of different dates have no time in common, of whatever worlds they are. -/
theorem offered_within_hours {w : World} {r : Request} {b : Booking} (h : w.AdmitsOffered r b) :
    (∃ c opens closes first last m, r.FindsCompany w c ∧
      (c.scheduleOn b.date).hours? = some (opens, closes) ∧
      Schedule.readTime opens = .ok first ∧ Schedule.readTime closes = .ok last ∧
      b.window = .ok ⟨m, b.duration⟩ ∧ first ≤ m ∧ m + b.duration ≤ last ∧ last < 1440) ∧
    ∀ (w' : World) (r' : Request) (b' : Booking), w'.AdmitsOffered r' b' → b.date ≠ b'.date →
      ¬ b.Coincides b' := by
  obtain ⟨c, opens, closes, first, last, m, hc, hday, hfirst, hlast, hwin, hle, hend⟩ := h.within
  have hf := readTime_bounds hfirst
  have hl := readTime_bounds hlast
  refine ⟨⟨c, opens, closes, first, last, m, hc, hday, hfirst, hlast, hwin, hle, hend, hl.2⟩, ?_⟩
  intro w' r' b' h' hne
  obtain ⟨_, _, _, first', last', m', -, -, hfirst', hlast', hwin', hle', hend'⟩ := h'.within
  have hf' := readTime_bounds hfirst'
  have hl' := readTime_bounds hlast'
  refine Booking.not_coincides_of_date_ne hwin hwin' ⟨?_, ?_⟩ ⟨?_, ?_⟩ hne <;>
    simp only [Window.stop] <;> omega

open Admission (sampleRequest sampleWorld) in
theorem offered_within_hours_sample : ∃ b, (sampleWorld "" false).AdmitsOffered sampleRequest b ∧
    ∃ m, b.window = .ok ⟨m, b.duration⟩ ∧ 540 ≤ m ∧ m + b.duration ≤ 660 := by
  obtain ⟨b, hb⟩ := sample_admitsOffered
  obtain ⟨⟨c, opens, closes, first, last, m, hc, hday, hfirst, hlast, hwin, hle, hend, -⟩, -⟩ :=
    offered_within_hours hb
  cases hc.unique (Admission.sample_findsCompany "" false)
  rw [sample_hours] at hday
  cases hday
  cases hfirst
  cases hlast
  exact ⟨b, hb, m, hwin, hle, hend⟩

open Admission (sampleCompany sampleWorld) in
/-- The hours are not checked: with a company that closes at 11:00, a booking is admitted for 23:45.
It runs past midnight, into one that is admitted for the next date. -/
theorem admitted_outside_hours : ∃ today tomorrow b b',
    ((sampleWorld "" false).perform (.allocate (requestAt today "23:45"))).1 = .ok (.booking b) ∧
    (requestAt today "23:45").FindsCompany (sampleWorld "" false) sampleCompany ∧
    (sampleCompany.scheduleOn b.date).hours? = some (.ofString "09:00", .ofString "11:00") ∧
    Schedule.readTime "09:00" = .ok 540 ∧ Schedule.readTime "11:00" = .ok 660 ∧
    b.window = .ok ⟨1425, 30⟩ ∧
    ((sampleWorld "" false).perform (.allocate (requestAt tomorrow "00:00"))).1 =
      .ok (.booking b') ∧
    b.date ≠ b'.date ∧ b.Coincides b' := by
  obtain ⟨b, hb, hdate, hwin⟩ := requestAt_admitted ⟨739679, by decide⟩ "23:45" (m := 1425)
    rfl (by decide) (by decide)
  obtain ⟨b', hb', hdate', hwin'⟩ := requestAt_admitted ⟨739680, by decide⟩ "00:00" (m := 0)
    rfl (by decide) (by decide)
  refine ⟨_, _, b, b', hb, Admission.sample_findsCompany "" false, sample_hours _, rfl, rfl, hwin,
    hb', ?_, ?_⟩
  · rw [hdate, hdate']
    decide
  · rw [Booking.coincides_iff hwin hwin', hdate, hdate']
    decide

end SlotBooking
