import SlotBooking.Proofs.Admission
import SlotBooking.Proofs.TimeOfDay

/-!
# Availability and admission agree

The slots of a day and an admission are worked out separately, with their checks in different
orders. Both begin with the same approach: the ids, the company and its address, the service and
where it is offered, the governing terms and the date. What the rest of the one says about a start
time, the rest of the other does with a request for it.

* `approach`: what both go through first, with `availability_eq` and `allocate_eq`.
* `daySlots_eq_ok`, `slots_eq_ok`: the starts that are offered and the places left at each.
* `Availability.slots_eq`: the slots without the starts being written and read back.
* `availability_agrees`: a slot with places left can be booked and a full one cannot; a start that
  is left out is too late; on other days and after a refusal both answer alike.
-/

namespace SlotBooking

open Directory (Collaborators Company Service Vehicle fetchCompany fetchService fetchVehicle
  requireAddress requireOffered)
open Admission (Order Request requireDate requireNotice requirePositive countTaken)

/-! ## The approach -/

/-- What the first checks of an availability or of an admission find. -/
structure Approach where
  company : Int
  address : Int
  service : Int
  seller : Company
  offer : Service
  governing : Capacity.Governing

/-- The checks with which both an availability and an admission begin. -/
def approach (w : World) (company address service : Option Int) (date : Date) :
    Except Failure Approach := do
  let company ← requirePositive "company_id" company
  let address ← requirePositive "address_id" address
  let service ← requirePositive "service_id" service
  let c ← (fetchCompany company).value w.collaborators
  requireAddress c address
  let v ← (fetchService company service).value w.collaborators
  requireOffered v address
  let g ← w.store.governing ⟨company, some address, some service⟩
  requireDate date w.now.date g.terms
  return ⟨company, address, service, c, v, g⟩

/-- The approach is made if the ids are positive, the company has the address, the service is
offered there, and the date is neither past nor too far ahead. -/
theorem approach_eq_ok {w : World} {company address service : Option Int} {date : Date}
    {a : Approach} : approach w company address service date = .ok a ↔
      (company = some a.company ∧ 0 < a.company) ∧ (address = some a.address ∧ 0 < a.address) ∧
        (service = some a.service ∧ 0 < a.service) ∧
        (fetchCompany a.company).value w.collaborators = .ok a.seller ∧
        a.seller.HasAddress a.address ∧
        (fetchService a.company a.service).value w.collaborators = .ok a.offer ∧
        a.offer.IsOfferedAt a.address ∧
        w.store.governing ⟨a.company, some a.address, some a.service⟩ = .ok a.governing ∧
        requireDate date w.now.date a.governing.terms = .ok () := by
  unfold approach requireAddress requireOffered
  simp only [bind_eq_ok, Admission.requirePositive_eq_ok]
  constructor
  · rintro ⟨c, hc, i, hi, s, hs, seller, hseller, _, haddress, offer, hoffer, _, hoffered, g, hg, _,
      hdate, h⟩
    cases h
    refine ⟨hc, hi, hs, hseller, ?_, hoffer, ?_, hg, hdate⟩
    · exact Decidable.byContradiction fun hn => by rw [if_neg hn] at haddress; cases haddress
    · exact Decidable.byContradiction fun hn => by rw [if_neg hn] at hoffered; cases hoffered
  · rintro ⟨hc, hi, hs, hseller, haddress, hoffer, hoffered, hg, hdate⟩
    exact ⟨_, hc, _, hi, _, hs, _, hseller, (), if_pos haddress, _, hoffer, (), if_pos hoffered, _,
      hg, (), hdate, rfl⟩

theorem not_past_of_approach {w : World} {company address service : Option Int} {date : Date}
    {a : Approach} (h : approach w company address service date = .ok a) : ¬ date < w.now.date := by
  obtain ⟨-, -, -, -, -, -, -, -, hdate⟩ := approach_eq_ok.mp h
  intro hpast
  unfold requireDate at hdate
  rw [if_pos hpast] at hdate
  cases hdate

theorem availability_eq (w : World) (company address service : Option Int) (date : Date) :
    (availability w.store w.now company address service date).value w.collaborators = (do
      let a ← approach w company address service date
      let slots ← Availability.slots w.store w.now a.company a.address date
        (a.seller.scheduleOn date) a.governing.terms
      return ⟨a.company, a.address, a.service, date, a.governing, slots⟩) := by
  rw [availability_value]
  unfold approach Availability.day
  simp only [bind_assoc, pure_bind]

namespace Admission

/-- The rest of an admission: the day, the notice, the places and the row. -/
def Order.settle (o : Order) (store : Store) (now : Instant) (c : Company) (t : Capacity.Terms)
    (s : Service) (v : Vehicle) : Except Failure (Booking × Store) := do
  if ¬ (c.scheduleOn o.date).IsWorkingDay then refuse (.closed o.date)
  requireNotice o.date o.start now t
  let bookings ← store.list (.day o.company o.address o.date)
  let taken ← countTaken ⟨o.start, t.slotMinutes⟩ bookings
  if t.maxConcurrent ≤ taken then
    refuse (.noPlaceLeft taken t.maxConcurrent o.startTime)
  else store.addBooking (o.booking t s v)

theorem Order.admit_eq {o : Order} {store : Store} {now : Instant} {c : Company} {s : Service}
    {v : Vehicle} (hl : store.writeLocked = false) : o.admit store now c s v = (do
      let g ← store.governing o.scope
      requireDate o.date now.date g.terms
      o.settle store now c g.terms s v) := by
  have hbegin : store.begin .admissionFailed = .ok () := Store.begin_eq_ok.mpr hl
  unfold Order.admit settle
  rw [hbegin]
  rfl

/-- The request with another start time. -/
def Request.starting (r : Request) (t : String) : Request := { r with startTime := some t }

variable {r : Request} {user : Int} {date : Date} {t : String} {m : Int}

theorem Request.starting_order (hu : r.user = some user) (hpos : 0 < user)
    (hd : r.date = some date) (ht : TimeOfDay.parse t = .ok m) :
    (r.starting t).order = (do
      let company ← requirePositive "company_id" r.company
      let address ← requirePositive "address_id" r.address
      let service ← requirePositive "service_id" r.service
      return ⟨user, company, address, service, date, t, m, r.notes⟩) := by
  have huser : requirePositive "user_id" (r.starting t).user = .ok user :=
    requirePositive_eq_ok.mpr ⟨hu, hpos⟩
  have hne : t ≠ "" := by
    rintro rfl
    cases ht
  unfold order
  rw [huser]
  simp only [ok_bind, starting, hd, ht, if_neg hne]

theorem allocate_eq {w : World} {v : Vehicle} (hl : w.store.writeLocked = false)
    (hu : r.user = some user) (hpos : 0 < user) (hd : r.date = some date)
    (hv : (fetchVehicle user).value w.collaborators = .ok v)
    (ht : TimeOfDay.parse t = .ok m) :
    (allocate w.store w.now (r.starting t)).value w.collaborators = (do
      let a ← approach w r.company r.address r.service date
      Order.settle ⟨user, a.company, a.address, a.service, date, t, m, r.notes⟩ w.store w.now
        a.seller a.governing.terms a.offer v) := by
  rw [allocate_value, Request.starting_order hu hpos hd ht]
  unfold approach
  simp only [bind_assoc, pure_bind]
  refine bind_congr fun company => bind_congr fun address => bind_congr fun service => ?_
  rw [Order.lookUp_value]
  simp only [bind_assoc, pure_bind, hv, ok_bind, Order.admit_eq hl]
  rfl

end Admission

/-! ## The slots of a day -/

theorem readTime_bounds {t : Text} {m : Int} (h : Schedule.readTime t = .ok m) :
    0 ≤ m ∧ m < 1440 := by
  obtain ⟨s, -, hs⟩ := TimeOfDay.ofText_eq_ok.mp (mapError_eq_ok.mp h)
  exact TimeOfDay.parse_bounds hs

theorem isWorkingDay_of_hours {day : DaySchedule} {hours : Text × Text}
    (h : day.hours? = some hours) : day.IsWorkingDay := by
  unfold DaySchedule.IsWorkingDay
  rw [h]
  rfl

/-- A start of the grid is a minute of the day, so its written form is read as that minute. -/
theorem parse_text_grid {opens closes : Text} {first last length : Int} {k : Nat}
    (hfirst : Schedule.readTime opens = .ok first) (hlast : Schedule.readTime closes = .ok last)
    (hlen : 0 < length) (hk : first + k * length + length ≤ last) :
    TimeOfDay.parse (TimeOfDay.text (first + k * length)) = .ok (first + k * length) := by
  have hfirst := readTime_bounds hfirst
  have hlast := readTime_bounds hlast
  have hnonneg : 0 ≤ (k : Int) * length :=
    Int.mul_nonneg (Int.natCast_nonneg k) (Int.le_of_lt hlen)
  exact TimeOfDay.parse_text (by omega) (by omega)

section Slots

variable {store : Store} {now : Instant} {date : Date} {day : DaySchedule} {opens closes : Text}
  {length notice : Int} {starts : List Int}

/-- The starts that are offered are those of the grid, on the current day those that leave the
notice. -/
theorem daySlots_eq_ok (hday : day.hours? = some (opens, closes)) (hd : ¬ date < now.date)
    (h : Schedule.daySlots day length date now notice = .ok starts) :
    0 < length ∧ ∃ first last, Schedule.readTime opens = .ok first ∧
      Schedule.readTime closes = .ok last ∧ ∀ m, m ∈ starts ↔
        (∃ k : Nat, m = first + k * length ∧ m + length ≤ last) ∧
          (date = now.date → Schedule.earliestStart now notice ≤ m) := by
  unfold Schedule.daySlots at h
  by_cases hlen : length ≤ 0
  · rw [if_pos hlen] at h
    cases h
  · rw [if_neg hlen, if_neg hd] at h
    simp only [hday, bind_eq_ok] at h
    have hlen : 0 < length := by omega
    obtain ⟨first, hfirst, last, hlast, h⟩ := h
    refine ⟨hlen, first, last, hfirst, hlast, fun m => ?_⟩
    rw [← Schedule.mem_gridStarts hlen]
    split at h
    · rename_i htoday
      cases h
      simp [htoday]
    · rename_i hother
      cases h
      simp [hother]

/-- Starts are offered on days with hours that are not past. -/
theorem hours_of_mem_daySlots (h : Schedule.daySlots day length date now notice = .ok starts)
    {m : Int} (hm : m ∈ starts) :
    ¬ date < now.date ∧ ∃ opens closes, day.hours? = some (opens, closes) := by
  unfold Schedule.daySlots at h
  split at h
  · cases h
  · split at h
    · cases h
      exact absurd hm List.not_mem_nil
    · rename_i hd
      split at h
      · cases h
        exact absurd hm List.not_mem_nil
      · rename_i opens closes hday
        exact ⟨hd, opens, closes, hday⟩

/-- What is written of a start that is offered is read back as that start. -/
theorem readTime_text_of_mem_daySlots
    (h : Schedule.daySlots day length date now notice = .ok starts) {m : Int} (hm : m ∈ starts) :
    Schedule.readTime (TimeOfDay.text m) = .ok m := by
  obtain ⟨hd, opens, closes, hday⟩ := hours_of_mem_daySlots h hm
  obtain ⟨hlen, first, last, hfirst, hlast, hmem⟩ := daySlots_eq_ok hday hd h
  obtain ⟨⟨k, rfl, hk⟩, -⟩ := (hmem m).mp hm
  exact mapError_eq_ok.mpr (TimeOfDay.ofText_eq_ok.mpr
    ⟨_, rfl, parse_text_grid hfirst hlast hlen hk⟩)

variable {company address : Int} {terms : Capacity.Terms} {slots : List Slot}

/-- The slots of a day, reckoned in minutes throughout. -/
theorem Availability.slots_eq :
    Availability.slots store now company address date day terms =
      if day.IsWorkingDay then do
        let starts ← Schedule.daySlots day terms.slotMinutes date now terms.noticeMinutes
        if starts.isEmpty then return []
        else
          let bookings ← store.list (.day company address date)
          starts.mapM (slotAt terms bookings)
      else .ok [] := by
  unfold Availability.slots Schedule.startTimes
  refine ite_congr rfl (fun _ => ?_) fun _ => rfl
  cases h : Schedule.daySlots day terms.slotMinutes date now terms.noticeMinutes with
  | error f => rfl
  | ok starts =>
    have hread : ∀ bookings, (starts.map TimeOfDay.text).mapM (slotFrom terms bookings) =
        starts.mapM (slotAt terms bookings) := by
      intro bookings
      rw [List.mapM_map]
      refine mapM_congr_of_mem fun m hm => ?_
      unfold slotFrom
      rw [Function.comp_apply, readTime_text_of_mem_daySlots h hm, ok_bind]
    simp only [Except.map, ok_bind, List.isEmpty_map, hread]

theorem slotAt_eq_ok {bookings : List Booking} {m : Int} {s : Slot} :
    Availability.slotAt terms bookings m = .ok s ↔ ∃ taken,
      countTaken ⟨m, terms.slotMinutes⟩ bookings = .ok taken ∧
      s = ⟨m, terms.slotMinutes, max 0 (terms.maxConcurrent - taken), terms.maxConcurrent⟩ := by
  unfold Availability.slotAt
  rw [bind_eq_ok]
  refine exists_congr fun taken => and_congr_right fun _ => ?_
  exact ⟨fun h => by cases h; rfl, fun h => by rw [h]; rfl⟩

/-- The slots of a working day are those of the starts that are offered, each with its places. -/
theorem slots_eq_ok (hday : day.IsWorkingDay)
    (h : Availability.slots store now company address date day terms = .ok slots) :
    Schedule.daySlots day terms.slotMinutes date now terms.noticeMinutes =
        .ok (slots.map (·.start)) ∧
      ∀ s ∈ slots, ∃ bookings taken, store.list (.day company address date) = .ok bookings ∧
        countTaken ⟨s.start, terms.slotMinutes⟩ bookings = .ok taken ∧
        s = ⟨s.start, terms.slotMinutes, max 0 (terms.maxConcurrent - taken),
          terms.maxConcurrent⟩ := by
  rw [Availability.slots_eq, if_pos hday] at h
  obtain ⟨starts, hstarts, h⟩ := bind_eq_ok.mp h
  rw [hstarts]
  split at h
  · rename_i hempty
    cases h
    rw [List.isEmpty_iff.mp hempty]
    exact ⟨rfl, fun s hs => absurd hs List.not_mem_nil⟩
  · obtain ⟨bookings, hlist, h⟩ := bind_eq_ok.mp h
    refine ⟨congrArg Except.ok (map_of_mapM_eq_ok h fun m s hs => ?_).symm, fun s hs => ?_⟩
    · obtain ⟨taken, -, rfl⟩ := slotAt_eq_ok.mp hs
      rfl
    · obtain ⟨m, -, hat⟩ := (mem_of_mapM_eq_ok h).2 s hs
      obtain ⟨taken, hcount, rfl⟩ := slotAt_eq_ok.mp hat
      exact ⟨bookings, taken, hlist, hcount, rfl⟩

/-- The slots of a working day start at the times that are offered. -/
theorem startTimes_eq_ok (hday : day.IsWorkingDay)
    (h : Availability.slots store now company address date day terms = .ok slots) :
    Schedule.startTimes day terms.slotMinutes date now terms.noticeMinutes =
      .ok (slots.map (·.startTime)) := by
  unfold Schedule.startTimes
  rw [(slots_eq_ok hday h).1]
  exact congrArg Except.ok List.map_map

theorem slots_of_closed (hday : ¬ day.IsWorkingDay) :
    Availability.slots store now company address date day terms = .ok [] := by
  unfold Availability.slots
  exact if_neg hday

/-- Only a working day has slots. -/
theorem isWorkingDay_of_mem_slots
    (h : Availability.slots store now company address date day terms = .ok slots) {s : Slot}
    (hs : s ∈ slots) : day.IsWorkingDay := by
  refine Decidable.byContradiction fun hclosed => ?_
  rw [slots_of_closed hclosed] at h
  cases h
  exact absurd hs List.not_mem_nil

theorem neverRefused_daySlots :
    NeverRefused (Schedule.daySlots day length date now notice) := by
  have hread (t : Text) : NeverRefused (Schedule.readTime t) := NeverRefused.mapError nofun
  unfold Schedule.daySlots
  split
  · exact nofun
  · split
    · exact nofun
    · split
      · exact nofun
      · refine (hread _).bind fun first => (hread _).bind fun last => ?_
        split <;> exact nofun

/-- Once the approach is made, an availability is no longer refused. -/
theorem neverRefused_slots {rows : List Booking} (hr : store.bookings = some rows) :
    NeverRefused (Availability.slots store now company address date day terms) := by
  have hlist : NeverRefused (store.list (.day company address date)) := by
    unfold Store.list Store.requireStorable
    rw [Store.rows_eq_ok.mpr hr, ok_bind]
    split <;> exact nofun
  have hslot (bookings : List Booking) (m : Int) :
      NeverRefused (Availability.slotAt terms bookings m) := by
    have hcount : NeverRefused (countTaken ⟨m, terms.slotMinutes⟩ bookings) :=
      NeverRefused.mapError nofun
    exact hcount.bind fun taken => .ok _
  rw [Availability.slots_eq]
  split
  · refine neverRefused_daySlots.bind fun starts => ?_
    split
    · exact nofun
    · exact hlist.bind fun bookings => NeverRefused.mapM (hslot bookings) starts
  · exact nofun

end Slots

/-! ## The rest of an admission -/

section Settle

variable {o : Order} {store : Store} {now : Instant} {c : Company} {terms : Capacity.Terms}
  {s : Service} {v : Vehicle}

theorem settle_closed (hc : ¬ (c.scheduleOn o.date).IsWorkingDay) :
    o.settle store now c terms s v = .error (.refused (.closed o.date)) := by
  unfold Order.settle
  rw [if_pos hc]
  rfl

theorem settle_tooLate (hc : (c.scheduleOn o.date).IsWorkingDay) (hd : o.date = now.date)
    (hm : o.start < Schedule.earliestStart now terms.noticeMinutes) :
    o.settle store now c terms s v = .error (.refused (.tooLate terms.noticeMinutes)) := by
  unfold Order.settle requireNotice
  rw [if_neg (Decidable.not_not.mpr hc), if_pos ⟨hd, hm⟩]
  rfl

/-- A start that leaves the notice on a working day is settled by the count alone. -/
theorem settle_count (hc : (c.scheduleOn o.date).IsWorkingDay)
    (hm : o.date = now.date → Schedule.earliestStart now terms.noticeMinutes ≤ o.start)
    {bookings : List Booking} (hl : store.list (.day o.company o.address o.date) = .ok bookings)
    {taken : Nat} (ht : countTaken ⟨o.start, terms.slotMinutes⟩ bookings = .ok taken) :
    o.settle store now c terms s v =
      if terms.maxConcurrent ≤ taken then
        .error (.refused (.noPlaceLeft taken terms.maxConcurrent o.startTime))
      else store.addBooking (o.booking terms s v) := by
  have hnotice : ¬ (o.date = now.date ∧
      o.start < Schedule.earliestStart now terms.noticeMinutes) := fun h =>
    Int.not_lt.mpr (hm h.1) h.2
  unfold Order.settle requireNotice
  rw [if_neg (Decidable.not_not.mpr hc), if_neg hnotice]
  simp only [ok_bind, hl, ht]
  rfl

end Settle

/-! ## Agreement -/

theorem perform_availability_fst (w : World) (company address service : Option Int) (date : Date) :
    (w.perform (.availability company address service date)).1 = (do
      let a ← approach w company address service date
      let slots ← Availability.slots w.store w.now a.company a.address date
        (a.seller.scheduleOn date) a.governing.terms
      return .day ⟨a.company, a.address, a.service, date, a.governing, slots⟩) := by
  rw [World.perform_fst]
  unfold Operation.run
  simp only [Directory.Lookup.value_bind, Directory.Lookup.value_pure, availability_eq]
  cases approach w company address service date with
  | error e => rfl
  | ok a =>
    simp only [ok_bind]
    cases Availability.slots w.store w.now a.company a.address date (a.seller.scheduleOn date)
      a.governing.terms <;> rfl

/-- The user of a request can book: the ids of the user and of the selected vehicle fit, a price is
a number, what would be kept can be encoded, and the table of bookings can be written. -/
structure CanBook (w : World) (r : Request) : Prop where
  bookings : ∃ rows, w.store.bookings = some rows
  unlocked : w.store.writeLocked = false
  user : ∃ u, r.user = some u ∧ 0 < u ∧ Store.Storable u
  vehicle : ∃ v, r.FindsVehicle w v ∧ Store.Storable v.id
  price : ∀ s, r.FindsService w s → ∀ p ∈ s.price, ¬ p.IsNaN
  texts : ∀ s v, r.FindsService w s → r.FindsVehicle w v →
    ∀ t ∈ r.keptTexts s v, t.unencodable? = none

section Agreement

variable {w : World} {r : Request} {date : Date} (hd : r.date = some date) (h : CanBook w r)

include hd h

/-- With a start time that can be read, an admission is an approach and the rest. -/
theorem perform_starting : ∃ user v, r.user = some user ∧ r.FindsVehicle w v ∧
    ∀ t m, TimeOfDay.parse t = .ok m → (w.perform (.allocate (r.starting t))).1 = (do
      let a ← approach w r.company r.address r.service date
      let p ← Order.settle ⟨user, a.company, a.address, a.service, date, t, m, r.notes⟩ w.store
        w.now a.seller a.governing.terms a.offer v
      return .booking p.1) := by
  obtain ⟨u, hu, hpos, -⟩ := h.user
  obtain ⟨v, hv, -⟩ := h.vehicle
  refine ⟨u, v, hu, hv, fun t m ht => ?_⟩
  obtain ⟨u', hu', hfv⟩ := hv
  cases hu.symm.trans hu'
  rw [Admission.perform_allocate_fst,
    Admission.allocate_eq h.unlocked hu hpos hd hfv ht]
  cases approach w r.company r.address r.service date with
  | error e => rfl
  | ok a =>
    simp only [ok_bind]
    cases Order.settle ⟨u, a.company, a.address, a.service, date, t, m, r.notes⟩ w.store w.now
      a.seller a.governing.terms a.offer v <;> rfl

/-- A refusal of an availability is that of every admission. -/
theorem refused_agrees {f : Refusal}
    (hf : (w.perform (.availability r.company r.address r.service date)).1 = .error (.refused f))
    {t : String} {m : Int} (ht : TimeOfDay.parse t = .ok m) :
    (w.perform (.allocate (r.starting t))).1 = .error (.refused f) := by
  obtain ⟨user, v, -, -, hperform⟩ := perform_starting hd h
  obtain ⟨rows, hrows⟩ := h.bookings
  rw [perform_availability_fst] at hf
  rw [hperform t m ht]
  cases ha : approach w r.company r.address r.service date with
  | error e =>
    rw [ha] at hf
    cases hf
    rfl
  | ok a =>
    rw [ha] at hf
    exact absurd hf ((neverRefused_slots hrows).bind (fun slots => .ok _) f)

variable {a : Approach} (ha : approach w r.company r.address r.service date = .ok a)

include ha

theorem closed_agrees (hc : ¬ (a.seller.scheduleOn date).IsWorkingDay) {t : String} {m : Int}
    (ht : TimeOfDay.parse t = .ok m) :
    (w.perform (.allocate (r.starting t))).1 = .error (.refused (.closed date)) := by
  obtain ⟨user, v, -, -, hperform⟩ := perform_starting hd h
  rw [hperform t m ht, ha, ok_bind, settle_closed hc]
  rfl

omit hd in
/-- The booking of a user who can book can be kept. -/
theorem keeps_order (hfits : Store.Storable a.governing.terms.slotMinutes) {user : Int}
    {v : Vehicle} (hu : r.user = some user) (hv : r.FindsVehicle w v) (t : String) (m : Int) :
    Store.Keeps (Order.booking ⟨user, a.company, a.address, a.service, date, t, m, r.notes⟩
      a.governing.terms a.offer v) := by
  obtain ⟨⟨hc, -⟩, -, ⟨hsid, -⟩, -, -, hoffer, -, hg, -⟩ := approach_eq_ok.mp ha
  obtain ⟨rules, -, hids, -⟩ := Store.governing_eq_ok.mp hg
  obtain ⟨u, hu', -, huser⟩ := h.user
  cases hu.symm.trans hu'
  obtain ⟨v', hv', hvehicle⟩ := h.vehicle
  cases hv.unique hv'
  have hs : r.FindsService w a.offer := ⟨a.company, hc, a.service, hsid, hoffer⟩
  refine ⟨fun n hn => ?_, h.texts a.offer v hs hv, Order.booking_price _ (h.price a.offer hs)⟩
  simp only [Store.integersOf, List.mem_cons, List.not_mem_nil, or_false] at hn
  rcases hn with rfl | rfl | rfl | rfl | rfl | rfl
  · exact huser
  · exact hids a.company (by simp [Capacity.Scope.ids])
  · exact hids a.address (by simp [Capacity.Scope.ids])
  · exact hids a.service (by simp [Capacity.Scope.ids])
  · exact hvehicle
  · exact hfits

variable {opens closes : Text} {slots : List Slot}
  (hday : (a.seller.scheduleOn date).hours? = some (opens, closes))
  (hslots : Availability.slots w.store w.now a.company a.address date (a.seller.scheduleOn date)
    a.governing.terms = .ok slots)

include hday hslots

/-- A start of the grid that is left out is too late. -/
theorem missing_agrees {first last : Int} (hfirst : Schedule.readTime opens = .ok first)
    (hlast : Schedule.readTime closes = .ok last) {k : Nat}
    (hk : first + (k + 1) * a.governing.terms.slotMinutes ≤ last)
    (hmiss : ∀ s ∈ slots, s.start ≠ first + k * a.governing.terms.slotMinutes) :
    (w.perform (.allocate (r.starting
      (TimeOfDay.text (first + k * a.governing.terms.slotMinutes))))).1 =
      .error (.refused (.tooLate a.governing.terms.noticeMinutes)) := by
  obtain ⟨user, v, -, -, hperform⟩ := perform_starting hd h
  have hnotPast := not_past_of_approach ha
  obtain ⟨hstarts, -⟩ := slots_eq_ok (isWorkingDay_of_hours hday) hslots
  obtain ⟨hlen, first', last', hfirst', hlast', hmem⟩ := daySlots_eq_ok hday hnotPast hstarts
  cases hfirst.symm.trans hfirst'
  cases hlast.symm.trans hlast'
  have hk : first + k * a.governing.terms.slotMinutes + a.governing.terms.slotMinutes ≤ last := by
    rw [Int.add_mul, Int.one_mul] at hk
    omega
  -- The start fits the grid, so it is left out only because of the notice.
  have hnotice : ¬ (date = w.now.date → Schedule.earliestStart w.now
      a.governing.terms.noticeMinutes ≤ first + k * a.governing.terms.slotMinutes) := by
    intro hnotice
    obtain ⟨s, hs, hstart⟩ := List.mem_map.mp ((hmem _).mpr ⟨⟨k, rfl, hk⟩, hnotice⟩)
    exact hmiss s hs hstart
  rw [Classical.not_imp, Int.not_le] at hnotice
  rw [hperform _ _ (parse_text_grid hfirst hlast hlen hk), ha, ok_bind,
    settle_tooLate (isWorkingDay_of_hours hday) hnotice.1 hnotice.2]
  rfl

/-- A slot with places left can be booked, and a full slot cannot. -/
theorem slot_agrees {s : Slot} (hs : s ∈ slots) :
    (0 < s.free → ∃ b,
      (w.perform (.allocate (r.starting (TimeOfDay.text s.start)))).1 = .ok (.booking b)) ∧
    (s.free = 0 → ∃ taken,
      (w.perform (.allocate (r.starting (TimeOfDay.text s.start)))).1 =
        .error (.refused (.noPlaceLeft taken s.places (TimeOfDay.text s.start)))) := by
  obtain ⟨user, v, hu, hv, hperform⟩ := perform_starting hd h
  have hnotPast := not_past_of_approach ha
  obtain ⟨hstarts, hof⟩ := slots_eq_ok (isWorkingDay_of_hours hday) hslots
  obtain ⟨bookings, taken, hlist, hcount, hplaced⟩ := hof s hs
  have hfree : s.free = max 0 (a.governing.terms.maxConcurrent - taken) :=
    congrArg Slot.free hplaced
  have hplaces : s.places = a.governing.terms.maxConcurrent := congrArg Slot.places hplaced
  obtain ⟨hlen, first, last, hfirst, hlast, hmem⟩ := daySlots_eq_ok hday hnotPast hstarts
  obtain ⟨⟨k, hk, hend⟩, hnotice⟩ := (hmem _).mp (List.mem_map_of_mem hs)
  have hparse : TimeOfDay.parse (TimeOfDay.text s.start) = .ok s.start := by
    rw [hk] at hend ⊢
    exact parse_text_grid hfirst hlast hlen hend
  rw [hperform _ _ hparse, ha, ok_bind,
    settle_count (isWorkingDay_of_hours hday) hnotice hlist hcount]
  constructor
  · intro hpos
    have hplace : ¬ a.governing.terms.maxConcurrent ≤ taken := by omega
    -- The slot ends within the day, so its length fits a column whatever the stored terms are.
    have hfits : Store.Storable a.governing.terms.slotMinutes := by
      have := TimeOfDay.parse_bounds hparse
      have := readTime_bounds hlast
      exact ⟨by omega, by omega⟩
    obtain ⟨rows, hrows⟩ := h.bookings
    have hkeeps := keeps_order h ha hfits hu hv (TimeOfDay.text s.start) s.start
    rw [if_neg hplace, Store.addBooking_eq_ok.mpr ⟨rows, hrows, hkeeps, rfl, rfl⟩]
    exact ⟨_, rfl⟩
  · intro hfull
    have hplace : a.governing.terms.maxConcurrent ≤ taken := by omega
    rw [if_pos hplace, hplaces]
    exact ⟨taken, rfl⟩

end Agreement

/-! ## A day with its slots -/

section Sample

open Admission (lastDate_eq_ok sampleBooking sampleCompany sampleRequest sampleService sampleWorld
  sample_findsService sample_findsVehicle sample_fits)

variable (brand : Text) (writeLocked : Bool)

/-- The date of the sample booking. -/
def sampleDate : Date := sampleBooking.date

theorem sample_approach :
    approach (sampleWorld brand writeLocked) (some 1) (some 1) (some 1) sampleDate =
      .ok ⟨1, 1, 1, sampleCompany, sampleService,
        .ofRule ⟨1, ⟨1, none, none⟩, ⟨30, 2, 14, 60⟩⟩⟩ := by
  have hlast : (sampleWorld brand writeLocked).now.date.addDays? 14 =
      some ⟨739690, by decide⟩ := Date.addDays?_eq_some.mpr rfl
  have hdate : requireDate sampleDate (sampleWorld brand writeLocked).now.date ⟨30, 2, 14, 60⟩ =
      .ok () := by
    unfold requireDate
    rw [lastDate_eq_ok hlast]
    rfl
  exact approach_eq_ok.mpr ⟨⟨rfl, by decide⟩, ⟨rfl, by decide⟩, ⟨rfl, by decide⟩, rfl, by decide,
    rfl, by decide, rfl, hdate⟩

theorem sample_slots :
    Availability.slots (sampleWorld brand writeLocked).store (sampleWorld brand writeLocked).now 1 1
      sampleDate (sampleCompany.scheduleOn sampleDate) ⟨30, 2, 14, 60⟩ =
      .ok [⟨540, 30, 2, 2⟩, ⟨570, 30, 2, 2⟩, ⟨600, 30, 1, 2⟩, ⟨630, 30, 2, 2⟩] := by
  have hstarts : Schedule.daySlots (sampleCompany.scheduleOn sampleDate) 30 sampleDate
      (sampleWorld brand writeLocked).now 60 = .ok [540, 570, 600, 630] := by
    have hgrid : Schedule.gridStarts 540 660 30 = [540, 570, 600, 630] :=
      Schedule.gridStarts_eq (by decide)
    unfold Schedule.daySlots
    rw [if_neg (by decide), if_neg (of_decide_eq_false rfl)]
    exact congrArg Except.ok hgrid
  have hfilter : ([sampleBooking].filter fun b => decide ((Filter.day 1 1 sampleDate).Admits b)) =
      [sampleBooking] := by
    refine List.filter_eq_self.mpr fun b hb => decide_eq_true ?_
    rw [List.mem_singleton.mp hb]
    exact Filter.day_admits.mpr ⟨by decide, by decide⟩
  have hlist : (sampleWorld brand writeLocked).store.list (.day 1 1 sampleDate) =
      .ok [sampleBooking] := by
    refine Store.list_eq_ok.mpr ⟨_, rfl, by decide, ?_⟩
    unfold Filter.list Filter.found
    rw [hfilter, List.mergeSort_singleton, if_neg (by decide), List.mergeSort_singleton]
  rw [Availability.slots_eq, if_pos (by decide), hstarts, ok_bind, hlist]
  rfl

theorem sample_availability : ∃ d, ((sampleWorld brand writeLocked).perform
    (.availability (some 1) (some 1) (some 1) sampleDate)).1 = .ok (.day d) ∧
      ⟨600, 30, 1, 2⟩ ∈ d.slots := by
  rw [perform_availability_fst, sample_approach]
  simp only [ok_bind, Capacity.Governing.ofRule, sample_slots]
  exact ⟨_, rfl, by decide⟩

theorem sample_canBook (h : brand.unencodable? = none) :
    CanBook (sampleWorld brand false) sampleRequest where
  bookings := ⟨_, rfl⟩
  unlocked := rfl
  user := ⟨7, rfl, by decide, by decide⟩
  vehicle := ⟨_, sample_findsVehicle brand false, (by decide : Store.Storable 3)⟩
  price := (sample_fits brand false).price
  texts := by
    intro s v hs hv t ht
    rw [hs.unique (sample_findsService brand false),
      hv.unique (sample_findsVehicle brand false)] at ht
    rcases List.mem_cons.mp ht with rfl | ht
    · exact rfl
    · rw [List.mem_singleton.mp ht]
      exact h

end Sample

/-- **Agreement.** An availability and an admission, in one world and for a user who can book: a
slot with places left can be booked, and for a full one no place is left; a start of the grid that
is left out is too late; on a day that is not a working day the company is closed; and where the
availability is refused, every admission is refused in the same way. -/
theorem availability_agrees (w : World) (r : Request) (date : Date) (hd : r.date = some date)
    (h : CanBook w r) :
    (∀ d, (w.perform (.availability r.company r.address r.service date)).1 = .ok (.day d) →
      (∀ s ∈ d.slots,
        (0 < s.free → ∃ b,
          (w.perform (.allocate (r.starting (TimeOfDay.text s.start)))).1 = .ok (.booking b)) ∧
        (s.free = 0 → ∃ taken,
          (w.perform (.allocate (r.starting (TimeOfDay.text s.start)))).1 =
            .error (.refused (.noPlaceLeft taken s.places (TimeOfDay.text s.start))))) ∧
      ∀ c, r.FindsCompany w c →
        (∀ opens closes first last, (c.scheduleOn date).hours? = some (opens, closes) →
          Schedule.readTime opens = .ok first → Schedule.readTime closes = .ok last →
          ∀ k : Nat, first + (k + 1) * d.governing.terms.slotMinutes ≤ last →
            (∀ s ∈ d.slots, s.start ≠ first + k * d.governing.terms.slotMinutes) →
            (w.perform (.allocate (r.starting
              (TimeOfDay.text (first + k * d.governing.terms.slotMinutes))))).1 =
              .error (.refused (.tooLate d.governing.terms.noticeMinutes))) ∧
        (¬ (c.scheduleOn date).IsWorkingDay → ∀ t m, TimeOfDay.parse t = .ok m →
          (w.perform (.allocate (r.starting t))).1 = .error (.refused (.closed date)))) ∧
    ∀ f, (w.perform (.availability r.company r.address r.service date)).1 = .error (.refused f) →
      ∀ t m, TimeOfDay.parse t = .ok m →
        (w.perform (.allocate (r.starting t))).1 = .error (.refused f) := by
  refine ⟨fun d hout => ?_, fun f hf t m ht => refused_agrees hd h hf ht⟩
  rw [perform_availability_fst] at hout
  simp only [bind_eq_ok] at hout
  obtain ⟨a, ha, slots, hslots, hout⟩ := hout
  cases hout
  obtain ⟨⟨hc, -⟩, -, -, hseller, -⟩ := approach_eq_ok.mp ha
  refine ⟨fun s hs => ?_, fun c hfound => ?_⟩
  · cases hday : (a.seller.scheduleOn date).hours? with
    | none =>
      have hclosed : ¬ (a.seller.scheduleOn date).IsWorkingDay := by
        unfold DaySchedule.IsWorkingDay
        rw [hday]
        exact nofun
      rw [slots_of_closed hclosed] at hslots
      cases hslots
      exact absurd hs List.not_mem_nil
    | some hours => exact slot_agrees hd h ha hday hslots hs
  · cases hfound.unique ⟨a.company, hc, hseller⟩
    exact ⟨fun opens closes first last hday hfirst hlast k hk hmiss =>
      missing_agrees hd h ha hday hslots hfirst hlast hk hmiss,
      fun hclosed t m ht => closed_agrees hd h ha hclosed ht⟩

open Admission (sampleRequest sampleWorld) in
theorem availability_agrees_sample : ∃ b,
    ((sampleWorld "" false).perform (.allocate (sampleRequest.starting (TimeOfDay.text 600)))).1 =
      .ok (.booking b) := by
  obtain ⟨d, hd, hs⟩ := sample_availability "" false
  have hagrees := availability_agrees (sampleWorld "" false) sampleRequest sampleDate rfl
    (sample_canBook "" rfl)
  exact ((hagrees.1 d hd).1 _ hs).1 (by decide)

open Admission (Fits sampleRequest sampleWorld sample_fits sample_locked sample_unencodable) in
/-- The lock and the texts matter: an availability offers a place, and while another session holds
the write lock, or with a vehicle that cannot be stored, nobody gets it. -/
theorem availability_promises_more :
    (Fits (sampleWorld "" true) sampleRequest ∧ ∃ d s,
      ((sampleWorld "" true).perform (.availability (some 1) (some 1) (some 1) sampleDate)).1 =
        .ok (.day d) ∧ s ∈ d.slots ∧ 0 < s.free ∧
      ¬ ∃ b, ((sampleWorld "" true).perform
        (.allocate (sampleRequest.starting (TimeOfDay.text s.start)))).1 = .ok (.booking b)) ∧
    (Fits (sampleWorld ⟨[.lone 0]⟩ false) sampleRequest ∧ ∃ d s,
      ((sampleWorld ⟨[.lone 0]⟩ false).perform
        (.availability (some 1) (some 1) (some 1) sampleDate)).1 = .ok (.day d) ∧
      s ∈ d.slots ∧ 0 < s.free ∧
      ¬ ∃ b, ((sampleWorld ⟨[.lone 0]⟩ false).perform
        (.allocate (sampleRequest.starting (TimeOfDay.text s.start)))).1 = .ok (.booking b)) := by
  have hten : sampleRequest.starting (TimeOfDay.text 600) = sampleRequest := by decide
  obtain ⟨d, hd, hs⟩ := sample_availability "" true
  obtain ⟨d', hd', hs'⟩ := sample_availability ⟨[.lone 0]⟩ false
  refine ⟨⟨sample_fits _ _, d, _, hd, hs, by decide, ?_⟩,
    sample_fits _ _, d', _, hd', hs', by decide, ?_⟩
  · rw [hten]
    exact sample_locked
  · rw [hten]
    exact sample_unencodable

end SlotBooking
