import SlotBooking.Booking.Admission

/-!
# Availability

Which start times a day has for a service at an address, and how many places are left at each. The
answer reads the same terms, checks and counts as an admission, but takes no lock: an admission
counts again.

* `Slot`: one start time with its places.
* `availability`: the slots of a day; a day that is not a working day has none.
-/

namespace SlotBooking

open Directory (Lookup)

/-- A start time with the places left and the places there are. -/
structure Slot where
  start : Int
  duration : Int
  free : Int
  places : Int
deriving DecidableEq

namespace Slot

/-- The start as it is written. -/
def startTime (s : Slot) : String := TimeOfDay.text s.start

/-- The minutes of the slot. -/
def window (s : Slot) : Window := ⟨s.start, s.duration⟩

/-- No place is left. -/
def IsFull (s : Slot) : Prop := s.free = 0

/-- Every place is left. -/
def IsFree (s : Slot) : Prop := s.free = s.places

/-- Some places are left and some are taken. -/
def IsPartlyFree (s : Slot) : Prop := 0 < s.free ∧ s.free < s.places

instance (s : Slot) : Decidable s.IsFull := inferInstanceAs (Decidable (_ = _))
instance (s : Slot) : Decidable s.IsFree := inferInstanceAs (Decidable (_ = _))
instance (s : Slot) : Decidable s.IsPartlyFree := inferInstanceAs (Decidable (_ ∧ _))

/-- The share of places taken, rounded once to binary64; zero where there are no places. -/
def occupancyRate (s : Slot) : Except Failure Binary64 :=
  if s.places ≤ 0 then .ok .zero
  else
    let taken := s.places - s.free
    let rate := Binary64.ofQuotient (decide (taken < 0)) taken.natAbs s.places.toNat
    if rate.IsFinite then .ok rate else .error .shareRange

end Slot

/-- The slots of a day. -/
structure DayAvailability where
  company : Int
  address : Int
  service : Int
  date : Date
  governing : Capacity.Governing
  slots : List Slot

namespace Availability

/-- The slot at a start, among the bookings of its day. -/
def slotAt (terms : Capacity.Terms) (bookings : List Booking) (start : Int) :
    Except Failure Slot := do
  let taken ← Admission.countTaken ⟨start, terms.slotMinutes⟩ bookings
  return ⟨start, terms.slotMinutes, max 0 (terms.maxConcurrent - taken), terms.maxConcurrent⟩

/-- The slot at a written start, which is read back. -/
def slotFrom (terms : Capacity.Terms) (bookings : List Booking) (start : String) :
    Except Failure Slot := do
  slotAt terms bookings (← Schedule.readTime start)

/-- The slots of a day whose schedule is known. Where no start can be offered, bookings are not
read. -/
def slots (store : Store) (now : Instant) (company address : Int) (date : Date)
    (day : DaySchedule) (terms : Capacity.Terms) : Except Failure (List Slot) :=
  if day.IsWorkingDay then do
    let starts ← Schedule.startTimes day terms.slotMinutes date now terms.noticeMinutes
    if starts.isEmpty then return []
    else
      let bookings ← store.list (.day company address date)
      starts.mapM (slotFrom terms bookings)
  else .ok []

/-- The part of an answer that reads the store. -/
def day (store : Store) (now : Instant) (c : Directory.Company) (company address service : Int)
    (date : Date) : Except Failure DayAvailability := do
  let governing ← store.governing ⟨company, some address, some service⟩
  Admission.requireDate date now.date governing.terms
  let slots ← slots store now company address date (c.scheduleOn date) governing.terms
  return ⟨company, address, service, date, governing, slots⟩

end Availability

/-- The slots of a day, with the places left at each. -/
def availability (store : Store) (now : Instant) (company address service : Option Int)
    (date : Date) : Lookup Failure DayAvailability := do
  let company ← Admission.requirePositive "company_id" company
  let address ← Admission.requirePositive "address_id" address
  let service ← Admission.requirePositive "service_id" service
  let c ← Directory.fetchCompany company
  Directory.requireAddress c address
  let s ← Directory.fetchService company service
  Directory.requireOffered s address
  Availability.day store now c company address service date

end SlotBooking
