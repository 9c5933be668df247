import SlotBooking.Directory.Lookup
import SlotBooking.Schedule.Grid
import SlotBooking.Store

/-!
# Admitting a booking

A booking is admitted in two steps. First the request is checked for its shape and the
collaborators are asked about the company, the service and the user's vehicle. Then one transaction
reads the governing terms, checks the date, the day and the notice, counts the active bookings that
overlap the wanted window, and adds the booking if a place is left. Either the booking is stored as
confirmed or nothing is.

* `Request.order`: the shape of a request.
* `Order.admit`: the transaction.
* `allocate`: both steps.
-/

namespace SlotBooking.Admission

open Directory (Company Lookup Service Vehicle)

/-- A request for a booking. -/
structure Request where
  user : Option Int
  company : Option Int
  address : Option Int
  service : Option Int
  date : Option Date
  startTime : Option String
  notes : Option Text := none
deriving DecidableEq

/-- A request of good shape, with the start as minutes since midnight. -/
structure Order where
  user : Int
  company : Int
  address : Int
  service : Int
  date : Date
  startTime : String
  start : Int
  notes : Option Text
deriving DecidableEq

/-! ## Checks -/

/-- Requires a positive id. -/
def requirePositive (field : String) (n : Option Int) : Except Failure Int :=
  match n with
  | some n => if 0 < n then .ok n else refuse (.notPositive field)
  | none => refuse (.notPositive field)

/-- The order that a request makes; ids are checked first, then the date and the start time. -/
def Request.order (r : Request) : Except Failure Order := do
  let user ← requirePositive "user_id" r.user
  let company ← requirePositive "company_id" r.company
  let address ← requirePositive "address_id" r.address
  let service ← requirePositive "service_id" r.service
  match r.date, r.startTime with
  | none, _ => refuse .dateMissing
  | some _, none => refuse .startTimeMissing
  | some date, some startTime =>
    if startTime = "" then refuse .startTimeMissing
    else
      match TimeOfDay.parse startTime with
      | .ok start => return ⟨user, company, address, service, date, startTime, start, r.notes⟩
      | .error e => refuse (.startTimeUnreadable e)

/-- The greatest number of days that a span of days has. -/
def maxSpan : Int := 999999999

/-- The last date for which bookings are taken some days ahead. -/
def lastDate (today : Date) (days : Int) : Except Failure Date :=
  if 0x80000000 ≤ days then .error .spanRange
  else if maxSpan < days then .error (.spanLength days)
  else
    match today.addDays? days with
    | none => .error .calendarEnd
    | some last => .ok last

/-- Requires a date that is neither past nor, under an advance limit, too far ahead. -/
def requireDate (date today : Date) (t : Capacity.Terms) : Except Failure Unit :=
  if date < today then refuse (.datePast date)
  else if t.HasAdvanceLimit then do
    let last ← lastDate today t.advanceDays
    if last < date then refuse (.dateTooFar t.advanceDays) else .ok ()
  else .ok ()

/-- Requires that a start on the current day leaves the notice. -/
def requireNotice (date : Date) (start : Int) (now : Instant) (t : Capacity.Terms) :
    Except Failure Unit :=
  if date = now.date ∧ start < Schedule.earliestStart now t.noticeMinutes then
    refuse (.tooLate t.noticeMinutes)
  else .ok ()

/-! ## The transaction -/

/-- The scope whose terms govern an order. -/
def Order.scope (o : Order) : Capacity.Scope := ⟨o.company, some o.address, some o.service⟩

/-- The booking of an order under given terms, before it has an id. The service and the vehicle are
kept as they are now; a service without price costs nothing. -/
def Order.booking (o : Order) (t : Capacity.Terms) (s : Service) (v : Vehicle) : Booking where
  startTime := o.startTime
  duration := t.slotMinutes
  status := Status.confirmed.text
  id := 0
  user := o.user
  company := o.company
  address := o.address
  service := o.service
  vehicle := v.id
  date := o.date
  serviceName := s.name
  price := s.price.getD .zero
  vehicleBrand := v.brand
  vehicleModel := v.model
  vehiclePlate := v.plate
  notes := o.notes
  cancellationReason := none
  cancelledAt := none

/-- The number of active bookings of a list that overlap a window. -/
def countTaken (w : Window) (bookings : List Booking) : Except Failure Nat :=
  (countOverlaps w (bookings.map (·.toOccupancy))).mapError .unreadableTime

/-- Admits an order, with what the collaborators said. -/
def Order.admit (o : Order) (store : Store) (now : Instant) (c : Company) (s : Service)
    (v : Vehicle) : Except Failure (Booking × Store) := do
  store.begin .admissionFailed
  let terms := (← store.governing o.scope).terms
  requireDate o.date now.date terms
  if ¬ (c.scheduleOn o.date).IsWorkingDay then refuse (.closed o.date)
  requireNotice o.date o.start now terms
  let bookings ← store.list (.day o.company o.address o.date)
  let taken ← countTaken ⟨o.start, terms.slotMinutes⟩ bookings
  if terms.maxConcurrent ≤ taken then
    refuse (.noPlaceLeft taken terms.maxConcurrent o.startTime)
  else store.addBooking (o.booking terms s v)

/-- Asks the collaborators about an order. -/
def Order.lookUp (o : Order) : Lookup Failure (Company × Service × Vehicle) := do
  let c ← Directory.fetchCompany o.company
  Directory.requireAddress c o.address
  let s ← Directory.fetchService o.company o.service
  Directory.requireOffered s o.address
  let v ← Directory.fetchVehicle o.user
  return (c, s, v)

/-- Takes one booking if, under the terms that govern, a place is left. -/
def allocate (store : Store) (now : Instant) (r : Request) :
    Lookup Failure (Booking × Store) := do
  let o ← r.order
  let (c, s, v) ← o.lookUp
  o.admit store now c s v

end SlotBooking.Admission
