import SlotBooking.Booking.Basic

/-!
# Listings of bookings

A listing names a company and may be narrowed to an address, a period and a status. Without a
status it shows active bookings only, unless inactive ones are asked for.

* `Filter.Admits`: the bookings that a listing shows.
* `Filter.list`: those of a table, by start time for a single day, otherwise the latest first. Start
  times compare as text. What is to come first of bookings that are equal in this order is not asked
  for: they stay as they are found.
* `Filter.found`: the order in which they are found, which is that of an index.
-/

namespace SlotBooking

/-- What a listing shows. -/
structure Filter where
  company : Int
  address : Option Int := none
  first : Option Date := none
  last : Option Date := none
  status : Option Status := none
  includeInactive : Bool := false
deriving DecidableEq

namespace Filter

/-- The active bookings of one day at one address. -/
def day (company address : Int) (date : Date) : Filter :=
  { company, address := some address, first := some date, last := some date }

/-- The listing is of one day. -/
def IsSingleDay (f : Filter) : Prop := f.first.isSome ∧ f.first = f.last

instance (f : Filter) : Decidable f.IsSingleDay := inferInstanceAs (Decidable (_ ∧ _))

/-- The status of a booking passes. -/
def AdmitsStatus (f : Filter) (b : Booking) : Prop :=
  match f.status with
  | some s => b.status = s.text
  | none => f.includeInactive ∨ b.IsActive

instance (f : Filter) (b : Booking) : Decidable (f.AdmitsStatus b) := by
  unfold AdmitsStatus
  cases f.status <;> exact inferInstance

/-- The listing shows a booking. -/
def Admits (f : Filter) (b : Booking) : Prop :=
  b.company = f.company ∧ (∀ a ∈ f.address, b.address = a) ∧ (∀ d ∈ f.first, d ≤ b.date) ∧
    (∀ d ∈ f.last, b.date ≤ d) ∧ f.AdmitsStatus b

instance (f : Filter) (b : Booking) : Decidable (f.Admits b) :=
  inferInstanceAs (Decidable (_ ∧ (∀ a ∈ f.address, _ = a) ∧ (∀ d ∈ f.first, d ≤ _) ∧
    (∀ d ∈ f.last, _ ≤ d) ∧ _))

end Filter

namespace Booking

/-- By start time. -/
def startsNoLater (a b : Booking) : Bool := decide (a.startTime ≤ b.startTime)

/-- By date and then by start time, the latest first. -/
def isNoOlder (a b : Booking) : Bool :=
  decide (b.date < a.date ∨ b.date = a.date ∧ b.startTime ≤ a.startTime)

/-- By address and then by date. -/
def isIndexedNoLater (a b : Booking) : Bool :=
  decide (a.address < b.address ∨ a.address = b.address ∧ a.date ≤ b.date)

end Booking

/-- The order in which the bookings that a listing shows are found. The index of the table is by
company, address and date, and then by id; where the listing names an address and is not of a single
day, it is read backwards, so that the latest dates come first. -/
def Filter.found (f : Filter) (shown : List Booking) : List Booking :=
  let indexed := shown.mergeSort Booking.isIndexedNoLater
  if f.address.isSome ∧ ¬ f.IsSingleDay then indexed.reverse else indexed

/-- The bookings that a listing shows, in its order. -/
def Filter.list (f : Filter) (bookings : List Booking) : List Booking :=
  (f.found (bookings.filter fun b => decide (f.Admits b))).mergeSort
    (if f.IsSingleDay then Booking.startsNoLater else Booking.isNoOlder)

/-- A user's own bookings, with the status asked for if there is one, the latest first. They are
found by id. -/
def bookingsOf (user : Int) (status : Option Status) (bookings : List Booking) : List Booking :=
  (bookings.filter fun b => decide (b.user = user ∧ ∀ s ∈ status, b.status = s.text)).mergeSort
    Booking.isNoOlder

end SlotBooking
