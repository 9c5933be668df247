import SlotBooking.Booking.Status
import SlotBooking.Calendar.Instant
import SlotBooking.Number.Binary64
import SlotBooking.Schedule.TimeOfDay
import SlotBooking.Schedule.Window

/-!
# Bookings

A booking is for one user, at one address of a company, on one date. It keeps a snapshot of the
service and of the vehicle as they were when it was admitted. Its status and start time are kept as
text.

* `Occupancy`: what a booking takes up of its day.
* `countOverlaps`: how many active ones of a list overlap a window.
-/

namespace SlotBooking

/-- What a booking takes up of its day. -/
structure Occupancy where
  startTime : String
  duration : Int
  status : String
deriving DecidableEq

namespace Occupancy

/-- The status counts toward capacity. -/
def IsActive (o : Occupancy) : Prop := Status.ActiveText o.status

instance (o : Occupancy) : Decidable o.IsActive := inferInstanceAs (Decidable (Status.ActiveText _))

/-- The minutes taken up. -/
def window (o : Occupancy) : Except TimeOfDay.Error Window :=
  return ⟨← TimeOfDay.parse o.startTime, o.duration⟩

end Occupancy

/-- The number of active occupancies that overlap a window. Start times of the others are never
read. -/
def countOverlaps (w : Window) : List Occupancy → Except TimeOfDay.Error Nat
  | [] => .ok 0
  | o :: os =>
    if o.IsActive then do
      let v ← o.window
      let n ← countOverlaps w os
      return if w.Overlaps v then n + 1 else n
    else countOverlaps w os

/-- A booking. -/
structure Booking extends Occupancy where
  id : Int
  user : Int
  company : Int
  address : Int
  service : Int
  vehicle : Int
  date : Date
  serviceName : Text
  price : Binary64
  vehicleBrand : Option Text
  vehicleModel : Option Text
  vehiclePlate : Option Text
  notes : Option Text
  cancellationReason : Option String
  cancelledAt : Option Instant
deriving DecidableEq

namespace Booking

/-- The booking counts toward capacity. -/
def IsActive (b : Booking) : Prop := b.toOccupancy.IsActive

instance (b : Booking) : Decidable b.IsActive :=
  inferInstanceAs (Decidable (Occupancy.IsActive _))

/-- The booking with another status. -/
def withStatus (b : Booking) (s : Status) : Booking := { b with status := s.text }

/-- The booking as cancelled at an instant, with the reason given. -/
def cancelled (b : Booking) (s : Status) (reason : Option String) (time : Instant) : Booking :=
  { b with status := s.text, cancellationReason := reason, cancelledAt := some time }

end Booking

end SlotBooking
