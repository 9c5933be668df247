import SlotBooking.Json.Basic
import SlotBooking.Operation

/-!
# Results as JSON

How bookings, rules, governing terms and availability are written in answers. A missing value is
written as `null`, a date as `YYYY-MM-DD` and an instant with its time.
-/

namespace SlotBooking

open Json (ofOption)

/-- A booking with all its fields. -/
def Booking.toJson (b : Booking) : Json :=
  .obj [("id", .int b.id), ("user_id", .int b.user), ("company_id", .int b.company),
    ("address_id", .int b.address), ("service_id", .int b.service), ("vehicle_id", .int b.vehicle),
    ("booking_date", .str b.date.text), ("start_time", .str b.startTime),
    ("duration_minutes", .int b.duration), ("status", .str b.status),
    ("service_name", .str b.serviceName), ("service_price", .float b.price),
    ("vehicle_brand", ofOption .str b.vehicleBrand),
    ("vehicle_model", ofOption .str b.vehicleModel),
    ("vehicle_license_plate", ofOption .str b.vehiclePlate), ("notes", ofOption .str b.notes),
    ("cancellation_reason", ofOption .str b.cancellationReason),
    ("cancelled_at", ofOption (fun t : Instant => .str t.text) b.cancelledAt)]

/-- The members of an object that hold terms. -/
def Capacity.Terms.members (t : Capacity.Terms) : List (Text × Json) :=
  Capacity.Field.all.map fun f => (f.name, .int (t.get f))

/-- The members of a stored rule before its terms. -/
def Capacity.Rule.source (r : Capacity.Rule) : List (Text × Json) :=
  [("id", .int r.id), ("company_id", .int r.scope.company),
    ("address_id", ofOption .int r.scope.address), ("service_id", ofOption .int r.scope.service)]

/-- A stored rule. -/
def Capacity.Rule.toJson (r : Capacity.Rule) : Json := .obj (r.source ++ r.terms.members)

namespace Capacity.Governing

/-- The members that describe where governing terms come from and what they mean. -/
def source (g : Governing) : List (Text × Json) :=
  [("id", ofOption .int g.id?), ("company_id", ofOption .int g.company?),
    ("address_id", ofOption .int g.address?), ("service_id", ofOption .int g.service?),
    ("level", .str g.level.text), ("has_advance_limit", .bool (decide g.terms.HasAdvanceLimit)),
    ("supports_parallel_bookings", .bool (decide g.terms.AllowsParallel))]

/-- The members that describe governing terms and their source. -/
def members (g : Governing) : List (Text × Json) := g.source ++ g.terms.members

/-- Governing terms and whether they are the standard ones. -/
def toJson (g : Governing) : Json :=
  .obj (("is_default", .bool g.id?.isNone) :: g.members)

end Capacity.Governing

/-- A slot with its places. -/
def Slot.toJson (s : Slot) : Json :=
  .obj [("start_time", .str s.startTime), ("duration_minutes", .int s.duration),
    ("available_spots", .int s.free), ("total_spots", .int s.places)]

namespace DayAvailability

/-- The members that describe the slots of a day. -/
def members (d : DayAvailability) : List (Text × Json) :=
  [("company_id", .int d.company), ("address_id", .int d.address), ("service_id", .int d.service),
    ("date", .str d.date.text), ("slots", .arr (d.slots.map (·.toJson)))]

/-- The slots of a day with the terms that govern it. -/
def toJson (d : DayAvailability) : Json := .obj (("config", d.governing.toJson) :: d.members)

end DayAvailability

/-- What an operation ended with. -/
def Outcome.toJson : Outcome → Json
  | nothing => .null
  | booking b => b.toJson
  | bookings bs => .arr (bs.map (·.toJson))
  | day d => d.toJson
  | rule r => r.toJson
  | rules rs => .arr (rs.map (·.toJson))
  | governing g => g.toJson

end SlotBooking
