import SlotBooking.Directory.Basic
import SlotBooking.Json.Lenient

/-!
# Directory payloads

Companies, services and vehicles arrive as JSON objects. Unknown members are ignored; members that
are not there take their defaults.

* `ofJson?`: a payload, read leniently.
* `toJson`: all fields of a value.
* `snapshot`: what the cache keeps of a value. A cached number is plain JSON, which has no
  infinities or NaNs, so a price that is not finite is kept as `null`.
* `ofSnapshot?`: a cached service, read leniently. A cached company is read as a payload.
-/

namespace SlotBooking

open Json.Lenient

namespace DaySchedule

/-- The schedule that a payload describes. -/
def ofJson? (j : Json) : Option DaySchedule := do
  let _ ← j.members?
  return {
    isOpen := ← defaulted j "is_open" false bool?
    openTime := ← optional j "open_time" text?
    closeTime := ← optional j "close_time" text? }

/-- All fields of a schedule. -/
def toJson (d : DaySchedule) : Json :=
  .obj [("is_open", .bool d.isOpen), ("open_time", .ofOption .str d.openTime),
    ("close_time", .ofOption .str d.closeTime)]

end DaySchedule

namespace WorkingHours

/-- The working hours that a payload describes; a day that is not there is closed. -/
def ofJson? (j : Json) : Option WorkingHours := do
  let _ ← j.members?
  return {
    monday := ← defaulted j "monday" {} DaySchedule.ofJson?
    tuesday := ← defaulted j "tuesday" {} DaySchedule.ofJson?
    wednesday := ← defaulted j "wednesday" {} DaySchedule.ofJson?
    thursday := ← defaulted j "thursday" {} DaySchedule.ofJson?
    friday := ← defaulted j "friday" {} DaySchedule.ofJson?
    saturday := ← defaulted j "saturday" {} DaySchedule.ofJson?
    sunday := ← defaulted j "sunday" {} DaySchedule.ofJson? }

/-- All fields of working hours. -/
def toJson (w : WorkingHours) : Json :=
  .obj [("monday", w.monday.toJson), ("tuesday", w.tuesday.toJson),
    ("wednesday", w.wednesday.toJson), ("thursday", w.thursday.toJson),
    ("friday", w.friday.toJson), ("saturday", w.saturday.toJson), ("sunday", w.sunday.toJson)]

end WorkingHours

namespace Directory

namespace Address

/-- The address that a payload describes. -/
def ofJson? (j : Json) : Option Address := do
  return {
    id := ← required j "id" int?
    city := ← optional j "city" text?
    street := ← optional j "address" text? }

/-- All fields of an address. -/
def toJson (a : Address) : Json :=
  .obj [("id", .int a.id), ("city", .ofOption .str a.city), ("address", .ofOption .str a.street)]

end Address

namespace Company

/-- The company that a payload describes. -/
def ofJson? (j : Json) : Option Company := do
  return {
    id := ← required j "id" int?
    name := ← defaulted j "name" (.ofString "") text?
    addresses := ← defaulted j "addresses" [] (list? Address.ofJson?)
    workingHours := ← defaulted j "working_hours" {} WorkingHours.ofJson?
    managers := ← defaulted j "manager_ids" [] (list? int?) }

/-- All fields of a company. -/
def toJson (c : Company) : Json :=
  .obj [("id", .int c.id), ("name", .str c.name), ("addresses", .arr (c.addresses.map (·.toJson))),
    ("working_hours", c.workingHours.toJson), ("manager_ids", .arr (c.managers.map .int))]

/-- What the cache keeps of a company. -/
def snapshot (c : Company) : Json := c.toJson

end Company

namespace Service

/-- The service that a document describes, with its price read in a given way. -/
def read? (price? : Json → Option Binary64) (j : Json) : Option Service := do
  return {
    id := ← required j "id" int?
    company := ← required j "company_id" int?
    name := ← required j "name" text?
    price := ← optional j "price" price?
    duration := ← optional j "duration_minutes" int?
    addresses := ← defaulted j "address_ids" [] (list? int?) }

/-- The service that a payload describes. -/
def ofJson? : Json → Option Service := read? float?

/-- All fields of a service. -/
def toJson (s : Service) : Json :=
  .obj [("id", .int s.id), ("company_id", .int s.company), ("name", .str s.name),
    ("price", .ofOption .float s.price), ("duration_minutes", .ofOption .int s.duration),
    ("address_ids", .arr (s.addresses.map .int))]

/-- What the cache keeps of a service. -/
def snapshot (s : Service) : Json :=
  toJson { s with price := s.price.filter fun x => decide x.IsFinite }

/-- The service that a cached document describes. A price beyond all finite ones is infinite. -/
def ofSnapshot? : Json → Option Service := read? extendedFloat?

end Service

namespace Vehicle

/-- The vehicle that a payload describes. -/
def ofJson? (j : Json) : Option Vehicle := do
  return {
    id := ← required j "id" int?
    user := ← optional j "user_id" int?
    brand := ← optional j "brand" text?
    model := ← optional j "model" text?
    plate := ← optional j "license_plate" text?
    color := ← optional j "color" text?
    size := ← optional j "size" text? }

/-- All fields of a vehicle. -/
def toJson (v : Vehicle) : Json :=
  .obj [("id", .int v.id), ("user_id", .ofOption .int v.user), ("brand", .ofOption .str v.brand),
    ("model", .ofOption .str v.model), ("license_plate", .ofOption .str v.plate),
    ("color", .ofOption .str v.color), ("size", .ofOption .str v.size)]

end Vehicle

end Directory

end SlotBooking
