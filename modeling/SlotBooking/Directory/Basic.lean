import SlotBooking.Number.Binary64
import SlotBooking.Schedule.WorkingHours
import SlotBooking.Text.Basic

/-!
# The directory

What collaborators know and the service only reads: companies with their addresses, working hours
and managers; services with the addresses where they are offered; and the vehicle that a user has
selected.
-/

namespace SlotBooking.Directory

/-- A place of a company. -/
structure Address where
  id : Int
  city : Option Text
  street : Option Text
deriving DecidableEq

/-- A company. -/
structure Company where
  id : Int
  name : Text
  addresses : List Address
  workingHours : WorkingHours
  managers : List Int
deriving DecidableEq

namespace Company

/-- The company has an address of that id. -/
def HasAddress (c : Company) (address : Int) : Prop := address ∈ c.addresses.map (·.id)

/-- The user manages the company. -/
def IsManager (c : Company) (user : Int) : Prop := user ∈ c.managers

instance (c : Company) (address : Int) : Decidable (c.HasAddress address) :=
  inferInstanceAs (Decidable (_ ∈ _))

instance (c : Company) (user : Int) : Decidable (c.IsManager user) :=
  inferInstanceAs (Decidable (_ ∈ _))

/-- The schedule of a date. -/
def scheduleOn (c : Company) (date : Date) : DaySchedule := c.workingHours.on date.weekday

end Company

/-- A service of a company. -/
structure Service where
  id : Int
  company : Int
  name : Text
  price : Option Binary64
  duration : Option Int
  addresses : List Int
deriving DecidableEq

namespace Service

/-- The service is offered at that address. -/
def IsOfferedAt (s : Service) (address : Int) : Prop := address ∈ s.addresses

instance (s : Service) (address : Int) : Decidable (s.IsOfferedAt address) :=
  inferInstanceAs (Decidable (_ ∈ _))

end Service

/-- The vehicle that a user has selected. -/
structure Vehicle where
  id : Int
  user : Option Int
  brand : Option Text
  model : Option Text
  plate : Option Text
  color : Option Text
  size : Option Text
deriving DecidableEq

end SlotBooking.Directory
