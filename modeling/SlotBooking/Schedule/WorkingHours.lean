import SlotBooking.Calendar.Date
import SlotBooking.Text.Basic

/-!
# Working hours

A company publishes one schedule per day of the week: whether it is open, and its opening and
closing times as written by the company. A day is a working day if it is open and has both times.
-/

namespace SlotBooking

/-- The schedule of one day. -/
structure DaySchedule where
  isOpen : Bool := false
  openTime : Option Text := none
  closeTime : Option Text := none
deriving DecidableEq, Inhabited

namespace DaySchedule

/-- The opening and closing times of a working day. -/
def hours? (d : DaySchedule) : Option (Text × Text) :=
  match d with
  | ⟨true, some o, some c⟩ => if o.isEmpty || c.isEmpty then none else some (o, c)
  | _ => none

/-- The day is open and has both times. -/
def IsWorkingDay (d : DaySchedule) : Prop := d.hours?.isSome

instance (d : DaySchedule) : Decidable d.IsWorkingDay := inferInstanceAs (Decidable (_ = true))

end DaySchedule

/-- The schedules of a week. -/
structure WorkingHours where
  monday : DaySchedule := {}
  tuesday : DaySchedule := {}
  wednesday : DaySchedule := {}
  thursday : DaySchedule := {}
  friday : DaySchedule := {}
  saturday : DaySchedule := {}
  sunday : DaySchedule := {}
deriving DecidableEq, Inhabited

/-- The schedule of a day of the week. -/
def WorkingHours.on (w : WorkingHours) : Weekday → DaySchedule
  | .monday => w.monday
  | .tuesday => w.tuesday
  | .wednesday => w.wednesday
  | .thursday => w.thursday
  | .friday => w.friday
  | .saturday => w.saturday
  | .sunday => w.sunday

end SlotBooking
