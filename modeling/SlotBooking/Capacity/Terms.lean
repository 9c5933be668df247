/-!
# Terms of a capacity rule

The four numbers that govern booking: the length of a slot, how many bookings may overlap, how many
days ahead bookings are taken (none or fewer means without limit), and how many minutes of notice a
booking for the same day needs.

* `Field`: the four terms by name, each with its permitted range.
* `Terms.standard`: what governs where no rule is stored.
* `Draft`: four terms that may be missing, as managers send them.
-/

namespace SlotBooking.Capacity

/-- The terms of a rule. -/
structure Terms where
  slotMinutes : Int
  maxConcurrent : Int
  advanceDays : Int
  noticeMinutes : Int
deriving DecidableEq, Repr

/-- One of the four terms. -/
inductive Field where
  | slotMinutes | maxConcurrent | advanceDays | noticeMinutes
deriving DecidableEq, Repr

namespace Field

/-- All terms, in the order in which they are checked. -/
def all : List Field := [slotMinutes, maxConcurrent, advanceDays, noticeMinutes]

/-- The name under which a term is sent and reported. -/
def name : Field → String
  | slotMinutes => "slot_duration_minutes"
  | maxConcurrent => "max_concurrent_bookings"
  | advanceDays => "advance_booking_days"
  | noticeMinutes => "min_booking_notice_minutes"

/-- The term of that name. -/
def ofName? (s : String) : Option Field := all.find? (·.name == s)

/-- The least permitted value. -/
def low : Field → Int
  | slotMinutes => 1
  | maxConcurrent => 1
  | advanceDays => 0
  | noticeMinutes => 0

/-- The greatest permitted value. -/
def high : Field → Int
  | slotMinutes => 480
  | maxConcurrent => 100
  | advanceDays => 365
  | noticeMinutes => 10080

/-- Within the permitted range, bounds included. -/
def Permits (f : Field) (n : Int) : Prop := f.low ≤ n ∧ n ≤ f.high

instance (f : Field) (n : Int) : Decidable (f.Permits n) := inferInstanceAs (Decidable (_ ∧ _))

end Field

namespace Terms

/-- The value of a term. -/
def get (t : Terms) : Field → Int
  | .slotMinutes => t.slotMinutes
  | .maxConcurrent => t.maxConcurrent
  | .advanceDays => t.advanceDays
  | .noticeMinutes => t.noticeMinutes

/-- Every term is within its permitted range. -/
def Permitted (t : Terms) : Prop := ∀ f : Field, f.Permits (t.get f)

/-- What governs where no rule is stored. -/
def standard : Terms := ⟨30, 1, 0, 60⟩

theorem permitted_standard : standard.Permitted := by
  intro f
  cases f <;> decide

/-- Bookings are taken only so many days ahead. -/
def HasAdvanceLimit (t : Terms) : Prop := 0 < t.advanceDays

/-- More than one booking may overlap a window. -/
def AllowsParallel (t : Terms) : Prop := 1 < t.maxConcurrent

instance (t : Terms) : Decidable t.HasAdvanceLimit := inferInstanceAs (Decidable (0 < _))
instance (t : Terms) : Decidable t.AllowsParallel := inferInstanceAs (Decidable (1 < _))

end Terms

/-- Terms as managers send them: each may be missing. -/
structure Draft where
  slotMinutes : Option Int
  maxConcurrent : Option Int
  advanceDays : Option Int
  noticeMinutes : Option Int
deriving DecidableEq, Repr

namespace Draft

/-- The draft with nothing missing. -/
def ofTerms (t : Terms) : Draft :=
  ⟨some t.slotMinutes, some t.maxConcurrent, some t.advanceDays, some t.noticeMinutes⟩

/-- The value of a term, if it is there. -/
def get (d : Draft) : Field → Option Int
  | .slotMinutes => d.slotMinutes
  | .maxConcurrent => d.maxConcurrent
  | .advanceDays => d.advanceDays
  | .noticeMinutes => d.noticeMinutes

/-- The draft with one term replaced, or taken away. -/
def set (d : Draft) (f : Field) (n : Option Int) : Draft :=
  match f with
  | .slotMinutes => { d with slotMinutes := n }
  | .maxConcurrent => { d with maxConcurrent := n }
  | .advanceDays => { d with advanceDays := n }
  | .noticeMinutes => { d with noticeMinutes := n }

/-- The draft with zero for an advance limit or a notice that is missing. -/
def filled (d : Draft) : Draft :=
  { d with
    advanceDays := some (d.advanceDays.getD 0)
    noticeMinutes := some (d.noticeMinutes.getD 0) }

/-- The terms of a draft with nothing missing. -/
def terms? (d : Draft) : Option Terms := do
  return ⟨← d.slotMinutes, ← d.maxConcurrent, ← d.advanceDays, ← d.noticeMinutes⟩

theorem get_set (d : Draft) (f g : Field) (n : Option Int) :
    (d.set f n).get g = if g = f then n else d.get g := by
  cases f <;> cases g <;> rfl

@[simp] theorem filled_ofTerms (t : Terms) : (ofTerms t).filled = ofTerms t := rfl

@[simp] theorem terms?_ofTerms (t : Terms) : (ofTerms t).terms? = some t := rfl

end Draft

end SlotBooking.Capacity
