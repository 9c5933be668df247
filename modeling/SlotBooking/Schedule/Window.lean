/-!
# Windows of time

A window is the half-open interval of minutes from its start to its end. Two windows overlap when
each starts before the other ends, so that windows which only touch do not.
-/

namespace SlotBooking

/-- The minutes from `start` on, `duration` of them; minutes are counted from midnight. -/
structure Window where
  start : Int
  duration : Int
deriving DecidableEq

namespace Window

/-- The first minute after the window. -/
def stop (w : Window) : Int := w.start + w.duration

/-- Each of the two starts before the other ends. -/
def Overlaps (v w : Window) : Prop := v.start < w.stop ∧ w.start < v.stop

instance (v w : Window) : Decidable (v.Overlaps w) := inferInstanceAs (Decidable (_ ∧ _))

theorem Overlaps.symm {v w : Window} (h : v.Overlaps w) : w.Overlaps v := ⟨h.2, h.1⟩

theorem overlaps_comm {v w : Window} : v.Overlaps w ↔ w.Overlaps v :=
  ⟨Overlaps.symm, Overlaps.symm⟩

end Window

end SlotBooking
