import SlotBooking.Calendar.Date

/-!
# Instants

An instant of the wall clock, without time zone: a date, a minute of the day, a second and a
microsecond. Rules on notice look at the date and the minute only.
-/

namespace SlotBooking

/-- A moment of local time, to the microsecond. -/
structure Instant where
  date : Date
  /-- The minutes since midnight. -/
  minute : Nat
  second : Nat
  micro : Nat
  minute_lt : minute < 1440
  second_lt : second < 60
  micro_lt : micro < 1000000
deriving DecidableEq

namespace Instant

/-- The form `YYYY-MM-DDTHH:MM:SS`, followed by a point and six digits if there is a fraction of a
second. -/
def text (t : Instant) : String :=
  let clock := Text.padded 2 (t.minute / 60 : Nat) ++ ":" ++ Text.padded 2 (t.minute % 60 : Nat)
    ++ ":" ++ Text.padded 2 t.second
  t.date.text ++ "T" ++ clock ++ if t.micro = 0 then "" else "." ++ Text.padded 6 t.micro

/-- The instant of a date and a time of day, if such a time exists. -/
def ofParts? (date : Date) (hour minute second micro : Nat) : Option Instant :=
  if h : hour < 24 ∧ minute < 60 ∧ second < 60 ∧ micro < 1000000 then
    some ⟨date, hour * 60 + minute, second, micro, by omega, h.2.2.1, h.2.2.2⟩
  else none

/-- The instant that a text writes in the form of `text`. -/
def ofText? (s : String) : Option Instant := do
  let (date, cs) ← Date.read? s.toList
  let (hour, cs) ← Date.readDigits? 2 (← Date.readMark? 'T' cs)
  let (minute, cs) ← Date.readDigits? 2 (← Date.readMark? ':' cs)
  let (second, cs) ← Date.readDigits? 2 (← Date.readMark? ':' cs)
  match cs with
  | [] => ofParts? date hour minute second 0
  | cs =>
    let (micro, cs) ← Date.readDigits? 6 (← Date.readMark? '.' cs)
    if cs.isEmpty then ofParts? date hour minute second micro else none

end Instant

end SlotBooking
