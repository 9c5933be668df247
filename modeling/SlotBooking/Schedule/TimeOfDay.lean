import SlotBooking.Json.Reader
import SlotBooking.Text.Digit
import SlotBooking.Text.Padded
import SlotBooking.Text.Quoted

/-!
# Times of day

Times of day are written `HH:MM` and reckoned in minutes since midnight.

* `TimeOfDay.parse`: two digits, a colon and two digits, in any script; digits without a decimal
  value are noticed only after the shape has been accepted.
* `TimeOfDay.ofText`: the same of a text, which has no such shape if it holds a lone surrogate.
* `TimeOfDay.text`: at least two characters for the hours, also below zero and past midnight.
* `TimeOfDay.text?`: the same, unless the hours have more digits than an integer may have.
-/

namespace SlotBooking.TimeOfDay

/-- Why a text is no time of day. -/
inductive Error where
  /-- The text does not have the shape `HH:MM`. -/
  | shape (text : Text)
  /-- A part has digits that write no decimal number. -/
  | digits (part : String)
  /-- The hour is past 23 or the minute past 59. -/
  | range (text : String)
deriving DecidableEq

/-- The message of a failed reading. -/
def Error.message : Error → String
  | shape text => "time must be HH:MM, got " ++ Text.quoted text
  | digits part => "invalid literal for int() with base 10: " ++ Text.quoted part
  | range text => "time out of range: " ++ Text.quoted text

/-- The hour and minute parts of a text of the shape `HH:MM`. -/
def parts? (s : String) : Option (List Char × List Char) :=
  match s.toList with
  | [a, b, ':', c, d] =>
    if [a, b, c, d].all Text.isDigit then some ([a, b], [c, d]) else none
  | _ => none

/-- The decimal number that a part writes. -/
def number (part : List Char) : Except Error Nat :=
  match Text.decimalNumber? part with
  | some n => .ok n
  | none => .error (.digits (String.ofList part))

/-- The minutes since midnight that a text writes. -/
def parse (s : String) : Except Error Int := do
  match parts? s with
  | none => .error (.shape s)
  | some (hours, minutes) =>
    let hour ← number hours
    let minute ← number minutes
    if 23 < hour ∨ 59 < minute then .error (.range s) else return hour * 60 + minute

/-- The minutes since midnight that a text writes, if it is a string. -/
def ofText (t : Text) : Except Error Int :=
  match t.toString? with
  | some s => parse s
  | none => .error (.shape t)

/-- The written form of a number of minutes since midnight. -/
def text (m : Int) : String := Text.padded 2 (m.fdiv 60) ++ ":" ++ Text.padded 2 (m.fmod 60)

/-- The hours have no more digits than an integer may have. -/
def IsWritable (m : Int) : Prop := (Nat.toDigits 10 (m.fdiv 60).natAbs).length ≤ Json.maxDigits

instance (m : Int) : Decidable (IsWritable m) := inferInstanceAs (Decidable (_ ≤ _))

/-- The written form of a number of minutes that can be written. -/
def text? (m : Int) : Option String := if IsWritable m then some (text m) else none

end SlotBooking.TimeOfDay
