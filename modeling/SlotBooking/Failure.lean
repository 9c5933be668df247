import SlotBooking.Json.Reader
import SlotBooking.Refusal

/-!
# Failures

An operation of the service ends with a result or a failure. A failure is a refusal, or one of the
conditions that the taxonomy of refusals does not cover.

* Times and dates: a time of day in opening hours or in stored data that cannot be read, a slot
  length that is not positive, an advance limit that is no span of days or leads past the end of the
  calendar.
* The store: an integer that does not fit a column, and a text that cannot be encoded.
* The collaborators: an answer that is nested too deep, and a snapshot that cannot be encoded.
* Numbers: a share of places beyond all finite ones.
-/

namespace SlotBooking

/-- Why an operation of the service has no result. -/
inductive Failure where
  | refused (r : Refusal)
  | unreadableTime (e : TimeOfDay.Error)
  | slotLength (minutes : Int)
  | calendarEnd
  /-- More days than a span of days has. -/
  | spanLength (days : Int)
  /-- More days than a number of days has digits for. -/
  | spanRange
  | integerRange
  | unencodable (u : Text.Unencodable)
  | tooDeep (c : Json.Container)
  | unwritable (u : Text.Unencodable)
  | shareRange
deriving DecidableEq

namespace Failure

/-- The message of a failure. -/
def message : Failure → String
  | refused r => r.message
  | unreadableTime e => e.message
  | slotLength minutes => "slot duration must be positive, got " ++ toString minutes
  | calendarEnd => "date value out of range"
  | spanLength days => "days=" ++ toString days ++ "; must have magnitude <= 999999999"
  | spanRange => "number of days out of range"
  | integerRange => "integer out of range"
  | unencodable u => u.message
  | tooDeep .array =>
    "maximum recursion depth exceeded while decoding a JSON array from a unicode string"
  | tooDeep .object =>
    "maximum recursion depth exceeded while decoding a JSON object from a unicode string"
  | unwritable u => u.message
  | shareRange => "integer division result too large for a float"

/-- The failure is one of the service's own refusals. -/
def IsRefusal (f : Failure) : Prop := ∃ r, f = refused r

end Failure

/-- Refuses an operation. -/
def refuse {α : Type} (r : Refusal) : Except Failure α := .error (.refused r)

end SlotBooking
