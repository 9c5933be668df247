import SlotBooking.Calendar.Date
import SlotBooking.Capacity.Rule
import SlotBooking.Schedule.TimeOfDay

/-!
# Refusals

The answers of the service other than success, as causes. Each cause belongs to one code of a closed
taxonomy, each code to one of six kinds; callers branch on these and never on the wording.

* `Refusal.Code`: the taxonomy, with the machine-readable name, the headline and the kind of each.
* `Refusal`: the causes, with what each is about.
* `Refusal.message`: the headline, followed by the detail if there is one.
-/

namespace SlotBooking

/-- The kinds of refusals. -/
inductive Refusal.Kind where
  | notFound | conflict | forbidden | invalidInput | businessRule | internal
deriving DecidableEq, Repr

/-- The machine-readable name of a kind. -/
def Refusal.Kind.name : Refusal.Kind → String
  | notFound => "not_found"
  | conflict => "conflict"
  | forbidden => "forbidden"
  | invalidInput => "invalid_input"
  | businessRule => "business_rule"
  | internal => "internal"

/-- The codes of refusals. -/
inductive Refusal.Code where
  | notFound | companyNotFound | addressNotFound | serviceNotFound | configNotFound
  | bookingNotFound | resourceNotFound
  | conflict | slotNotAvailable | configAlreadyExists | bookingCannotBeCancelled
  | statusChangeNotAllowed
  | accessDenied
  | invalidInput
  | businessRule | companyClosed | dateTooFarInFuture | tooLateToBook
  | serviceNotAvailableAtAddress | invalidDate
  | internal
deriving DecidableEq, Repr

namespace Refusal.Code

/-- The kind to which a code belongs. -/
def kind : Code → Kind
  | notFound | companyNotFound | addressNotFound | serviceNotFound | configNotFound
  | bookingNotFound | resourceNotFound => .notFound
  | conflict | slotNotAvailable | configAlreadyExists | bookingCannotBeCancelled
  | statusChangeNotAllowed => .conflict
  | accessDenied => .forbidden
  | invalidInput => .invalidInput
  | businessRule | companyClosed | dateTooFarInFuture | tooLateToBook
  | serviceNotAvailableAtAddress | invalidDate => .businessRule
  | internal => .internal

/-- The machine-readable name of a code. -/
def name : Code → String
  | notFound => "not_found"
  | companyNotFound => "company_not_found"
  | addressNotFound => "address_not_found"
  | serviceNotFound => "service_not_found"
  | configNotFound => "config_not_found"
  | bookingNotFound => "booking_not_found"
  | resourceNotFound => "resource_not_found"
  | conflict => "conflict"
  | slotNotAvailable => "slot_not_available"
  | configAlreadyExists => "config_already_exists"
  | bookingCannotBeCancelled => "booking_cannot_be_cancelled"
  | statusChangeNotAllowed => "status_change_not_allowed"
  | accessDenied => "access_denied"
  | invalidInput => "invalid_input"
  | businessRule => "business_rule"
  | companyClosed => "company_closed"
  | dateTooFarInFuture => "date_too_far_in_future"
  | tooLateToBook => "too_late_to_book"
  | serviceNotAvailableAtAddress => "service_not_available_at_address"
  | invalidDate => "invalid_date"
  | internal => "internal"

/-- The headline of a message. -/
def headline : Code → String
  | notFound => "not found"
  | companyNotFound => "company not found"
  | addressNotFound => "address not found"
  | serviceNotFound => "service not found"
  | configNotFound => "config not found"
  | bookingNotFound => "booking not found"
  | resourceNotFound => "user has no selected vehicle"
  | conflict => "conflict"
  | slotNotAvailable => "slot is not available"
  | configAlreadyExists => "config already exists"
  | bookingCannotBeCancelled => "booking cannot be cancelled"
  | statusChangeNotAllowed => "status change not allowed"
  | accessDenied => "access denied"
  | invalidInput => "invalid input data"
  | businessRule => "business rule violated"
  | companyClosed => "company is closed on this date"
  | dateTooFarInFuture => "date is too far in the future"
  | tooLateToBook => "too late to book this slot"
  | serviceNotAvailableAtAddress => "service is not available at this address"
  | invalidDate => "invalid booking date"
  | internal => "internal error"

/-- The headline, followed by the detail if there is one. -/
def describe (c : Code) (detail : Option String) : String :=
  match detail with
  | none | some "" => c.headline
  | some d => c.headline ++ ": " ++ d

end Refusal.Code

/-- What the store was asked to do when it failed. -/
inductive Refusal.Access where
  | ruleByScope | ruleById | ruleList | createRule | updateRule | deleteRule
  | getBooking | bookingList | userBookingList | createBooking | cancelBooking
  | updateBookingStatus
deriving DecidableEq, Repr

/-- The wording of an access in the message of its failure. -/
def Refusal.Access.text : Refusal.Access → String
  | ruleByScope => "get slots config by key"
  | ruleById => "get slots config by id"
  | ruleList => "list slots configs"
  | createRule => "create slots config"
  | updateRule => "update slots config"
  | deleteRule => "delete slots config"
  | getBooking => "get booking"
  | bookingList => "list bookings"
  | userBookingList => "list user bookings"
  | createBooking => "create booking"
  | cancelBooking => "cancel booking"
  | updateBookingStatus => "update booking status"

/-- What is looked up at the collaborators. -/
inductive Refusal.Subject where
  | company | service | vehicle
deriving DecidableEq, Repr

/-- The wording of a subject in the message of a failed look-up. -/
def Refusal.Subject.text : Refusal.Subject → String
  | company => "company"
  | service => "service"
  | vehicle => "selected vehicle"

open Capacity (Field Scope) in
/-- Why the service refuses. -/
inductive Refusal where
  /-- An id is missing, zero or negative. -/
  | notPositive (field : String)
  | dateMissing
  | startTimeMissing
  | startTimeUnreadable (e : TimeOfDay.Error)
  | companyNotFound (company : Int)
  | addressNotFound (address company : Int)
  | serviceNotFound (service : Int)
  | serviceElsewhere (service address : Int)
  /-- A rule is asked for a service at an address where the service is not offered. -/
  | serviceNotOffered
  | vehicleNotSelected (user : Int)
  /-- The collaborators gave no usable answer. -/
  | lookupFailed (subject : Refusal.Subject)
  | accessFailed (access : Refusal.Access)
  /-- The transaction of an admission could not start. -/
  | admissionFailed
  | datePast (date : Date)
  | dateTooFar (days : Int)
  | closed (date : Date)
  | tooLate (minutes : Int)
  | noPlaceLeft (taken : Nat) (places : Int) (startTime : String)
  | bookingNotFound (booking : Int)
  | notManager (user company : Int)
  | unknownStatus (text : Text)
  | periodReversed
  | reasonTooLong
  | notCancellable (status : String)
  | reactivation (old new : String)
  | ruleNotFound (rule : Int)
  | noRuleFor (scope : Scope)
  | ruleExists (scope : Scope)
  | outOfRange (field : Field)
  /-- A change names something that is no term of a rule. -/
  | notUpdatable (name : String)
deriving DecidableEq

namespace Refusal

/-- The greatest number of characters of a cancellation reason. -/
def maxReasonLength : Nat := 500

/-- The code of a cause. -/
def code : Refusal → Code
  | notPositive _ | dateMissing | startTimeMissing | startTimeUnreadable _ | serviceNotOffered
  | unknownStatus _ | periodReversed | reasonTooLong | outOfRange _ | notUpdatable _ =>
    .invalidInput
  | companyNotFound _ => .companyNotFound
  | addressNotFound _ _ => .addressNotFound
  | serviceNotFound _ => .serviceNotFound
  | serviceElsewhere _ _ => .serviceNotAvailableAtAddress
  | vehicleNotSelected _ => .resourceNotFound
  | lookupFailed _ | accessFailed _ | admissionFailed => .internal
  | datePast _ => .invalidDate
  | dateTooFar _ => .dateTooFarInFuture
  | closed _ => .companyClosed
  | tooLate _ => .tooLateToBook
  | noPlaceLeft _ _ _ => .slotNotAvailable
  | bookingNotFound _ => .bookingNotFound
  | notManager _ _ => .accessDenied
  | notCancellable _ => .bookingCannotBeCancelled
  | reactivation _ _ => .statusChangeNotAllowed
  | ruleNotFound _ | noRuleFor _ => .configNotFound
  | ruleExists _ => .configAlreadyExists

/-- What the message says after the headline. -/
def detail : Refusal → String
  | notPositive field => field ++ " must be positive"
  | dateMissing => "date is required"
  | startTimeMissing => "start_time is required"
  | startTimeUnreadable e => e.message
  | companyNotFound company => "id=" ++ toString company
  | addressNotFound address company =>
    "id=" ++ toString address ++ " in company id=" ++ toString company
  | serviceNotFound service => "id=" ++ toString service
  | serviceElsewhere service address =>
    "service id=" ++ toString service ++ ", address id=" ++ toString address
  | serviceNotOffered => "service is not available at this address"
  | vehicleNotSelected user => "user_id=" ++ toString user
  | lookupFailed subject => "failed to get " ++ subject.text
  | accessFailed access => "failed to " ++ access.text
  | admissionFailed => "booking transaction failed"
  | datePast date => date.text ++ " is in the past"
  | dateTooFar days => "can only book " ++ toString days ++ " days in advance"
  | closed date => date.text
  | tooLate minutes => "must book at least " ++ toString minutes ++ " minutes in advance"
  | noPlaceLeft taken places startTime =>
    toString taken ++ "/" ++ toString places ++ " spots taken at " ++ startTime
  | bookingNotFound booking => "id=" ++ toString booking
  | notManager user company =>
    "user " ++ toString user ++ " is not a manager of company " ++ toString company
  | unknownStatus text => "unknown status " ++ text.quoted
  | periodReversed => "start_date must not be after end_date"
  | reasonTooLong => "must be at most " ++ toString maxReasonLength ++ " characters"
  | notCancellable status => "status is " ++ status
  | reactivation old new => old ++ " -> " ++ new
  | ruleNotFound rule => "id=" ++ toString rule
  | noRuleFor scope => scope.text
  | ruleExists scope => scope.text
  | outOfRange field =>
    field.name ++ " must be between " ++ toString field.low ++ " and " ++ toString field.high
  | notUpdatable _ => "field cannot be updated"

/-- The input field that is at fault. -/
def field? : Refusal → Option String
  | notPositive field => some field
  | dateMissing => some "date"
  | startTimeMissing | startTimeUnreadable _ => some "start_time"
  | serviceNotOffered => some "service_id"
  | unknownStatus _ => some "status"
  | periodReversed => some "start_date"
  | reasonTooLong => some "cancellation_reason"
  | outOfRange field => some field.name
  | notUpdatable name => some name
  | _ => none

/-- The kind of a cause. -/
def kind (r : Refusal) : Kind := r.code.kind

/-- The message of a refusal. -/
def message (r : Refusal) : String := r.code.describe (some r.detail)

end Refusal

end SlotBooking
