import SlotBooking.Booking.Listing
import SlotBooking.Failure

/-!
# The store

The store keeps a table of bookings and a table of capacity rules, each in ascending order of ids.
A table may have been dropped, after which every access to it fails; and a session other than the
service's may hold the write lock, so that no transaction can start. Integers that reach the store
have to fit signed 64-bit columns, and texts have to be free of lone surrogates.

Reading operations return what they found; writing ones also return the store after them.
-/

namespace SlotBooking

open Capacity (Draft Governing Rule Scope Terms)

/-- The tables and the write lock. -/
structure Store where
  bookings : Option (List Booking)
  rules : Option (List Rule)
  writeLocked : Bool := false

namespace Store

/-- The store with both tables and nothing in them. -/
def empty : Store := ⟨some [], some [], false⟩

/-! ## Limits of the store -/

/-- The integer fits a signed 64-bit column. -/
def Storable (n : Int) : Prop := -0x8000000000000000 ≤ n ∧ n < 0x8000000000000000

instance (n : Int) : Decidable (Storable n) := inferInstanceAs (Decidable (_ ∧ _))

/-- Requires that all integers fit their columns. -/
def requireStorable (ns : List Int) : Except Failure Unit :=
  if ∀ n ∈ ns, Storable n then .ok () else .error .integerRange

/-- Requires that all texts can be encoded for their columns. -/
def requireEncodable (ts : List Text) : Except Failure Unit :=
  match ts.findSome? Text.unencodable? with
  | some u => .error (.unencodable u)
  | none => .ok ()

/-- The rows of a table that may have been dropped. -/
def rows {α : Type} (access : Refusal.Access) : Option (List α) → Except Failure (List α)
  | some rows => .ok rows
  | none => refuse (.accessFailed access)

/-- Starts a transaction that writes; `r` is what a held lock is reported as. -/
def begin (s : Store) (r : Refusal) : Except Failure Unit :=
  if s.writeLocked then refuse r else .ok ()

/-- The id of the next row: one past the largest in the table. -/
def nextId (ids : List Int) : Int :=
  match ids.max? with
  | some id => id + 1
  | none => 1

/-! ## Bookings -/

/-- The booking of an id, if there is one. -/
def booking? (s : Store) (id : Int) : Except Failure (Option Booking) := do
  let bookings ← rows .getBooking s.bookings
  requireStorable [id]
  return bookings.find? fun b => decide (b.id = id)

/-- The booking of an id. -/
def booking (s : Store) (id : Int) : Except Failure Booking := do
  match ← s.booking? id with
  | some b => return b
  | none => refuse (.bookingNotFound id)

/-- The bookings that a listing shows. -/
def list (s : Store) (f : Filter) : Except Failure (List Booking) := do
  let bookings ← rows .bookingList s.bookings
  requireStorable (f.company :: f.address.toList)
  return f.list bookings

/-- A user's own bookings. -/
def listOf (s : Store) (user : Int) (status : Option Status) : Except Failure (List Booking) := do
  let bookings ← rows .userBookingList s.bookings
  requireStorable [user]
  return bookingsOf user status bookings

/-- A booking as the store keeps it: a price of zero has no sign. -/
def kept (b : Booking) : Booking := { b with price := b.price.dropZeroSign }

/-- The store with a booking added under the next id. A price that is not a number cannot be
kept. -/
def addBooking (s : Store) (b : Booking) : Except Failure (Booking × Store) := do
  let bookings ← rows .createBooking s.bookings
  requireStorable [b.user, b.company, b.address, b.service, b.vehicle, b.duration]
  requireEncodable (b.serviceName :: b.vehicleBrand.toList ++ b.vehicleModel.toList
    ++ b.vehiclePlate.toList ++ b.notes.toList)
  if b.price.IsNaN then refuse (.accessFailed .createBooking)
  else
    let b := { kept b with id := nextId (bookings.map (·.id)) }
    return (b, { s with bookings := some (bookings ++ [b]) })

/-- The store with the booking of that id replaced. -/
def putBooking (s : Store) (b : Booking) : Store :=
  { s with bookings := s.bookings.map fun bookings =>
      bookings.map fun a => if a.id = b.id then b else a }

/-- Sets the status of a booking, without any rules. -/
def setStatus (s : Store) (id : Int) (status : Status) : Except Failure (Booking × Store) := do
  let b ← s.booking id
  return (b.withStatus status, s.putBooking (b.withStatus status))

/-- Marks a booking as cancelled, without any rules. -/
def setCancelled (s : Store) (id : Int) (status : Status) (reason : Option String)
    (time : Instant) : Except Failure (Booking × Store) := do
  let b ← s.booking id
  let b := b.cancelled status reason time
  return (b, s.putBooking b)

/-! ## Capacity rules -/

/-- The rule of an id, if there is one. -/
def rule? (s : Store) (id : Int) : Except Failure (Option Rule) := do
  let rules ← rows .ruleById s.rules
  requireStorable [id]
  return rules.find? fun r => decide (r.id = id)

/-- The rule of an id. -/
def rule (s : Store) (id : Int) : Except Failure Rule := do
  match ← s.rule? id with
  | some r => return r
  | none => refuse (.ruleNotFound id)

/-- The rule stored under exactly that scope, if there is one. -/
def ruleFor? (s : Store) (scope : Scope) : Except Failure (Option Rule) := do
  let rules ← rows .ruleByScope s.rules
  requireStorable scope.ids
  return Capacity.ruleFor? rules scope

/-- The stored rule that governs a look-up, if there is one. -/
def resolve? (s : Store) (scope : Scope) : Except Failure (Option Rule) := do
  let rules ← rows .ruleByScope s.rules
  requireStorable scope.ids
  return Capacity.resolve? rules scope

/-- What governs a look-up. -/
def governing (s : Store) (scope : Scope) : Except Failure Governing := do
  let rules ← rows .ruleByScope s.rules
  requireStorable scope.ids
  return Capacity.governing rules scope

/-- Missing ids come first, then the smaller ones. -/
def idNoLater : Option Int → Option Int → Bool
  | none, _ => true
  | some _, none => false
  | some a, some b => decide (a ≤ b)

/-- By address and then by service. -/
def scopeNoLater (a b : Rule) : Bool :=
  if a.scope.address = b.scope.address then idNoLater a.scope.service b.scope.service
  else idNoLater a.scope.address b.scope.address

/-- The rules of a company, the least specific first. -/
def rulesOf (s : Store) (company : Int) : Except Failure (List Rule) := do
  let rules ← rows .ruleList s.rules
  requireStorable [company]
  return (rules.filter fun r => decide (r.scope.company = company)).mergeSort scopeNoLater

/-- The store with a rule added under the next id. An advance limit or a notice that is missing is
zero; no other term may be missing, and a scope with both ids may be there only once. -/
def addRule (s : Store) (scope : Scope) (d : Draft) : Except Failure (Rule × Store) := do
  let rules ← rows .createRule s.rules
  requireStorable (scope.ids ++ Capacity.Field.all.filterMap d.get)
  match d.filled.terms? with
  | none => refuse (.ruleExists scope)
  | some terms =>
    if scope.level = .serviceAtAddress ∧ (Capacity.ruleFor? rules scope).isSome then
      refuse (.ruleExists scope)
    else
      let r : Rule := ⟨nextId (rules.map (·.id)), scope, terms⟩
      return (r, { s with rules := some (rules ++ [r]) })

/-- The store with the rule of that id replaced. -/
def putRule (s : Store) (r : Rule) : Store :=
  { s with rules := s.rules.map fun rules => rules.map fun a => if a.id = r.id then r else a }

/-- The store without the rule of that id. -/
def eraseRule (s : Store) (id : Int) : Store :=
  { s with rules := s.rules.map fun rules => rules.filter fun a => decide (a.id ≠ id) }

end Store

end SlotBooking
