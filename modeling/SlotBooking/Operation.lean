import SlotBooking.Availability
import SlotBooking.Booking.Lifecycle
import SlotBooking.Capacity.Management

/-!
# Operations of the service

Everything that users and managers ask of the service, as one type, and what it ends with. An
operation reads the store and the clock, may ask the collaborators, and ends with an outcome and the
store after it, or with a failure and nothing changed in the store.
-/

namespace SlotBooking

open Directory (Lookup)
open Capacity (Draft Governing Rule Scope)
open Capacity.Management (Changes)

/-- Something asked of the service. -/
inductive Operation where
  | allocate (request : Admission.Request)
  | availability (company address service : Option Int) (date : Date)
  | viewBooking (id user : Int)
  | userBookings (user : Int) (status : Option String)
  | companyBookings (user : Int) (query : Lifecycle.Query)
  | cancelBooking (id user : Int) (reason : Option String)
  | changeStatus (id user : Int) (status : Text)
  | createRule (user : Int) (scope : Scope) (draft : Draft)
  | viewRule (id : Int)
  | effectiveRule (scope : Scope)
  | companyRules (company user : Int)
  | updateRule (id user : Int) (changes : Changes)
  | deleteRule (id user : Int)
  | deleteRuleFor (scope : Scope) (user : Int)

/-- What an operation ends with. -/
inductive Outcome where
  | nothing
  | booking (b : Booking)
  | bookings (bs : List Booking)
  | day (d : DayAvailability)
  | rule (r : Rule)
  | rules (rs : List Rule)
  | governing (g : Governing)

/-- Runs an operation. -/
def Operation.run (store : Store) (now : Instant) : Operation → Lookup Failure (Outcome × Store)
  | allocate request => do
    let (b, store) ← Admission.allocate store now request
    return (.booking b, store)
  | availability company address service date => do
    return (.day (← SlotBooking.availability store now company address service date), store)
  | viewBooking id user => do return (.booking (← Lifecycle.view store id user), store)
  | userBookings user status => do return (.bookings (← Lifecycle.ofUser store user status), store)
  | companyBookings user query => do
    return (.bookings (← Lifecycle.ofCompany store user query), store)
  | cancelBooking id user reason => do
    let (b, store) ← Lifecycle.cancel store now id user reason
    return (.booking b, store)
  | changeStatus id user status => do
    let (b, store) ← Lifecycle.changeStatus store now id user status
    return (.booking b, store)
  | createRule user scope draft => do
    let (r, store) ← Capacity.Management.create store user scope draft
    return (.rule r, store)
  | viewRule id => do return (.rule (← store.rule id), store)
  | effectiveRule scope => do
    return (.governing (← Capacity.Management.effective store scope), store)
  | companyRules company user => do
    return (.rules (← Capacity.Management.ofCompany store company user), store)
  | updateRule id user changes => do
    let (r, store) ← Capacity.Management.update store id user changes
    return (.rule r, store)
  | deleteRule id user => do
    return (.nothing, ← Capacity.Management.delete store id user)
  | deleteRuleFor scope user => do
    return (.nothing, ← Capacity.Management.deleteFor store scope user)

/-- Where the service runs: its store, its clock and its collaborators. -/
structure World where
  store : Store
  now : Instant
  collaborators : Directory.Collaborators

namespace World

/-- Runs a computation that may ask the collaborators. -/
def ask {ε α : Type} (w : World) (l : Lookup ε α) : Except ε α × World :=
  let (r, collaborators) := l.run w.collaborators
  (r, { w with collaborators })

/-- Runs an operation; the store changes only if it succeeds. -/
def perform (w : World) (op : Operation) : Except Failure Outcome × World :=
  match w.ask (op.run w.store w.now) with
  | (.ok (outcome, store), w) => (.ok outcome, { w with store })
  | (.error e, w) => (.error e, w)

end World

end SlotBooking
