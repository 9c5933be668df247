import SlotBooking.Directory.Lookup
import SlotBooking.Store

/-!
# Bookings after their admission

Owners see and cancel their own bookings; managers see and change every booking of their company.
Cancelling is open to pending and confirmed bookings only, and an inactive booking never becomes
active again, because that would take a place without counting.

* `view`, `ofUser`, `ofCompany`: reading.
* `cancel`: by the owner as the user, by a manager as the company.
* `changeStatus`: by a manager; a status of a cancelled booking goes through `cancelNow`.
-/

namespace SlotBooking.Lifecycle

open Directory (Lookup)

/-- The status that a text names. -/
def readStatus (t : Text) : Except Failure Status :=
  match t.toString?.bind Status.ofText? with
  | some s => .ok s
  | none => refuse (.unknownStatus t)

/-! ## Reading -/

/-- A booking, for its owner or a manager of its company. -/
def view (store : Store) (id user : Int) : Lookup Failure Booking := do
  let b ← store.booking id
  if b.user = user then return b
  else
    let _ ← Directory.fetchManaged b.company user
    return b

/-- The bookings of a user, with the status asked for if there is one. -/
def ofUser (store : Store) (user : Int) (status : Option String) :
    Except Failure (List Booking) := do
  let status ← status.mapM fun s => readStatus s
  store.listOf user status

/-- A manager's question for bookings of a company. -/
structure Query where
  company : Int
  address : Option Int := none
  first : Option Date := none
  last : Option Date := none
  status : Option String := none
  includeInactive : Bool := false

/-- The filter of a question whose period is in order. -/
def Query.filter (q : Query) : Except Failure Filter := do
  let status ← q.status.mapM fun s => readStatus s
  return ⟨q.company, q.address, q.first, q.last, status, q.includeInactive⟩

/-- The period of a question ends before it begins. -/
def Query.IsReversed (q : Query) : Prop := ∃ d ∈ q.first, ∃ e ∈ q.last, e < d

instance (q : Query) : Decidable q.IsReversed := by
  unfold Query.IsReversed
  cases q.first <;> cases q.last <;> simp <;> exact inferInstance

/-- The bookings of a company, for its managers. -/
def ofCompany (store : Store) (user : Int) (q : Query) : Lookup Failure (List Booking) := do
  let _ ← Directory.fetchManaged q.company user
  if q.IsReversed then throw (.refused .periodReversed)
  let filter ← q.filter
  store.list filter

/-! ## Changing -/

/-- The transaction that cancels a booking, if its status allows it. -/
def cancelNow (store : Store) (now : Instant) (id : Int) (status : Status)
    (reason : Option String) : Except Failure (Booking × Store) := do
  store.begin (.accessFailed .cancelBooking)
  let b ← store.booking id
  if Status.CancellableText b.status then store.setCancelled id status reason now
  else refuse (.notCancellable b.status)

/-- The reason is longer than permitted. -/
def ReasonTooLong (reason : Option String) : Prop :=
  ∃ r ∈ reason, Refusal.maxReasonLength < r.length

instance (reason : Option String) : Decidable (ReasonTooLong reason) := by
  unfold ReasonTooLong
  cases reason <;> simp <;> exact inferInstance

/-- Cancels a booking for its owner or a manager of its company. -/
def cancel (store : Store) (now : Instant) (id user : Int) (reason : Option String) :
    Lookup Failure (Booking × Store) := do
  if ReasonTooLong reason then throw (.refused .reasonTooLong)
  let b ← store.booking id
  if b.user = user then cancelNow store now id .cancelledByUser reason
  else
    let _ ← Directory.fetchManaged b.company user
    cancelNow store now id .cancelledByCompany reason

/-- The transaction that sets a status other than that of a cancelled booking. -/
def setStatusNow (store : Store) (id : Int) (status : Status) :
    Except Failure (Booking × Store) := do
  store.begin (.accessFailed .updateBookingStatus)
  let b ← store.booking id
  if ¬ Status.ActiveText b.status ∧ status.IsActive then
    refuse (.reactivation b.status status.text)
  else store.setStatus id status

/-- Changes the status of a booking for a manager of its company. -/
def changeStatus (store : Store) (now : Instant) (id user : Int) (status : Text) :
    Lookup Failure (Booking × Store) := do
  let b ← store.booking id
  let _ ← Directory.fetchManaged b.company user
  let status ← readStatus status
  if status.IsCancelled then cancelNow store now id status none
  else setStatusNow store id status

end SlotBooking.Lifecycle
