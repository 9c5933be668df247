/-!
# Routes

A request is routed by its method and the segments of its path, both taken as they are written; only
one line feed may follow a fixed last segment. Routes with a fixed last segment come before those
with an id in its place, and an id is never empty.

* `Endpoint.find?`: the endpoint of a method and a path.
* `route`: the endpoint, or why there is none.
-/

namespace SlotBooking.Web

/-- What a request is for, with the ids in its path as they are written. -/
inductive Endpoint where
  | availability (company address : String)
  | createBooking
  | myBookings
  | booking (id : String)
  | cancelBooking (id : String)
  | bookingStatus (id : String)
  | companyBookings (company : String)
  | createRule
  | resolveRule
  | rule (id : String)
  | updateRule (id : String)
  | deleteRule (id : String)
  | deleteRuleFor
  | companyRules (company : String)
  | health
deriving DecidableEq, Repr

/-- The result of routing. -/
inductive Routed where
  | found (e : Endpoint)
  /-- The path is known, with other methods. -/
  | otherMethod
  /-- The path is known but for slashes at its end. -/
  | redirect
  | unknown
deriving DecidableEq, Repr

/-- The endpoint reads a body. -/
def Endpoint.HasBody : Endpoint → Prop
  | createBooking | cancelBooking _ | bookingStatus _ | createRule | updateRule _ => True
  | _ => False

instance (e : Endpoint) : Decidable e.HasBody := by
  cases e <;> unfold Endpoint.HasBody <;> infer_instance

/-- The methods that some endpoint has. -/
def methods : List String := ["GET", "POST", "PATCH", "DELETE"]

namespace Endpoint

/-- The endpoint of a method and segments of which the last is fixed. -/
def withFixedEnd? (method : String) (segments : List String) : Option Endpoint :=
  match method, segments with
  | "GET", ["companies", company, "addresses", address, "available-slots"] =>
    some (.availability company address)
  | "POST", ["bookings"] => some .createBooking
  | "GET", ["bookings", "my"] => some .myBookings
  | "POST", ["bookings", id, "cancel"] => some (.cancelBooking id)
  | "PATCH", ["bookings", id, "status"] => some (.bookingStatus id)
  | "GET", ["companies", company, "bookings"] => some (.companyBookings company)
  | "POST", ["configs"] => some .createRule
  | "GET", ["configs", "resolve"] => some .resolveRule
  | "DELETE", ["configs"] => some .deleteRuleFor
  | "GET", ["companies", company, "configs"] => some (.companyRules company)
  | "GET", ["health"] => some .health
  | _, _ => none

/-- The endpoint of a method and segments of which the last is an id. -/
def withIdAtEnd? (method : String) (segments : List String) : Option Endpoint :=
  match method, segments with
  | "GET", ["bookings", id] => some (.booking id)
  | "GET", ["configs", id] => some (.rule id)
  | "PATCH", ["configs", id] => some (.updateRule id)
  | "DELETE", ["configs", id] => some (.deleteRule id)
  | _, _ => none

/-- The segments without a line feed at the end of the last one. -/
def dropLineFeed : List String → List String
  | [] => []
  | [segment] =>
    match segment.toList.reverse with
    | '\n' :: cs => [String.ofList cs.reverse]
    | _ => [segment]
  | segment :: segments => segment :: dropLineFeed segments

/-- The endpoint of a method and the segments of a path. -/
def find? (method : String) (segments : List String) : Option Endpoint :=
  if segments.contains "" then none
  else (withFixedEnd? method (dropLineFeed segments)).or (withIdAtEnd? method segments)

end Endpoint

/-- Some endpoint has the path. -/
def isKnown (segments : List String) : Bool :=
  methods.any fun m => (Endpoint.find? m segments).isSome

/-! ## Paths -/

/-- The segments of a path that opens with a slash. -/
def segments? (path : List Char) : Option (List String) :=
  match path with
  | '/' :: rest => some ((rest.splitOn '/').map String.ofList)
  | _ => none

/-- The path is known. -/
def isKnownPath (path : List Char) : Bool := (segments? path).any isKnown

/-- A path without the slashes at its end. -/
def dropSlashes (path : List Char) : List Char :=
  (path.reverse.dropWhile (· = '/')).reverse

/-- Routes a request. -/
def route (method path : String) : Routed :=
  let path := path.toList
  match (segments? path).bind (Endpoint.find? method) with
  | some e => .found e
  | none =>
    if isKnownPath path then .otherMethod
    else if path.getLast? = some '/' ∧ isKnownPath (dropSlashes path) then .redirect
    else .unknown

end SlotBooking.Web
