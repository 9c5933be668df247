import SlotBooking.Calendar.Lenient
import SlotBooking.Json.Encoding
import SlotBooking.Operation
import SlotBooking.Web.Header
import SlotBooking.Web.Route

/-!
# Reading web requests

The values of a request come from its path, its query, the header that names the caller, and its
body, which is read as JSON if the header says nothing else. They are read leniently, and all places
that cannot be read are reported together; only a body that is no document is reported alone.

* `Flaw`: a place where a value was expected, and what was found in the body instead.
* `Reading`: a value, or the flaws that kept it from being read.
* `Request.content`: what the body holds, after its content type.
* `Request.operation`: the operation that a request asks for at an endpoint.
-/

namespace SlotBooking.Web

open Json.Lenient

/-- What a body comes to as JSON. -/
inductive Body where
  | missing
  | document (j : Json)
  /-- A text that is no document. -/
  | unreadable (f : Json.Fault)

/-- The greatest nesting of a body. -/
def maxNesting : Nat := 950

/-- The body that a text is. -/
def Body.ofText (s : String) : Body :=
  if s.isEmpty then .missing
  else
    match Json.readBody maxNesting s with
    | .ok j => .document j
    | .error f => .unreadable f

/-- A request. -/
structure Request where
  method : String
  path : String
  headers : Headers := {}
  query : List (String × String) := []
  body : Body := .missing
  /-- The body as a text in UTF-8, where a lone surrogate stands for bytes that cannot be decoded. -/
  bodyText : Text := ⟨[]⟩

/-- Where a value was expected. -/
inductive Place where
  | path (name : String)
  | query (name : String)
  | header (name : String)
  | member (name : String)
  | body
deriving DecidableEq

/-- The written form of a place. -/
def Place.text : Place → String
  | path name => "path." ++ name
  | query name => "query." ++ name
  | header name => "header." ++ name
  | member name => "body." ++ name
  | body => "body"

/-- A place whose value cannot be read, and what the body holds there or, if nothing, the body. -/
structure Flaw where
  place : Place
  found : Json := .null

/-- A value, or all flaws that kept it from being read. -/
abbrev Reading (α : Type) := Except (List Flaw) α

namespace Reading

/-- A value at a place, if it could be read. -/
def at? {α : Type} (place : Place) : Option α → Reading α
  | some a => .ok a
  | none => .error [⟨place, .null⟩]

/-- Two readings; the flaws of both count. -/
def both {α β : Type} (a : Reading α) (b : Reading β) : Reading (α × β) :=
  match a, b with
  | .ok a, .ok b => .ok (a, b)
  | .ok _, .error q => .error q
  | .error p, .ok _ => .error p
  | .error p, .error q => .error (p ++ q)

/-- A function of two readings. -/
def map₂ {α β γ : Type} (f : α → β → γ) (a : Reading α) (b : Reading β) : Reading γ :=
  (both a b).map fun (a, b) => f a b

end Reading

open Reading

/-- Why a request asks for no operation. -/
inductive Rejection where
  /-- Values cannot be read. -/
  | flaws (fs : List Flaw)
  /-- The body cannot be read, although it may follow the grammar of JSON. -/
  | body

namespace Request

/-! ## Path, query and header -/

/-- An id in the path. -/
def pathId (name text : String) : Reading Int := at? (.path name) (intOfText? text)

/-- The value of a name in the query; the last one counts. -/
def queryText? (r : Request) (name : String) : Option String :=
  (r.query.reverse.find? (·.1 == name)).map (·.2)

/-- A value in the query. -/
def queryValue {α : Type} (r : Request) (name : String) (read? : String → Option α) : Reading α :=
  at? (.query name) ((r.queryText? name).bind read?)

/-- A value in the query that may be missing. -/
def queryOption {α : Type} (r : Request) (name : String) (read? : String → Option α) :
    Reading (Option α) :=
  match r.queryText? name with
  | none => .ok none
  | some s => at? (.query name) ((read? s).map some)

/-- A positive integer. -/
def positiveOfText? (s : String) : Option Int := (intOfText? s).filter fun n => decide (0 < n)

/-- The caller, a positive id. -/
def caller (r : Request) : Reading Int :=
  at? (.header "x-user-id") ((r.headers.value? "x-user-id").bind positiveOfText?)

/-- The scope in the query, with positive ids. -/
def queryScope (r : Request) : Reading Capacity.Scope :=
  map₂ (fun company (address, service) => ⟨company, address, service⟩)
    (r.queryValue "company_id" positiveOfText?)
    (both (r.queryOption "address_id" positiveOfText?) (r.queryOption "service_id" positiveOfText?))

/-! ## Body -/

/-- The body is read as JSON: no content type is given, or one of JSON. -/
def ReadsJson (r : Request) : Prop :=
  ∀ t ∈ r.headers.value? "content-type", t = "" ∨ IsJsonType t

instance (r : Request) : Decidable r.ReadsJson :=
  inferInstanceAs (Decidable (∀ t ∈ r.headers.value? "content-type", _ ∨ _))

/-- What the body holds; one that is there and is not read as JSON holds its text. -/
def content (r : Request) : Body :=
  match r.body with
  | .missing => .missing
  | body => if r.ReadsJson then body else .document (.str r.bodyText)

/-- Reads the body as an object. -/
def bodyObject {α : Type} (r : Request) (read : Json → Reading α) : Reading α :=
  match r.content with
  | .document (.obj members) => read (.obj members)
  | .document j => .error [⟨.body, j⟩]
  | _ => .error [⟨.body, .null⟩]

/-- A member that is there. -/
def present {α : Type} (name : String) (value : Json) (read? : Json → Option α) : Reading α :=
  match read? value with
  | some a => .ok a
  | none => .error [⟨.member name, value⟩]

/-- A member that has to be there. -/
def member {α : Type} (j : Json) (name : String) (read? : Json → Option α) : Reading α :=
  match j.member? name with
  | some value => present name value read?
  | none => .error [⟨.member name, j⟩]

/-- A member that stands for `default` where it is not there. -/
def memberDefault {α : Type} (j : Json) (name : String) (default : α) (read? : Json → Option α) :
    Reading α :=
  match j.member? name with
  | some value => present name value read?
  | none => .ok default

/-- A member that may be missing or `null`. -/
def memberOption {α : Type} (j : Json) (name : String) (read? : Json → Option α) :
    Reading (Option α) :=
  memberDefault j name none (nullable read?)

/-- A start time of the shape `HH:MM` in decimal digits of any script. -/
def startTime? (j : Json) : Option String :=
  (string? j).filter fun s =>
    match s.toList with
    | [a, b, ':', c, d] => [a, b, c, d].all Text.isDecimal
    | _ => false

/-- A cancellation reason of the permitted length. -/
def reason? (j : Json) : Option String :=
  (string? j).filter fun s => decide (s.length ≤ Refusal.maxReasonLength)

/-- The request for a booking that a body makes for a user. -/
def bookingRequest (r : Request) : Reading (Int → Admission.Request) :=
  r.bodyObject fun j =>
    map₂ (fun (company, address, service) (date, startTime, notes) user =>
        ⟨some user, some company, some address, some service, some date, some startTime, notes⟩)
      (both (member j "company_id" int?)
        (both (member j "address_id" int?) (member j "service_id" int?)))
      (both (member j "date" date?)
        (both (member j "start_time" startTime?) (memberOption j "notes" text?)))

/-- The scope and the terms of a new rule. -/
def ruleDraft (r : Request) : Reading (Capacity.Scope × Capacity.Draft) :=
  r.bodyObject fun j =>
    both
      (map₂ (fun company (address, service) => ⟨company, address, service⟩)
        (member j "company_id" int?)
        (both (memberOption j "address_id" int?) (memberOption j "service_id" int?)))
      (map₂ (fun (slot, places) (days, notice) => ⟨some slot, some places, some days, some notice⟩)
        (both (member j Capacity.Field.slotMinutes.name int?)
          (member j Capacity.Field.maxConcurrent.name int?))
        (both (memberDefault j Capacity.Field.advanceDays.name 0 int?)
          (memberDefault j Capacity.Field.noticeMinutes.name 60 int?)))

/-- The change of one term, if the body names it. -/
def termChange (j : Json) (f : Capacity.Field) : Reading Capacity.Management.Changes :=
  match j.member? f.name with
  | none => .ok []
  | some v => (present f.name v (nullable int?)).map fun n => [(f.name, n)]

/-- The changes of terms that a body names. -/
def ruleChanges (r : Request) : Reading Capacity.Management.Changes :=
  r.bodyObject fun j =>
    Capacity.Field.all.foldr (fun f rest => map₂ (· ++ ·) (termChange j f) rest) (.ok [])

/-! ## Operations -/

/-- The operation that a request asks for at an endpoint whose body, if it reads one, is a
document; none for a check of health. -/
def readOperation (r : Request) : Endpoint → Reading (Option Operation)
  | .availability company address =>
    map₂ (fun (company, address) (service, date) =>
        some (.availability (some company) (some address) (some service) date))
      (both (pathId "company_id" company) (pathId "address_id" address))
      (both (r.queryValue "service_id" intOfText?) (r.queryValue "date" dateOfText?))
  | .createBooking =>
    map₂ (fun user request => some (.allocate (request user))) r.caller r.bookingRequest
  | .myBookings =>
    map₂ (fun user status => some (.userBookings user status)) r.caller
      (r.queryOption "status" some)
  | .booking id =>
    map₂ (fun user id => some (.viewBooking id user)) r.caller (pathId "id" id)
  | .cancelBooking id =>
    map₂ (fun (user, id) reason => some (.cancelBooking id user reason))
      (both r.caller (pathId "id" id))
      (r.bodyObject fun j => memberOption j "cancellation_reason" reason?)
  | .bookingStatus id =>
    map₂ (fun (user, id) status => some (.changeStatus id user status))
      (both r.caller (pathId "id" id)) (r.bodyObject fun j => member j "status" text?)
  | .companyBookings company =>
    map₂ (fun (user, company, address) ((first, last), status, inactive) =>
        some (.companyBookings user
          ⟨company, address, first, last, status, inactive.getD false⟩))
      (both r.caller
        (both (pathId "company_id" company) (r.queryOption "address_id" intOfText?)))
      (both
        (both (r.queryOption "start_date" dateOfText?) (r.queryOption "end_date" dateOfText?))
        (both (r.queryOption "status" some) (r.queryOption "include_inactive" boolOfText?)))
  | .createRule =>
    map₂ (fun user (scope, draft) => some (.createRule user scope draft)) r.caller r.ruleDraft
  | .resolveRule => r.queryScope.map fun scope => some (.effectiveRule scope)
  | .rule id => (pathId "id" id).map fun id => some (.viewRule id)
  | .updateRule id =>
    map₂ (fun (user, id) changes => some (.updateRule id user changes))
      (both r.caller (pathId "id" id)) r.ruleChanges
  | .deleteRule id =>
    map₂ (fun user id => some (.deleteRule id user)) r.caller (pathId "id" id)
  | .deleteRuleFor =>
    map₂ (fun user scope => some (.deleteRuleFor scope user)) r.caller r.queryScope
  | .companyRules company =>
    map₂ (fun user company => some (.companyRules company user)) r.caller
      (pathId "company_id" company)
  | .health => .ok none

/-- The operation that a request asks for at an endpoint. A body that does not follow the grammar of
JSON is a flaw like others; one that cannot be read for another reason is not. -/
def operation (r : Request) (e : Endpoint) : Except Rejection (Option Operation) :=
  match r.content with
  | .unreadable f =>
    if e.HasBody then .error (if f = .malformed then .flaws [⟨.body, .null⟩] else .body)
    else (r.readOperation e).mapError .flaws
  | _ => (r.readOperation e).mapError .flaws

end Request

end SlotBooking.Web
