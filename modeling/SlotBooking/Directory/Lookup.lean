import SlotBooking.Directory.Payload
import SlotBooking.Json.Encoding
import SlotBooking.Failure

/-!
# Looking things up at the collaborators

Collaborators are asked by path and give one answer per path. Companies and services may be read
through a snapshot cache, which can fail on either of its two commands; users never are.

* `Collaborators`: the answers, the cache and the calls made so far.
* `Lookup`: a computation that may ask them. Calls and cached entries remain when it fails.
* `company`, `service`, `vehicle`: one value each, with the collaborators' own errors.
* `fetchCompany` and its companions: the same, with errors turned into refusals.
* `fetchManaged`: a company, if the user manages it.
-/

namespace SlotBooking.Directory

/-- What a collaborator answers to a request. -/
inductive Answer where
  /-- A reply with its status and the document in its body, or why there is none. -/
  | reply (status : Int) (body : Except Json.Fault Json)
  /-- No connection. -/
  | refused
  /-- No reply in time. -/
  | timedOut
deriving Inhabited

/-- The greatest nesting of an answer. -/
def maxNesting : Nat := 980

/-- A reply whose body is a text. -/
def Answer.ofText (status : Int) (body : String) : Answer :=
  .reply status (Json.readBody maxNesting body)

/-- The answer of a path that nobody serves. -/
def Answer.unknown : Answer := .ofText 404 ""

/-- One request to a collaborator or to the cache. -/
inductive Call where
  | get (path : String)
  | cacheGet (key : String)
  | cacheSet (key : String) (ttl : Int)
deriving DecidableEq

/-- What the cache holds under a key. -/
inductive Entry where
  /-- A document, and its time to live unless it was put there by hand. -/
  | document (j : Json) (ttl : Option Int)
  /-- A text that is no document. -/
  | text (s : String)

/-- The entry of a text that was put there by hand. -/
def Entry.ofText (s : String) : Entry :=
  match Json.ofString? s with
  | some j => .document j none
  | none => .text s

/-- The greatest nesting of a snapshot. -/
def maxSnapshotNesting : Nat := 200

/-- The document of an entry that can be a snapshot: it is not nested too deep and holds no lone
surrogate. -/
def Entry.snapshot? : Entry → Option Json
  | document j _ =>
    if j.nesting ≤ maxSnapshotNesting ∧ j.unencodable? = none then some j else none
  | text _ => none

/-- A snapshot cache. -/
structure Cache where
  /-- The time to live of new entries; the service does not use the cache unless it is positive. -/
  ttl : Int
  entries : List (String × Entry) := []
  failsGet : Bool := false
  failsSet : Bool := false

namespace Cache

/-- The entry under a key. -/
def entry? (c : Cache) (key : String) : Option Entry :=
  (c.entries.find? (·.1 == key)).map (·.2)

/-- The cache without what it holds under a key. -/
def erase (c : Cache) (key : String) : Cache :=
  { c with entries := c.entries.filter (·.1 != key) }

/-- The cache with an entry under a key. -/
def insert (c : Cache) (key : String) (e : Entry) : Cache :=
  { c with entries := (c.erase key).entries ++ [(key, e)] }

/-- The snapshot under a key; none while reading fails. -/
def load? (c : Cache) (key : String) : Option Json :=
  if c.failsGet then none else (c.entry? key).bind (·.snapshot?)

/-- The cache after a document was stored; unchanged while writing fails. -/
def store (c : Cache) (key : String) (j : Json) : Cache :=
  if c.failsSet then c else c.insert key (.document j (some c.ttl))

end Cache

/-- The collaborators as the service meets them. -/
structure Collaborators where
  answer : String → Answer
  cache : Cache
  calls : List Call := []

/-- A computation that may ask the collaborators. -/
abbrev Lookup (ε α : Type) := ExceptT ε (StateM Collaborators) α

/-- A collaborator's own error. -/
inductive Error where
  | companyNotFound (company : Int)
  | serviceNotFound (service company : Int)
  | vehicleNotSelected (user : Int)
  | refused (path : String)
  | timedOut (path : String)
  | unexpectedStatus (path : String) (status : Int)
  /-- The body is no document, or not one that describes the subject. -/
  | unusable (subject : Refusal.Subject)
  /-- The body is nested too deep. -/
  | tooDeep (c : Json.Container)
  /-- A snapshot cannot be encoded for the cache. -/
  | unwritable (u : Text.Unencodable)
deriving DecidableEq

/-- The message of a collaborator's error. -/
def Error.message : Error → String
  | companyNotFound company => "company " ++ toString company
  | serviceNotFound service company =>
    "service " ++ toString service ++ " of company " ++ toString company
  | vehicleNotSelected user => "user " ++ toString user
  | refused path => "GET " ++ path ++ ": refused"
  | timedOut path => "GET " ++ path ++ ": timed out"
  | unexpectedStatus path status => "GET " ++ path ++ ": unexpected status " ++ toString status
  | unusable .company => "invalid Company payload"
  | unusable .service => "invalid Service payload"
  | unusable .vehicle => "invalid Vehicle payload"
  | tooDeep c => (Failure.tooDeep c).message
  | unwritable u => (Failure.unwritable u).message

/-! ## Asking -/

/-- What an answer says about a subject: status 404 means that it is not there, whatever the body;
any other status outside 200 to 299 is unusable, and so is a body without a document. -/
def Answer.read {α : Type} (a : Answer) (path : String) (subject : Refusal.Subject)
    (absent : Error) (ofJson? : Json → Option α) : Except Error α :=
  match a with
  | .refused => .error (.refused path)
  | .timedOut => .error (.timedOut path)
  | .reply status body =>
    if status = 404 then .error absent
    else if 200 ≤ status ∧ status ≤ 299 then
      match body with
      | .ok j =>
        match ofJson? j with
        | some v => .ok v
        | none => .error (.unusable subject)
      | .error (.nesting c) => .error (.tooDeep c)
      | .error _ => .error (.unusable subject)
    else .error (.unexpectedStatus path status)

/-- Notes a call. -/
def note {ε : Type} (call : Call) : Lookup ε Unit :=
  modify fun c => { c with calls := c.calls ++ [call] }

/-- Asks a path about a subject. -/
def ask {α : Type} (path : String) (subject : Refusal.Subject) (absent : Error)
    (ofJson? : Json → Option α) : Lookup Error α := do
  note (.get path)
  (((← get).answer path).read path subject absent ofJson? : Except Error α)

/-- Stores a snapshot, which has to be encoded first. -/
def keep (key : String) (snapshot : Json) : Lookup Error Unit := do
  match snapshot.unencodable? with
  | some u => throw (.unwritable u)
  | none =>
    note (.cacheSet key (← get).cache.ttl)
    modify fun c => { c with cache := c.cache.store key snapshot }

/-- Reads through the cache: an entry that describes the subject is taken as it is; otherwise the
directory is asked and what it says is stored. -/
def readThrough {α : Type} (key : String) (ofSnapshot? : Json → Option α) (snapshot : α → Json)
    (inner : Lookup Error α) : Lookup Error α := do
  let cache := (← get).cache
  if cache.ttl ≤ 0 then inner
  else
    note (.cacheGet key)
    match (cache.load? key).bind ofSnapshot? with
    | some v => return v
    | none =>
      let v ← inner
      keep key (snapshot v)
      return v

/-- The path of a company. -/
def companyPath (company : Int) : String := "/internal/companies/" ++ toString company

/-- The path of a service. -/
def servicePath (company service : Int) : String :=
  "/internal/companies/" ++ toString company ++ "/services/" ++ toString service

/-- The path of the vehicle that a user has selected. -/
def vehiclePath (user : Int) : String := "/internal/users/" ++ toString user ++ "/cars/selected"

/-- The key under which a company is cached. -/
def companyKey (company : Int) : String := "directory:company:" ++ toString company

/-- The key under which a service is cached. -/
def serviceKey (company service : Int) : String :=
  "directory:service:" ++ toString company ++ ":" ++ toString service

/-- A company. -/
def company (id : Int) : Lookup Error Company :=
  readThrough (companyKey id) Company.ofJson? Company.snapshot
    (ask (companyPath id) .company (.companyNotFound id) Company.ofJson?)

/-- A service of a company. -/
def service (company id : Int) : Lookup Error Service :=
  readThrough (serviceKey company id) Service.ofSnapshot? Service.snapshot
    (ask (servicePath company id) .service (.serviceNotFound id company) Service.ofJson?)

/-- The vehicle that a user has selected. -/
def vehicle (user : Int) : Lookup Error Vehicle :=
  ask (vehiclePath user) .vehicle (.vehicleNotSelected user) Vehicle.ofJson?

/-! ## Refusals -/

/-- The failure for a collaborator's error: what is not there is named in a refusal; an answer that
is nested too deep and a snapshot that cannot be encoded are no refusals; all else is internal. -/
def Error.failure (subject : Refusal.Subject) : Error → Failure
  | companyNotFound company => .refused (.companyNotFound company)
  | serviceNotFound service _ => .refused (.serviceNotFound service)
  | vehicleNotSelected user => .refused (.vehicleNotSelected user)
  | tooDeep c => .tooDeep c
  | unwritable u => .unwritable u
  | _ => .refused (.lookupFailed subject)

/-- A look-up whose errors are failures of the service. -/
def refusing {α : Type} (subject : Refusal.Subject) (l : Lookup Error α) : Lookup Failure α :=
  l.adapt (·.failure subject)

/-- A company, or a refusal. -/
def fetchCompany (id : Int) : Lookup Failure Company := refusing .company (company id)

/-- A service of a company, or a refusal. -/
def fetchService (company id : Int) : Lookup Failure Service :=
  refusing .service (service company id)

/-- The vehicle that a user has selected, or a refusal. -/
def fetchVehicle (user : Int) : Lookup Failure Vehicle := refusing .vehicle (vehicle user)

/-- A company, if the user manages it. -/
def fetchManaged (companyId user : Int) : Lookup Failure Company := do
  let c ← fetchCompany companyId
  if c.IsManager user then return c
  else throw (.refused (.notManager user companyId))

/-- Requires that the company has an address. -/
def requireAddress (c : Company) (address : Int) : Except Failure Unit :=
  if c.HasAddress address then .ok () else refuse (.addressNotFound address c.id)

/-- Requires that the service is offered at an address. -/
def requireOffered (s : Service) (address : Int) : Except Failure Unit :=
  if s.IsOfferedAt address then .ok () else refuse (.serviceElsewhere s.id address)

end SlotBooking.Directory
