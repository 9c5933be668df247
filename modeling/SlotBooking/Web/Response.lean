import SlotBooking.Views
import SlotBooking.Web.Request

/-!
# Answering web requests

`handle` routes a request, reads it, runs the operation that it asks for and writes what the
operation ended with. A request that cannot be routed or read changes nothing and asks no
collaborator.

* A refusal is answered with the status of its kind, its code and its message.
* Any other failure is answered with status 500 and a plain text.
* Values that cannot be read are reported by their places. The report also holds what was found
  there, so that it fails where standard JSON cannot hold that.
* A result is answered with the status of its endpoint's success. `null` stands for an infinite
  number, which a body cannot hold.
-/

namespace SlotBooking.Web

/-- An answer; a body that is empty is `null`, and one of plain text a string. -/
structure Response where
  status : Int
  body : Json

/-- The status of a kind of refusals. -/
def statusOfKind : Refusal.Kind → Int
  | .notFound => 404
  | .conflict => 409
  | .forbidden => 403
  | .invalidInput => 400
  | .businessRule => 400
  | .internal => 500

namespace Response

/-- The answer to an error that the service does not describe. -/
def serverError : Response := ⟨500, .str "Internal Server Error"⟩

/-- An answer that only says what was wrong with the route. -/
def routing (status : Int) (detail : String) : Response := ⟨status, .obj [("detail", .str detail)]⟩

/-- The answer to values that cannot be read: all places, sorted, each once. -/
def unreadable (places : List Place) : Response :=
  let texts : List String := (places.map (·.text)).eraseDups.mergeSort fun a b => decide (a ≤ b)
  ⟨422, .arr (texts.map fun s : String => .str s)⟩

/-- The answer to a request that asks for no operation. -/
def ofRejection : Rejection → Response
  | .flaws fs =>
    if ∀ f ∈ fs, f.found.IsStandard then unreadable (fs.map (·.place)) else serverError
  | .body => routing 400 "There was an error parsing the body"

/-- The answer to a failed operation. -/
def ofFailure : Failure → Response
  | .refused r =>
    ⟨statusOfKind r.kind, .obj [("code", .str r.code.name), ("message", .str r.message)]⟩
  | _ => serverError

/-- The status of success at an endpoint. -/
def successStatus : Endpoint → Int
  | .createBooking | .createRule => 201
  | .deleteRule _ | .deleteRuleFor => 204
  | _ => 200

/-- The body of an outcome. -/
def bodyOf : Outcome → Json
  | .day d => .obj d.members
  | .governing g => .obj g.members
  | outcome => outcome.toJson

/-- The answer to a successful operation. -/
def ofOutcome (e : Endpoint) (o : Outcome) : Response := ⟨successStatus e, (bodyOf o).finite⟩

/-- The answer to a check of health, which includes whether the cache can be read. -/
def health (w : World) : Response :=
  ⟨200, .obj [("status", .str "ok"), ("redis", .bool !w.collaborators.cache.failsGet)]⟩

end Response

/-- Answers a request. -/
def handle (w : World) (r : Request) : Response × World :=
  match route r.method r.path with
  | .unknown => (.routing 404 "Not Found", w)
  | .otherMethod => (.routing 405 "Method Not Allowed", w)
  | .redirect => (⟨307, .null⟩, w)
  | .found e =>
    match r.operation e with
    | .error rejection => (.ofRejection rejection, w)
    | .ok none => (.health w, w)
    | .ok (some op) =>
      match w.perform op with
      | (.ok outcome, w) => (.ofOutcome e outcome, w)
      | (.error f, w) => (.ofFailure f, w)

end SlotBooking.Web
