import Mathlib.Data.List.Forall2
import SlotBooking.Proofs.RuleTable

/-!
# What a request for a change has to hold

Seven endpoints are for operations that write. What each of them takes from the header, the path,
the query and the body is stated here as a relation, apart from the order in which the values are
read and from how those that cannot be read are reported.

* `Endpoint.Writes`: the endpoints for operations that write.
* `Request.Passes`: a request is valid at an endpoint, for the operation with its values.
* `Request.operation_eq_ok`: these are the operations that are asked for.
* `Request.Repeats`: what the report on a request that is not valid holds of its body.
* `Request.operation_of_not_passes`: how such a request is rejected.
-/

namespace SlotBooking.Web

open Capacity (Field)
open Capacity.Management (Changes)
open Json.Lenient

/-- The endpoint is for an operation that writes. -/
def Endpoint.Writes : Endpoint → Prop
  | createBooking | cancelBooking _ | bookingStatus _ | createRule | updateRule _ | deleteRule _
  | deleteRuleFor => True
  | _ => False

/-! ## Readings -/

namespace Reading

variable {α β γ : Type} {a : Reading α} {b : Reading β} {p : Json → Prop}

theorem at?_eq_ok {place : Place} {o : Option α} {x : α} : at? place o = .ok x ↔ o = some x := by
  cases o <;> simp [at?]

theorem both_eq_ok {c : α × β} : both a b = .ok c ↔ a = .ok c.1 ∧ b = .ok c.2 := by
  rcases a with q | x <;> rcases b with q' | y <;> simp [both, Prod.ext_iff]

/-- What was found at the flaws of a reading has a property. -/
def Reports (p : Json → Prop) (a : Reading α) : Prop := ∀ fs, a = .error fs → ∀ f ∈ fs, p f.found

theorem Reports.ok {x : α} : Reports p (.ok x) := nofun

theorem Reports.error {place : Place} {j : Json} (h : p j) :
    Reports p (.error [⟨place, j⟩] : Reading α) := by
  rintro _ ⟨⟩ f hf
  rw [List.mem_singleton.mp hf]
  exact h

theorem Reports.at? {place : Place} {o : Option α} (h : p .null) : Reports p (at? place o) := by
  cases o with
  | none => exact .error h
  | some x => exact .ok

theorem Reports.both (ha : Reports p a) (hb : Reports p b) : Reports p (both a b) := by
  intro fs h f hf
  rcases a with q | x <;> rcases b with q' | y <;> cases h
  · exact (List.mem_append.mp hf).elim (ha q rfl f) (hb q' rfl f)
  · exact ha fs rfl f hf
  · exact hb fs rfl f hf

theorem Reports.map {g : α → γ} (ha : Reports p a) : Reports p (a.map g) := by
  rcases a with q | x
  · rintro _ ⟨⟩
    exact ha q rfl
  · exact .ok

theorem Reports.map₂ {g : α → β → γ} (ha : Reports p a) (hb : Reports p b) :
    Reports p (map₂ g a b) := (ha.both hb).map

end Reading

open Reading

/-! ## Bodies -/

/-- The object that a body is. -/
def Body.object? : Body → Option Json
  | .document (.obj members) => some (.obj members)
  | _ => none

/-- A member that an endpoint looks up in a body. -/
structure Member where
  name : String
  /-- The member has to be there. -/
  Required : Prop
  /-- The member can be read. -/
  Reads : Json → Prop

/-- A member that is read in a given way. -/
def Member.read {α : Type} (name : String) (required : Prop) (read? : Json → Option α) : Member :=
  ⟨name, required, fun v => (read? v).isSome⟩

/-- The members that an endpoint looks up in a body. -/
def Endpoint.members : Endpoint → List Member
  | createBooking => [.read "company_id" True int?, .read "address_id" True int?,
      .read "service_id" True int?, .read "date" True date?,
      .read "start_time" True Request.startTime?, .read "notes" False (nullable text?)]
  | cancelBooking _ => [.read "cancellation_reason" False (nullable Request.reason?)]
  | bookingStatus _ => [.read "status" True text?]
  | createRule => [.read "company_id" True int?, .read "address_id" False (nullable int?),
      .read "service_id" False (nullable int?), .read Field.slotMinutes.name True int?,
      .read Field.maxConcurrent.name True int?, .read Field.advanceDays.name False int?,
      .read Field.noticeMinutes.name False int?]
  | updateRule _ => Field.all.map fun f => .read f.name False (nullable int?)
  | _ => []

/-- A change of a term is what an object says of it, which may be `null`. -/
def Says (j : Json) (f : Field) (change : String × Option Int) : Prop :=
  change.1 = f.name ∧ ∃ v, j.member? f.name = some v ∧ nullable int? v = some change.2

namespace Request

variable {r : Request} {e : Endpoint} {op : Operation} {α : Type} {name : String}

/-- The caller, who has a positive id. -/
def callerId? (r : Request) : Option Int := (r.headers.value? "x-user-id").bind positiveOfText?

/-- What a report on a request holds of its body: nothing for a value from elsewhere, the body
itself where it is no object or lacks a member, and a member that cannot be read. -/
inductive Repeats (r : Request) (e : Endpoint) : Json → Prop
  | nothing : r.Repeats e .null
  | body {j : Json} (hj : r.content = .document j) (hn : r.content.object? = none) : r.Repeats e j
  | missing {j : Json} {m : Member} (hj : r.content.object? = some j) (hm : m ∈ e.members)
    (hr : m.Required) (hv : j.member? m.name = none) : r.Repeats e j
  | unread {j v : Json} {m : Member} (hj : r.content.object? = some j) (hm : m ∈ e.members)
    (hv : j.member? m.name = some v) (hn : ¬ m.Reads v) : r.Repeats e v

/-- A request is valid at an endpoint, and asks there for an operation. -/
inductive Passes (r : Request) : Endpoint → Operation → Prop
  | createBooking {user company address service : Int} {date : Date} {startTime : String}
    {notes : Option Text} {j : Json} (hu : r.callerId? = some user) (hj : r.content.object? = some j)
    (hc : required j "company_id" int? = some company)
    (ha : required j "address_id" int? = some address)
    (hs : required j "service_id" int? = some service) (hd : required j "date" date? = some date)
    (ht : required j "start_time" startTime? = some startTime)
    (hn : optional j "notes" text? = some notes) :
    r.Passes .createBooking (.allocate
      ⟨some user, some company, some address, some service, some date, some startTime, notes⟩)
  | cancelBooking {text : String} {id user : Int} {reason : Option String} {j : Json}
    (hu : r.callerId? = some user) (hid : intOfText? text = some id)
    (hj : r.content.object? = some j)
    (hr : optional j "cancellation_reason" reason? = some reason) :
    r.Passes (.cancelBooking text) (.cancelBooking id user reason)
  | bookingStatus {text : String} {id user : Int} {status : Text} {j : Json}
    (hu : r.callerId? = some user) (hid : intOfText? text = some id)
    (hj : r.content.object? = some j) (hs : required j "status" text? = some status) :
    r.Passes (.bookingStatus text) (.changeStatus id user status)
  | createRule {user company slotMinutes maxConcurrent advanceDays noticeMinutes : Int}
    {address service : Option Int} {j : Json} (hu : r.callerId? = some user)
    (hj : r.content.object? = some j) (hc : required j "company_id" int? = some company)
    (ha : optional j "address_id" int? = some address)
    (hs : optional j "service_id" int? = some service)
    (hslot : required j Field.slotMinutes.name int? = some slotMinutes)
    (hmax : required j Field.maxConcurrent.name int? = some maxConcurrent)
    (hdays : defaulted j Field.advanceDays.name 0 int? = some advanceDays)
    (hnotice : defaulted j Field.noticeMinutes.name 60 int? = some noticeMinutes) :
    r.Passes .createRule (.createRule user ⟨company, address, service⟩
      ⟨some slotMinutes, some maxConcurrent, some advanceDays, some noticeMinutes⟩)
  | updateRule {text : String} {id user : Int} {changes : Changes} {j : Json}
    (hu : r.callerId? = some user) (hid : intOfText? text = some id)
    (hj : r.content.object? = some j)
    (hc : List.Forall₂ (Says j) (Field.all.filter fun f => (j.member? f.name).isSome) changes) :
    r.Passes (.updateRule text) (.updateRule id user changes)
  | deleteRule {text : String} {id user : Int} (hu : r.callerId? = some user)
    (hid : intOfText? text = some id) : r.Passes (.deleteRule text) (.deleteRule id user)
  | deleteRuleFor {user company : Int} {address service : Option Int}
    (hu : r.callerId? = some user)
    (hc : (r.queryText? "company_id").bind positiveOfText? = some company)
    (ha : (r.queryText? "address_id").map positiveOfText? = address.map some)
    (hs : (r.queryText? "service_id").map positiveOfText? = service.map some) :
    r.Passes .deleteRuleFor (.deleteRuleFor ⟨company, address, service⟩ user)

/-! ## Valid requests -/

theorem content_of_readsJson (h : r.ReadsJson) : r.content = r.body := by
  unfold content
  cases r.body with
  | missing => rfl
  | document | unreadable => exact if_pos h

theorem caller_eq_ok {user : Int} : r.caller = .ok user ↔ r.callerId? = some user := at?_eq_ok

theorem queryOption_eq_ok {read? : String → Option α} {o : Option α} :
    r.queryOption name read? = .ok o ↔ (r.queryText? name).map read? = o.map some := by
  unfold queryOption
  cases r.queryText? name with
  | none => cases o <;> simp
  | some s => cases h : read? s <;> cases o <;> simp [at?, h]

theorem bodyObject_eq_ok {read : Json → Reading α} {a : α} :
    r.bodyObject read = .ok a ↔ ∃ j, r.content.object? = some j ∧ read j = .ok a := by
  unfold bodyObject Body.object?
  split <;> simp_all

theorem present_eq_ok {v : Json} {read? : Json → Option α} {a : α} :
    present name v read? = .ok a ↔ read? v = some a := by
  unfold present
  cases read? v <;> simp

theorem member_eq_ok {j : Json} {read? : Json → Option α} {a : α} :
    member j name read? = .ok a ↔ required j name read? = some a := by
  unfold member required
  cases j.member? name with
  | none => simp
  | some v => exact present_eq_ok

theorem memberDefault_eq_ok {j : Json} {d : α} {read? : Json → Option α} {a : α} :
    memberDefault j name d read? = .ok a ↔ defaulted j name d read? = some a := by
  unfold memberDefault defaulted
  cases j.member? name with
  | none => simp
  | some v => exact present_eq_ok

theorem memberOption_eq_ok {j : Json} {read? : Json → Option α} {o : Option α} :
    memberOption j name read? = .ok o ↔ optional j name read? = some o := memberDefault_eq_ok

theorem termChange_of_none {j : Json} {f : Field} (h : j.member? f.name = none) :
    termChange j f = .ok [] := by
  unfold termChange
  rw [h]

theorem termChange_of_some {j v : Json} {f : Field} (h : j.member? f.name = some v) :
    termChange j f = (present f.name v (nullable int?)).map fun n => [(f.name, n)] := by
  unfold termChange
  rw [h]

/-- The changes that an object makes are those that it says, term by term. -/
theorem foldr_termChange_eq_ok_iff {j : Json} {fs : List Field} {changes : Changes} :
    fs.foldr (fun f rest => map₂ (· ++ ·) (termChange j f) rest) (.ok []) = .ok changes ↔
      List.Forall₂ (Says j) (fs.filter fun f => (j.member? f.name).isSome) changes := by
  induction fs generalizing changes with
  | nil => simp [eq_comm]
  | cons f fs ih =>
    rw [List.foldr_cons, map₂_eq_ok]
    cases hv : j.member? f.name with
    | none => simp [termChange_of_none hv, hv, ih]
    | some v =>
      rw [List.filter_cons_of_pos (by simp [hv]), termChange_of_some hv]
      simp only [map_eq_ok, present_eq_ok, ih, List.forall₂_cons_left_iff, Says, hv]
      constructor
      · rintro ⟨_, rest, ⟨n, hn, rfl⟩, hrest, rfl⟩
        exact ⟨(f.name, n), rest, ⟨rfl, v, rfl, hn⟩, hrest, rfl⟩
      · rintro ⟨⟨_, n⟩, rest, ⟨rfl, _, ⟨⟩, hn⟩, hrest, rfl⟩
        exact ⟨[(f.name, n)], rest, ⟨n, hn, rfl⟩, hrest, rfl⟩

/-- At an endpoint for an operation that writes, an operation is only read from a valid request. -/
theorem passes_of_readOperation (he : e.Writes) (h : r.readOperation e = .ok (some op)) :
    r.Passes e op := by
  cases e with
  | createBooking =>
    simp only [readOperation, bookingRequest, map₂_eq_ok, caller_eq_ok, bodyObject_eq_ok,
      both_eq_ok, member_eq_ok, memberOption_eq_ok] at h
    obtain ⟨user, _, hu, ⟨j, hj, _, _, ⟨hc, ha, hs⟩, ⟨hd, ht, hn⟩, rfl⟩, h⟩ := h
    cases h
    exact .createBooking hu hj hc ha hs hd ht hn
  | cancelBooking text =>
    simp only [readOperation, map₂_eq_ok, caller_eq_ok, bodyObject_eq_ok, both_eq_ok, pathId,
      at?_eq_ok, memberOption_eq_ok] at h
    obtain ⟨_, reason, ⟨hu, hid⟩, ⟨j, hj, hr⟩, h⟩ := h
    cases h
    exact .cancelBooking hu hid hj hr
  | bookingStatus text =>
    simp only [readOperation, map₂_eq_ok, caller_eq_ok, bodyObject_eq_ok, both_eq_ok, pathId,
      at?_eq_ok, member_eq_ok] at h
    obtain ⟨_, status, ⟨hu, hid⟩, ⟨j, hj, hs⟩, h⟩ := h
    cases h
    exact .bookingStatus hu hid hj hs
  | createRule =>
    simp only [readOperation, ruleDraft, map₂_eq_ok, caller_eq_ok, bodyObject_eq_ok, both_eq_ok,
      member_eq_ok, memberOption_eq_ok, memberDefault_eq_ok] at h
    obtain ⟨user, ⟨_, _⟩, hu, ⟨j, hj, ⟨_, _, hc, ⟨ha, hs⟩, rfl⟩, _, _, ⟨hslot, hmax⟩,
      ⟨hdays, hnotice⟩, rfl⟩, h⟩ := h
    cases h
    exact .createRule hu hj hc ha hs hslot hmax hdays hnotice
  | updateRule text =>
    simp only [readOperation, ruleChanges, map₂_eq_ok, caller_eq_ok, bodyObject_eq_ok, both_eq_ok,
      pathId, at?_eq_ok, foldr_termChange_eq_ok_iff] at h
    obtain ⟨_, changes, ⟨hu, hid⟩, ⟨j, hj, hc⟩, h⟩ := h
    cases h
    exact .updateRule hu hid hj hc
  | deleteRule text =>
    simp only [readOperation, map₂_eq_ok, caller_eq_ok, pathId, at?_eq_ok] at h
    obtain ⟨user, id, hu, hid, h⟩ := h
    cases h
    exact .deleteRule hu hid
  | deleteRuleFor =>
    simp only [readOperation, queryScope, queryValue, map₂_eq_ok, caller_eq_ok, both_eq_ok,
      at?_eq_ok, queryOption_eq_ok] at h
    obtain ⟨user, _, hu, ⟨company, _, hc, ⟨ha, hs⟩, rfl⟩, h⟩ := h
    cases h
    exact .deleteRuleFor hu hc ha hs
  | _ => exact he.elim

/-- From a valid request its operation is read. -/
theorem Passes.readOperation (h : r.Passes e op) : r.readOperation e = .ok (some op) := by
  cases h with
  | createBooking hu hj hc ha hs hd ht hn =>
    simp only [Request.readOperation, bookingRequest, map₂_eq_ok, caller_eq_ok, bodyObject_eq_ok,
      both_eq_ok, member_eq_ok, memberOption_eq_ok]
    exact ⟨_, _, hu, ⟨_, hj, (_, _, _), (_, _, _), ⟨hc, ha, hs⟩, ⟨hd, ht, hn⟩, rfl⟩, rfl⟩
  | cancelBooking hu hid hj hr =>
    simp only [Request.readOperation, map₂_eq_ok, caller_eq_ok, bodyObject_eq_ok, both_eq_ok,
      pathId, at?_eq_ok, memberOption_eq_ok]
    exact ⟨(_, _), _, ⟨hu, hid⟩, ⟨_, hj, hr⟩, rfl⟩
  | bookingStatus hu hid hj hs =>
    simp only [Request.readOperation, map₂_eq_ok, caller_eq_ok, bodyObject_eq_ok, both_eq_ok,
      pathId, at?_eq_ok, member_eq_ok]
    exact ⟨(_, _), _, ⟨hu, hid⟩, ⟨_, hj, hs⟩, rfl⟩
  | createRule hu hj hc ha hs hslot hmax hdays hnotice =>
    simp only [Request.readOperation, ruleDraft, map₂_eq_ok, caller_eq_ok, bodyObject_eq_ok,
      both_eq_ok, member_eq_ok, memberOption_eq_ok, memberDefault_eq_ok]
    exact ⟨_, (_, _), hu, ⟨_, hj, ⟨_, (_, _), hc, ⟨ha, hs⟩, rfl⟩, (_, _), (_, _), ⟨hslot, hmax⟩,
      ⟨hdays, hnotice⟩, rfl⟩, rfl⟩
  | updateRule hu hid hj hc =>
    simp only [Request.readOperation, ruleChanges, map₂_eq_ok, caller_eq_ok, bodyObject_eq_ok,
      both_eq_ok, pathId, at?_eq_ok, foldr_termChange_eq_ok_iff]
    exact ⟨(_, _), _, ⟨hu, hid⟩, ⟨_, hj, hc⟩, rfl⟩
  | deleteRule hu hid =>
    simp only [Request.readOperation, map₂_eq_ok, caller_eq_ok, pathId, at?_eq_ok]
    exact ⟨_, _, hu, hid, rfl⟩
  | deleteRuleFor hu hc ha hs =>
    simp only [Request.readOperation, queryScope, queryValue, map₂_eq_ok, caller_eq_ok, both_eq_ok,
      at?_eq_ok, queryOption_eq_ok]
    exact ⟨_, _, hu, ⟨_, (_, _), hc, ⟨ha, hs⟩, rfl⟩, rfl⟩

theorem operation_of_readable (h : e.HasBody → ∀ f, r.content ≠ .unreadable f) :
    r.operation e = (r.readOperation e).mapError .flaws := by
  unfold operation
  split
  · rename_i f hf
    exact if_neg fun he => h he f hf
  · rfl

theorem Passes.readable (h : r.Passes e op) (he : e.HasBody) (f : Json.Fault) :
    r.content ≠ .unreadable f := by
  have hobject : ∃ j, r.content.object? = some j := by
    cases h with
    | createBooking _ hj | cancelBooking _ _ hj | bookingStatus _ _ hj | createRule _ hj
    | updateRule _ _ hj => exact ⟨_, hj⟩
    | deleteRule | deleteRuleFor => exact he.elim
  intro hf
  rw [hf] at hobject
  obtain ⟨j, hj⟩ := hobject
  cases hj

/-- At an endpoint for an operation that writes, the operations that are asked for are those of
valid requests. -/
theorem operation_eq_ok (he : e.Writes) : r.operation e = .ok (some op) ↔ r.Passes e op := by
  constructor
  · exact fun h => passes_of_readOperation he (readOperation_of_operation h)
  · intro h
    rw [operation_of_readable h.readable, h.readOperation]
    rfl

/-! ## Requests that are not valid -/

/-- The body of a request, which the endpoint reads, cannot be read, and this is not for its
grammar. -/
def Unparsable (r : Request) (e : Endpoint) : Prop :=
  e.HasBody ∧ ∃ f, r.content = .unreadable f ∧ f ≠ .malformed

theorem operation_of_unparsable (h : r.Unparsable e) : r.operation e = .error .body := by
  obtain ⟨he, f, hf, hne⟩ := h
  unfold operation
  rw [hf]
  dsimp only
  rw [if_pos he, if_neg hne]

section Reports

variable {j : Json} {read? : Json → Option α}

theorem bodyObject_reports {read : Json → Reading α}
    (h : ∀ j, r.content.object? = some j → Reports (r.Repeats e) (read j)) :
    Reports (r.Repeats e) (r.bodyObject read) := by
  unfold bodyObject
  split
  · rename_i members hb
    exact h _ (by rw [hb]; rfl)
  · rename_i j hno hb
    refine .error (.body hb ?_)
    rw [hb]
    unfold Body.object?
    split
    · rename_i members hj
      cases hj
      exact absurd rfl (hno members)
    · rfl
  · exact .error .nothing

theorem present_reports {v : Json} {required : Prop} (hj : r.content.object? = some j)
    (hm : Member.read name required read? ∈ e.members) (hv : j.member? name = some v) :
    Reports (r.Repeats e) (present name v read?) := by
  unfold present
  cases h : read? v with
  | some a => exact .ok
  | none => exact .error (.unread hj hm hv (by simp [Member.read, h]))

theorem member_reports (hj : r.content.object? = some j)
    (hm : Member.read name True read? ∈ e.members) :
    Reports (r.Repeats e) (member j name read?) := by
  unfold member
  cases hv : j.member? name with
  | some v => exact present_reports hj hm hv
  | none => exact .error (.missing hj hm trivial hv)

theorem memberDefault_reports {d : α} (hj : r.content.object? = some j)
    (hm : Member.read name False read? ∈ e.members) :
    Reports (r.Repeats e) (memberDefault j name d read?) := by
  unfold memberDefault
  cases hv : j.member? name with
  | some v => exact present_reports hj hm hv
  | none => exact .ok

theorem foldr_termChange_reports {fs : List Field} (hj : r.content.object? = some j)
    (hm : ∀ f ∈ fs, Member.read f.name False (nullable int?) ∈ e.members) :
    Reports (r.Repeats e)
      (fs.foldr (fun f rest => map₂ (· ++ ·) (termChange j f) rest) (.ok [])) := by
  induction fs with
  | nil => exact .ok
  | cons f fs ih =>
    refine .map₂ ?_ (ih fun g hg => hm g (List.mem_cons_of_mem f hg))
    cases hv : j.member? f.name with
    | none =>
      rw [termChange_of_none hv]
      exact .ok
    | some v =>
      rw [termChange_of_some hv]
      exact (present_reports hj (hm f List.mem_cons_self) hv).map

end Reports

theorem queryOption_reports {read? : String → Option α} :
    Reports (r.Repeats e) (r.queryOption name read?) := by
  unfold queryOption
  split
  · exact .ok
  · exact .at? .nothing

/-- At an endpoint for an operation that writes, a report repeats nothing else. -/
theorem readOperation_reports (he : e.Writes) :
    Reports (r.Repeats e) (r.readOperation e) := by
  have hcaller : Reports (r.Repeats e) r.caller := .at? .nothing
  have hid (text : String) : Reports (r.Repeats e) (both r.caller (pathId "id" text)) :=
    hcaller.both (.at? .nothing)
  unfold readOperation
  cases e with
  | createBooking =>
    refine hcaller.map₂ (bodyObject_reports fun j hj => .map₂ (.both ?_ (.both ?_ ?_))
      (.both ?_ (.both ?_ (memberDefault_reports hj (by simp [Endpoint.members])))))
    all_goals exact member_reports hj (by simp [Endpoint.members])
  | cancelBooking text =>
    refine (hid text).map₂ (bodyObject_reports fun j hj => ?_)
    exact memberDefault_reports hj List.mem_cons_self
  | bookingStatus text =>
    refine (hid text).map₂ (bodyObject_reports fun j hj => ?_)
    exact member_reports hj List.mem_cons_self
  | createRule =>
    refine hcaller.map₂ (bodyObject_reports fun j hj => .both (.map₂ ?_ (.both ?_ ?_))
      (.map₂ (.both ?_ ?_) (.both ?_ ?_)))
    all_goals first
      | exact member_reports hj (by simp [Endpoint.members])
      | exact memberDefault_reports hj (by simp [Endpoint.members])
  | updateRule text =>
    refine (hid text).map₂ (bodyObject_reports fun j hj => foldr_termChange_reports hj ?_)
    exact fun f hf => List.mem_map_of_mem hf
  | deleteRule text => exact hcaller.map₂ (.at? .nothing)
  | deleteRuleFor =>
    exact hcaller.map₂ (.map₂ (.at? .nothing) (queryOption_reports.both queryOption_reports))
  | _ => exact he.elim

theorem readOperation_ne_none (he : e.Writes) : r.readOperation e ≠ .ok none := by
  intro h
  cases e <;> simp only [readOperation, map₂_eq_ok] at h
  case createBooking | cancelBooking | bookingStatus | createRule | updateRule | deleteRule
      | deleteRuleFor =>
    obtain ⟨x, y, -, -, h⟩ := h
    cases h
  all_goals exact he

/-- A request that is not valid is rejected, unless it is unparsable, with flaws that repeat nothing
else of its body. -/
theorem operation_of_not_passes (he : e.Writes) (hp : ∀ op, ¬ r.Passes e op)
    (hu : ¬ r.Unparsable e) :
    ∃ fs, r.operation e = .error (.flaws fs) ∧ ∀ f ∈ fs, r.Repeats e f.found := by
  by_cases hbody : e.HasBody ∧ ∃ f, r.content = .unreadable f
  · -- The body does not follow the grammar.
    obtain ⟨hhas, f, hf⟩ := hbody
    have hmalformed : f = .malformed := Decidable.byContradiction fun hne => hu ⟨hhas, f, hf, hne⟩
    refine ⟨[⟨.body, .null⟩], ?_, fun f' hf' => ?_⟩
    · unfold operation
      rw [hf]
      dsimp only
      rw [if_pos hhas, if_pos hmalformed]
    · rw [List.mem_singleton.mp hf']
      exact .nothing
  · have hop := operation_of_readable fun hhas f hf => hbody ⟨hhas, f, hf⟩
    cases hread : r.readOperation e with
    | error fs =>
      rw [hread] at hop
      exact ⟨fs, hop, readOperation_reports he fs hread⟩
    | ok op? =>
      cases op? with
      | none => exact absurd hread (readOperation_ne_none he)
      | some op => exact absurd (passes_of_readOperation he hread) (hp op)

end Request

end SlotBooking.Web
