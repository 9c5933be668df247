import SlotBooking.Proofs.Validation
import SlotBooking.Proofs.Withdrawal

/-!
# Web requests that write

A valid web request for an operation that writes does what the operation does, and its answer shows
what the operation ended with. One that is not valid does nothing. Nothing else happens on the way.

* `handle_of_passes`, `handle_of_rejected`: what a request comes to.
* `Response.Shows`: an answer shows what an operation ended with.
* `handle_store_of_failed`: an answer that reports a failure leaves the store.
* `handle_writes`: the main statement.
* `rejected_otherwise`: requests that are not valid and are not reported place by place.
-/

namespace SlotBooking

/-! ## Rows as JSON -/

theorem Json.finite_ofOption_str (t : Option Text) :
    (Json.ofOption .str t).finite = Json.ofOption .str t := by
  cases t <;> rfl

theorem Json.finite_ofOption_int (n : Option Int) :
    (Json.ofOption .int n).finite = Json.ofOption .int n := by
  cases n <;> rfl

/-- A booking at a finite price can be shown as it is. -/
theorem Booking.finite_toJson {b : Booking} (h : b.price.IsFinite) : b.toJson.finite = b.toJson := by
  have htime : (Json.ofOption (fun t : Instant => .str t.text) b.cancelledAt).finite =
      Json.ofOption (fun t : Instant => .str t.text) b.cancelledAt := by
    cases b.cancelledAt <;> rfl
  simp [toJson, Json.finite, Json.finiteMembers, Json.finite_ofOption_str, htime, h]

/-- A rule can be shown as it is. -/
theorem Capacity.Rule.finite_toJson (r : Rule) : r.toJson.finite = r.toJson := by
  simp [toJson, source, Terms.members, Field.all, Json.finite, Json.finiteMembers,
    Json.finite_ofOption_int]

theorem Binary64.isFinite_dropZeroSign {x : Binary64} (h : x.IsFinite) :
    x.dropZeroSign.IsFinite := by
  unfold dropZeroSign
  split
  · decide
  · exact h

/-! ## Prices -/

/-- Every service that is found has no price or a finite one. -/
def Directory.Collaborators.PricesFinite (k : Collaborators) : Prop :=
  ∀ company id v, (service company id).value k = .ok v → ∀ p ∈ v.price, p.IsFinite

/-- A row that an operation ended with is stored at a price that is not finite. -/
def Store.HoldsInfinitePrice (s : Store) (out : Outcome) : Prop :=
  ∃ id b b', s.booking id = .ok b ∧ ¬ b.price.IsFinite ∧ out = .booking b' ∧ b'.id = b.id ∧
    b'.price = b.price

/-- A row that keeps the id and the price that it is stored with can be shown as it is, unless this
price is not finite. -/
theorem Store.finite_or_holdsInfinitePrice {s : Store} {id : Int} {b b' : Booking}
    (hb : s.booking id = .ok b) (hid : b'.id = b.id) (hprice : b'.price = b.price) :
    b'.toJson.finite = b'.toJson ∨ s.HoldsInfinitePrice (.booking b') := by
  by_cases hfinite : b.price.IsFinite
  · exact .inl (Booking.finite_toJson (hprice ▸ hfinite))
  · exact .inr ⟨id, b, b', hb, hfinite, rfl, hid, hprice⟩

/-- A booking is made at a finite price, where services have finite ones. -/
theorem Admission.price_isFinite {w : World} {r : Request} {b : Booking}
    (h : (w.perform (.allocate r)).1 = .ok (.booking b)) (hk : w.collaborators.PricesFinite) :
    b.price.IsFinite := by
  obtain ⟨-, rows, -, hb, -⟩ := committed h
  obtain ⟨s, ⟨company, -, id, -, hs⟩, -, hprice⟩ := hb.offer
  unfold Directory.fetchService at hs
  rw [Directory.Lookup.value_refusing, mapError_eq_ok] at hs
  rw [hprice]
  refine Binary64.isFinite_dropZeroSign ?_
  cases hp : s.price with
  | none => decide
  | some p => exact hk company id s hs p hp

namespace Web

variable {w : World} {r : Request} {e : Endpoint} {op : Operation} {out : Outcome}

/-! ## What requests come to -/

theorem handle_of_passes (hr : route r.method r.path = .found e) (he : e.Writes)
    (hp : r.Passes e op) : handle w r =
      ((match (w.perform op).1 with
        | .ok out => .ofOutcome e out
        | .error f => .ofFailure f), (w.perform op).2) := by
  unfold handle
  rw [hr]
  dsimp only
  rw [(Request.operation_eq_ok he).mpr hp]
  dsimp only
  rcases w.perform op with ⟨f | out, w'⟩ <;> rfl

theorem handle_of_rejected {rejection : Rejection} (hr : route r.method r.path = .found e)
    (ho : r.operation e = .error rejection) : handle w r = (.ofRejection rejection, w) := by
  unfold handle
  rw [hr]
  dsimp only
  rw [ho]

/-- An answer shows what an operation ended with: its status is one of success, and its body is the
row, if there is one, as it is. Only a price that a row was stored with before, and that is not
finite, is shown as `null`. -/
def Response.Shows (a : Response) (s : Store) (out : Outcome) : Prop :=
  a.Succeeds ∧ a.body = out.toJson.finite ∧ (a.body = out.toJson ∨ s.HoldsInfinitePrice out)

/-- A valid request is answered with what its operation ended with. -/
theorem Response.shows_ofOutcome (hp : r.Passes e op) (ho : (w.perform op).1 = .ok out)
    (hk : w.collaborators.PricesFinite) : (ofOutcome e out).Shows w.store out := by
  -- Whether the row can be shown as it is.
  have hrow : bodyOf out = out.toJson ∧
      (out.toJson.finite = out.toJson ∨ w.store.HoldsInfinitePrice out) := by
    have heffect := World.effect_of_ok ho
    generalize (w.perform op).2.store = s' at heffect
    cases heffect with
    | read hread => cases hp <;> exact hread.elim
    | admitted =>
      exact ⟨rfl, .inl (Booking.finite_toJson (Admission.price_isFinite ho hk))⟩
    | cancelled _ hb | statusSet _ hb =>
      exact ⟨rfl, Store.finite_or_holdsInfinitePrice hb rfl rfl⟩
    | ruleAdded | ruleChanged => exact ⟨rfl, .inl (Capacity.Rule.finite_toJson _)⟩
    | ruleErased | ruleErasedFor => exact ⟨rfl, .inl rfl⟩
  obtain ⟨hbody, hfinite⟩ := hrow
  refine ⟨succeeds_ofOutcome e out, congrArg Json.finite hbody, hfinite.imp_left fun h => ?_⟩
  exact (congrArg Json.finite hbody).trans h

/-- An answer that reports a failure leaves the store. -/
theorem handle_store_of_failed (h : 400 ≤ (handle w r).1.status) :
    (handle w r).2.store = w.store := by
  cases ha : r.asked? with
  | none => rw [handle_of_asked_none ha]
  | some op =>
    obtain ⟨hworld, hsucceeds⟩ := handle_of_asked (w := w) ha
    rw [hworld]
    obtain ⟨f, -, hstore⟩ | ⟨out, hout, -⟩ := w.perform_cases op
    · exact hstore
    · have hstatus := (hsucceeds.mpr ⟨out, hout⟩).2
      omega

/-- **Web requests that write.** A valid request at an endpoint for an operation that writes leaves
the tables and the collaborators as the operation does that it asks for; its answer shows what the
operation ended with, or the kind, the code and the message of its refusal. A request that is not
valid asks no collaborator and leaves the tables; it is answered with status 400 if it is
unparsable, and otherwise with status 422, provided that standard JSON can hold what the report
repeats of its body. No answer that reports a failure changes the tables. -/
theorem handle_writes (w : World) (r : Request) (e : Endpoint)
    (hr : route r.method r.path = .found e) (he : e.Writes)
    (hk : w.collaborators.PricesFinite) :
    (∀ op, r.Passes e op → (handle w r).2 = (w.perform op).2 ∧
      (∀ out, (w.perform op).1 = .ok out → (handle w r).1.Shows w.store out) ∧
      ∀ x, (w.perform op).1 = .error (.refused x) → (handle w r).1 = ⟨statusOfKind x.kind,
        .obj [("code", .str x.code.name), ("message", .str x.message)]⟩) ∧
    ((∀ op, ¬ r.Passes e op) → (handle w r).2 = w ∧
      (r.Unparsable e → (handle w r).1.status = 400) ∧
      (¬ r.Unparsable e → (∀ j, r.Repeats e j → j.IsStandard) → (handle w r).1.status = 422)) ∧
    (400 ≤ (handle w r).1.status → (handle w r).2.store = w.store) := by
  refine ⟨fun op hp => ?_, fun hp => ?_, handle_store_of_failed⟩
  · rw [handle_of_passes hr he hp]
    refine ⟨rfl, fun out ho => ?_, fun x hx => ?_⟩
    · rw [ho]
      exact Response.shows_ofOutcome hp ho hk
    · rw [hx]
      rfl
  · by_cases hu : r.Unparsable e
    · rw [handle_of_rejected hr (Request.operation_of_unparsable hu)]
      exact ⟨rfl, fun _ => rfl, fun hn => absurd hu hn⟩
    · obtain ⟨fs, ho, hfs⟩ := Request.operation_of_not_passes he hp hu
      rw [handle_of_rejected hr ho]
      refine ⟨rfl, fun h => absurd h hu, fun _ hstandard => ?_⟩
      have hall : ∀ f ∈ fs, f.found.IsStandard := fun f hf => hstandard _ (hfs f hf)
      unfold Response.ofRejection
      dsimp only
      rw [if_pos hall]
      rfl

section Sample

open Admission (sampleRequest sampleWorld)

/-- A web request for the slot at 10:00. -/
def sampleBookingRequest : Request where
  method := "POST"
  path := "/bookings"
  headers := [("X-User-ID", "7"), ("Content-Type", "application/json; charset=utf-8")]
  body := .document (.obj [("company_id", .int 1), ("address_id", .int 1), ("service_id", .int 1),
    ("date", .str "2026-03-05"), ("start_time", .str "10:00")])

theorem sample_passes : sampleBookingRequest.Passes .createBooking (.allocate sampleRequest) := by
  have hjson : sampleBookingRequest.ReadsJson := by decide +kernel
  refine .createBooking (j := .obj [("company_id", .int 1), ("address_id", .int 1),
    ("service_id", .int 1), ("date", .str "2026-03-05"), ("start_time", .str "10:00")])
    ?_ (congrArg Body.object? (Request.content_of_readsJson hjson)) ?_ ?_ ?_ ?_ ?_ ?_ <;>
    decide +kernel

theorem sample_pricesFinite : (sampleWorld "" false).collaborators.PricesFinite :=
  fun _ _ _ hv => sample_price hv

/-- The slot at 10:00 is booked by the web request, as it is by the operation. -/
theorem handle_writes_sample : ∃ b,
    ((sampleWorld "" false).perform (.allocate sampleRequest)).1 = .ok (.booking b) ∧
    (handle (sampleWorld "" false) sampleBookingRequest).2 =
      ((sampleWorld "" false).perform (.allocate sampleRequest)).2 ∧
    (handle (sampleWorld "" false) sampleBookingRequest).1.Shows (sampleWorld "" false).store
      (.booking b) := by
  obtain ⟨b, hb⟩ := (Admission.perform_ok_iff (Admission.sample_fits "" false)).mpr
    fun _ => Admission.sample_met "" false (fun _ => rfl) fun _ => rfl
  obtain ⟨hworld, hshows, -⟩ := (handle_writes (sampleWorld "" false) sampleBookingRequest
    .createBooking (by decide) trivial sample_pricesFinite).1 _ sample_passes
  exact ⟨b, hb, hworld, hshows _ hb⟩

/-- As plain text the same body is not read. -/
example : (handle (sampleWorld "" false) { sampleBookingRequest with
    headers := [("X-User-ID", "7"), ("Content-Type", "text/plain")] }).1.status = 422 := by
  decide +kernel

/-- A web request for a status, with a body of that text. -/
def statusRequest (text : String) : Request where
  method := "PATCH"
  path := "/bookings/1/status"
  headers := [("X-User-ID", "7")]
  body := .ofText text

/-- A request is not valid whose body is in no encoding, or names as its status what is no number;
neither is answered with status 422. -/
theorem rejected_otherwise :
    route "PATCH" "/bookings/1/status" = .found (.bookingStatus "1") ∧
    (sampleWorld "" false).collaborators.PricesFinite ∧
    (∀ text ∈ ["\x00abcd", "\x7b\"status\": NaN\x7d"], ∀ op,
      ¬ (statusRequest text).Passes (.bookingStatus "1") op) ∧
    (handle (sampleWorld "" false) (statusRequest "\x00abcd")).1.status = 400 ∧
    (handle (sampleWorld "" false) (statusRequest "\x7b\"status\": NaN\x7d")).1.status = 500 := by
  refine ⟨by decide, sample_pricesFinite, fun text ht op hp => ?_, by decide +kernel,
    by decide +kernel⟩
  have hread := (Request.operation_eq_ok (e := .bookingStatus "1") trivial).mpr hp
  have hnone : ∀ text ∈ ["\x00abcd", "\x7b\"status\": NaN\x7d"],
      ((statusRequest text).operation (.bookingStatus "1")).toOption.isNone = true := by
    decide +kernel
  have h := hnone text ht
  rw [hread] at h
  cases h

end Sample

end Web

end SlotBooking
