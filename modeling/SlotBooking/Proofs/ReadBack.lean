import SlotBooking.Proofs.Independence

/-!
# Reading back what was kept

What the cache was made to keep of a company or a service is found there again as it was, but for a
price that is not finite. So a service that was booked once, when the cache did not have it, and
then once more out of the cache costs the same both times, if it costs a finite price.

* `Source.FinitelyPriced`, `Source.kept_eq_self_iff`: what loses nothing in the cache.
* `Source.held?_keep`: what the cache holds once it was made to keep a model.
* `Admission.BooksOnMiss`, `Admission.BooksOnHit`: bookings past the cache and out of it.
* `snapshots_read_back`: the main statement.
* `prices_differ_after_hit`: a price that is not finite.
-/

namespace SlotBooking

open Directory (Collaborators Lookup Service Source fetchService keep)
open Admission (Order Request)

/-! ## What is lost -/

namespace Binary64

theorem isFinite_zero : zero.IsFinite := by decide

theorem isFinite_dropZeroSign_iff {x : Binary64} : x.dropZeroSign.IsFinite ↔ x.IsFinite := by
  unfold dropZeroSign
  split
  · next h =>
    obtain ⟨bits⟩ := x
    subst h
    exact iff_of_true isFinite_zero (by decide)
  · exact Iff.rfl

end Binary64

namespace Directory

theorem Service.kept_eq_self_iff {s : Service} : s.kept = s ↔ ∀ p ∈ s.price, p.IsFinite := by
  refine ⟨fun h p hp => ?_, Service.kept_eq_self⟩
  rw [← h] at hp
  exact of_decide_eq_true (Option.filter_eq_some_iff.mp hp).2

namespace Source

/-- No price, or a finite one. Nothing but services has a price. -/
def FinitelyPriced : (s : Source) → s.Model → Prop
  | service _ _, v => ∀ p ∈ v.price, p.IsFinite
  | company _, _ | vehicle _, _ => True

variable {s : Source} {k : Collaborators} {key : String} {v : s.Model}

/-- The cache keeps all of a model exactly if its price, if there is one, is finite. -/
theorem kept_eq_self_iff : s.kept v = v ↔ s.FinitelyPriced v := by
  cases s with
  | company | vehicle => exact iff_of_true rfl trivial
  | service => exact Service.kept_eq_self_iff

theorem keep_value_eq_ok {j : Json} : (keep key j).value k = .ok () ↔ j.unencodable? = none := by
  rw [keep_value]
  cases j.unencodable? with
  | none => exact iff_of_true rfl rfl
  | some u => exact iff_of_false nofun nofun

/-- While storing works, the cache holds what it was made to keep. -/
theorem held?_keep (hkey : s.key? = some key) (hset : k.cache.failsSet = false)
    (h : (keep key (s.snapshot v)).value k = .ok ()) :
    s.held? ((keep key (s.snapshot v)).after k).cache = some (s.kept v) := by
  have hu := keep_value_eq_ok.mp h
  have hafter : ((keep key (s.snapshot v)).after k).cache = k.cache.store key (s.snapshot v) :=
    congrArg (·.2.cache) (keep_run_of_encodable hu)
  rw [hafter]
  exact held?_store hkey hset hu

/-- A read that goes past the cache puts there what it gives. -/
theorem held?_of_miss (httl : 0 < k.cache.ttl) (hset : k.cache.failsSet = false)
    (hkey : s.key? ≠ none) (hmiss : s.found? k.cache = none) (hv : s.read.value k = .ok v) :
    s.held? (s.read.after k).cache = some (s.kept v) := by
  obtain ⟨r, c, calls, hr, hvalue, hafter⟩ := s.reads k
  rw [hvalue] at hv
  rw [hafter]
  cases hr with
  | direct h => exact absurd h (by simp [hkey, Int.not_le.mpr httl])
  | hit _ _ hfound => cases hfound.symm.trans hmiss
  | failed | unwritable => cases hv
  | fetched _ hkey' _ _ hu =>
    cases hv
    exact held?_store hkey' hset hu

/-- A read of what the cache has gives that. -/
theorem read_value_of_hit (httl : 0 < k.cache.ttl) (hkey : s.key? ≠ none)
    (hhit : s.found? k.cache = some v) : s.read.value k = .ok v := by
  rw [read_value, if_neg (by simp [hkey, Int.not_le.mpr httl]), hhit]

end Source

end Directory

/-! ## What a booking leaves in the cache -/

namespace Admission

variable {w : World} {r : Request} {o : Order} {b : Booking}

theorem fetchService_value_eq_ok {company service : Int} {k : Collaborators} {v : Service} :
    (fetchService company service).value k = .ok v ↔
      (Source.service company service).read.value k = .ok v :=
  mapError_eq_ok

/-- An order that finds everything reads the company, the service and the vehicle. -/
theorem Order.lookUp_after {k : Collaborators} {x : Directory.Company × Service × Directory.Vehicle}
    (h : o.lookUp.value k = .ok x) :
    o.lookUp.after k = (Source.vehicle o.user).read.after
      ((Source.service o.company o.service).read.after
        ((Source.company o.company).read.after k)) := by
  unfold lookUp at h ⊢
  simp only [Lookup.value_bind, Lookup.after_bind, bind_eq_ok] at h ⊢
  obtain ⟨c, hc, _, ha, s, hs, _, hat, v, hv, -⟩ := h
  rw [hc]
  simp only [ha, hs, hat, hv]
  rfl

theorem allocate_after (store : Store) (now : Instant) (r : Request) (k : Collaborators) :
    (allocate store now r).after k =
      match r.order with
      | .ok o => o.lookUp.after k
      | .error _ => k := by
  unfold allocate
  rw [Lookup.after_bind, Lookup.value_lift, Lookup.after_lift]
  cases r.order with
  | error f => rfl
  | ok o =>
    simp only [Lookup.after_bind]
    cases o.lookUp.value k <;> rfl

/-- A request asks the collaborators while it is looked up, and not after that. -/
theorem perform_allocate_collaborators (w : World) (r : Request) :
    (w.perform (.allocate r)).2.collaborators =
      (allocate w.store w.now r).after w.collaborators := by
  rw [World.perform_collaborators]
  unfold Operation.run
  rw [Lookup.after_bind]
  cases (allocate w.store w.now r).value w.collaborators <;> rfl

/-- An order whose service the cache did not have leaves it there. -/
theorem Order.held?_lookUp {k : Collaborators} {c : Directory.Company} {s : Service}
    {v : Directory.Vehicle} (httl : 0 < k.cache.ttl) (hset : k.cache.failsSet = false)
    (hmiss : (Source.service o.company o.service).found? k.cache = none)
    (h : o.lookUp.value k = .ok (c, s, v)) :
    (Source.service o.company o.service).held? (o.lookUp.after k).cache = some s.kept := by
  obtain ⟨-, hs, -⟩ := lookUp_eq_ok h
  have hvehicle : Source.service o.company o.service ≠ .vehicle o.user := nofun
  have hcompany : Source.service o.company o.service ≠ .company o.company := nofun
  rw [lookUp_after h, Source.held?_read_of_ne hvehicle]
  -- The company is read before the service, which makes no difference to it.
  refine Source.held?_of_miss ?_ ?_ nofun ?_ ?_
  · rwa [Source.ttl_read]
  · rwa [Source.failsSet_read]
  · unfold Source.found? at hmiss ⊢
    rwa [Source.failsGet_read, Source.held?_read_of_ne hcompany]
  · rw [← fetchService_value_eq_ok, ← hs]
    exact Directory.fetchService_value_after

/-- In this world the request makes a booking of the service, which the cache does not have. -/
structure BooksOnMiss (owner id : Int) (w : World) (r : Request) (b : Booking) : Prop where
  company : r.company = some owner
  service : r.service = some id
  ttl : 0 < w.collaborators.cache.ttl
  missed : (Source.service owner id).found? w.collaborators.cache = none
  booked : (w.perform (.allocate r)).1 = .ok (.booking b)

/-- In this world the request makes a booking of the service, which the cache has. -/
structure BooksOnHit (owner id : Int) (v : Service) (w : World) (r : Request)
    (b : Booking) : Prop where
  company : r.company = some owner
  service : r.service = some id
  ttl : 0 < w.collaborators.cache.ttl
  hit : (Source.service owner id).found? w.collaborators.cache = some v
  booked : (w.perform (.allocate r)).1 = .ok (.booking b)

variable {owner id : Int}

/-- The booking has the name and the price of a service that the cache keeps. -/
theorem BooksOnMiss.keeps (h : BooksOnMiss owner id w r b)
    (hset : w.collaborators.cache.failsSet = false) :
    ∃ s : Service, b.serviceName = s.name ∧ b.price = (s.price.getD .zero).dropZeroSign ∧
      (Source.service owner id).held? (w.perform (.allocate r)).2.collaborators.cache =
        some s.kept := by
  obtain ⟨-, rows, -, hb, -⟩ := committed h.booked
  obtain ⟨s, hfinds, hname, hprice⟩ := hb.offer
  refine ⟨s, hname, hprice, ?_⟩
  obtain ⟨b', s', hvalue, -⟩ | ⟨f, -, hfails, -⟩ := perform_allocate w r
  · rw [allocate_value] at hvalue
    simp only [bind_eq_ok] at hvalue
    obtain ⟨o, ho, ⟨c, s', v⟩, hfound, -⟩ := hvalue
    obtain ⟨-, ⟨hco, -⟩, -, ⟨hso, -⟩, -⟩ := Request.order_eq_ok.mp ho
    cases h.company.symm.trans hco
    cases h.service.symm.trans hso
    obtain rfl : s = s' := hfinds.unique
      ((Request.findsService_iff ho).mpr (Order.lookUp_eq_ok hfound).2.1)
    rw [perform_allocate_collaborators, allocate_after, ho]
    exact Order.held?_lookUp h.ttl hset h.missed hfound
  · rw [h.booked] at hfails
    cases hfails

/-- The booking has the name and the price of the service that the cache has. -/
theorem BooksOnHit.offer {v : Service} (h : BooksOnHit owner id v w r b) :
    b.serviceName = v.name ∧ b.price = (v.price.getD .zero).dropZeroSign := by
  obtain ⟨-, rows, -, hb, -⟩ := committed h.booked
  obtain ⟨s, hfinds, hname, hprice⟩ := hb.offer
  have hhit : r.FindsService w v := ⟨owner, h.company, id, h.service,
    fetchService_value_eq_ok.mpr (Source.read_value_of_hit h.ttl nofun h.hit)⟩
  obtain rfl := hfinds.unique hhit
  exact ⟨hname, hprice⟩

end Admission

/-- A price that is not finite is read back as none, which is charged as zero. -/
theorem Directory.Service.kept_charge (s : Service) : (s.kept.price.getD .zero).dropZeroSign =
    if (s.price.getD .zero).dropZeroSign.IsFinite then (s.price.getD .zero).dropZeroSign
    else .zero := by
  simp only [Binary64.isFinite_dropZeroSign_iff]
  show ((s.price.filter fun x => decide x.IsFinite).getD .zero).dropZeroSign = _
  cases s.price with
  | none => exact (if_pos Binary64.isFinite_zero).symm
  | some p =>
    rw [Option.filter_some, Option.getD_some]
    by_cases hp : p.IsFinite
    · rw [if_pos (decide_eq_true hp), if_pos hp, Option.getD_some]
    · rw [if_neg (by simpa using hp), if_neg hp]
      rfl

/-! ## The main statement -/

/-- **Snapshots read back.** While storing works, a company or a service can be kept unless it holds
a text that cannot be encoded, and then the cache holds it as it was, but for a price that is not
finite. Where a booking was made of a service that the cache did not have, and another one of the
same service, in whatever world, out of a cache that has what was then kept, both have the same name
of the service, and the same price if that is finite; otherwise the second is free. -/
theorem snapshots_read_back (w : World) (hset : w.collaborators.cache.failsSet = false) :
    (∀ (s : Source) (key : String) (v : s.Model), s.key? = some key →
      ((keep key (s.snapshot v)).value w.collaborators = .ok () ↔
        (s.snapshot v).unencodable? = none) ∧
      ((keep key (s.snapshot v)).value w.collaborators = .ok () →
        s.held? ((keep key (s.snapshot v)).after w.collaborators).cache = some (s.kept v)) ∧
      (s.kept v = v ↔ s.FinitelyPriced v)) ∧
    ∀ (owner id : Int) (v : Service) (w' : World) (r r' : Request) (b b' : Booking),
      Admission.BooksOnMiss owner id w r b →
      (Source.service owner id).held? (w.perform (.allocate r)).2.collaborators.cache = some v →
      Admission.BooksOnHit owner id v w' r' b' →
      b'.serviceName = b.serviceName ∧ b'.price = if b.price.IsFinite then b.price else .zero := by
  constructor
  · intro s key v hkey
    exact ⟨Source.keep_value_eq_ok, Source.held?_keep hkey hset, Source.kept_eq_self_iff⟩
  · intro owner id v w' r r' b b' hmiss hheld hhit
    obtain ⟨s, hname, hprice, hkept⟩ := hmiss.keeps hset
    cases hkept.symm.trans hheld
    obtain ⟨hname', hprice'⟩ := hhit.offer
    refine ⟨hname'.trans hname.symm, ?_⟩
    rw [hprice', hprice]
    exact s.kept_charge

/-! ## A service of that price -/

section Sample

open Admission (BooksOnHit BooksOnMiss sampleCompany sampleRequest sampleService)

/-- Nothing is booked or cached yet, and the sample service has that price. -/
def pricedWorld (price : Binary64) : World where
  store := .empty
  now := emptyWorld.now
  collaborators := {
    answer := fun path =>
      if path = "/internal/companies/1/services/1" then
        .reply 200 (.ok (Service.toJson { sampleService with price := some price }))
      else emptyWorld.collaborators.answer path
    cache := { ttl := 60 } }

/-- The sample request, for the next day. -/
def nextDayRequest : Request := { sampleRequest with date := some ⟨739680, by decide⟩ }

/-- That world once the sample request has been performed. -/
def bookedWorld (price : Binary64) : World :=
  ((pricedWorld price).perform (.allocate sampleRequest)).2

/-- The price of what was booked. -/
def Outcome.price? (out : Except Failure Outcome) : Option Binary64 :=
  (Outcome.booked? (out.map Outcome.withoutId)).map (·.price)

theorem price?_eq_some {w : World} {r : Request} {p : Binary64}
    (h : Outcome.price? (w.perform (.allocate r)).1 = some p) :
    ∃ b, (w.perform (.allocate r)).1 = .ok (.booking b) ∧ b.price = p := by
  obtain ⟨b, -, -, hok, -⟩ | ⟨f, -, hfails, -⟩ := Admission.perform_allocate w r
  · rw [hok] at h
    exact ⟨b, hok, Option.some.inj h⟩
  · rw [hfails] at h
    cases h

/-- The same, without what was booked. -/
def cachedWorld (price : Binary64) : World :=
  { pricedWorld price with collaborators := (bookedWorld price).collaborators }

/-- The booking of the first day makes no difference to the price on the next. -/
theorem nextDay_price (price : Binary64) {b : Booking}
    (h : ((pricedWorld price).perform (.allocate sampleRequest)).1 = .ok (.booking b)) :
    Outcome.price? ((bookedWorld price).perform (.allocate nextDayRequest)).1 =
      Outcome.price? ((cachedWorld price).perform (.allocate nextDayRequest)).1 := by
  obtain ⟨-, rows, hrows, hb, hread, hstore⟩ := Admission.committed h
  cases hrows
  have hcollaborators : (bookedWorld price).collaborators = (cachedWorld price).collaborators := rfl
  have hnow : (bookedWorld price).now = (cachedWorld price).now := World.perform_now ..
  have hadded : (bookedWorld price).store = (cachedWorld price).store.withBookings [b] := hstore
  have hnextDay : nextDayRequest.date ≠ sampleRequest.date := by decide
  have hoverlooked : nextDayRequest.Overlooks (cachedWorld price) b :=
    ⟨hread, fun _ _ _ _ hd => absurd (hd.trans hb.date.symm) hnextDay⟩
  unfold Outcome.price?
  rw [Admission.allocate_overlooking (fun s => by rw [hcollaborators]) hnow hadded
    fun c hc => List.mem_singleton.mp hc ▸ hoverlooked]

/-- The sample service, booked on both days, the second time out of the cache. -/
theorem booked_twice {price p q : Binary64}
    (hp : Outcome.price? ((pricedWorld price).perform (.allocate sampleRequest)).1 = some p)
    (hq : Outcome.price? ((cachedWorld price).perform (.allocate nextDayRequest)).1 = some q) :
    ∃ b b' v, BooksOnMiss 1 1 (pricedWorld price) sampleRequest b ∧
      (Source.service 1 1).held? (bookedWorld price).collaborators.cache = some v ∧
      BooksOnHit 1 1 v (bookedWorld price) nextDayRequest b' ∧ b.price = p ∧ b'.price = q := by
  obtain ⟨b, hb, hprice⟩ := price?_eq_some hp
  obtain ⟨b', hb', hprice'⟩ := price?_eq_some ((nextDay_price price hb).trans hq)
  have hcaches : (0 : Int) < 60 := by decide
  have hmiss : BooksOnMiss 1 1 (pricedWorld price) sampleRequest b := ⟨rfl, rfl, hcaches, rfl, hb⟩
  obtain ⟨v, -, -, hheld⟩ := hmiss.keeps rfl
  have hasked : (pricedWorld price).collaborators.Asked (bookedWorld price).collaborators :=
    World.perform_asked ..
  have hfound :
      (Source.service 1 1).found? (bookedWorld price).collaborators.cache = some v.kept := by
    unfold Source.found?
    rw [hasked.failsGet]
    exact hheld
  have httl : 0 < (bookedWorld price).collaborators.cache.ttl := by
    rw [hasked.ttl]
    exact hcaches
  exact ⟨b, b', v.kept, hmiss, hheld, ⟨rfl, rfl, httl, hfound, hb'⟩, hprice, hprice'⟩

/-- 12.5, as binary64. -/
def sampleFare : Binary64 := ⟨0x4029000000000000⟩

/-- The sample company reads back, and at a fare of 12.5 the sample service costs the same past the
cache and out of it. -/
theorem snapshots_read_back_sample :
    (Source.company 1).held? ((keep (Directory.companyKey 1) (Directory.Company.snapshot
      sampleCompany)).after (pricedWorld sampleFare).collaborators).cache = some sampleCompany ∧
    ∃ b b', ((pricedWorld sampleFare).perform (.allocate sampleRequest)).1 = .ok (.booking b) ∧
      ((bookedWorld sampleFare).perform (.allocate nextDayRequest)).1 = .ok (.booking b') ∧
      b.price = sampleFare ∧ b'.price = sampleFare := by
  obtain ⟨hkeep, hprices⟩ := snapshots_read_back (pricedWorld sampleFare) rfl
  obtain ⟨-, hcompany, -⟩ := hkeep (.company 1) _ sampleCompany rfl
  have hfirst : Outcome.price? ((pricedWorld sampleFare).perform (.allocate sampleRequest)).1 =
      some sampleFare := by decide +kernel
  have hnext : Outcome.price? ((cachedWorld sampleFare).perform (.allocate nextDayRequest)).1 =
      some sampleFare := by decide +kernel
  obtain ⟨b, b', v, hmiss, hheld, hhit, hfare, -⟩ := booked_twice hfirst hnext
  obtain ⟨-, hsame⟩ := hprices 1 1 v _ _ _ b b' hmiss hheld hhit
  have hfinite : sampleFare.IsFinite := by decide
  rw [hfare, if_pos hfinite] at hsame
  exact ⟨hcompany rfl, b, b', hmiss.booked, hhit.booked, hfare, hsame⟩

/-- An infinite price is charged for the first booking, which is made past the cache; the next one,
out of the cache, is free. -/
theorem prices_differ_after_hit : ∃ b b' v,
    BooksOnMiss 1 1 (pricedWorld (.infinity false)) sampleRequest b ∧
    BooksOnHit 1 1 v (bookedWorld (.infinity false)) nextDayRequest b' ∧
    b.price = .infinity false ∧ b'.price = .zero := by
  have hfirst : Outcome.price? ((pricedWorld (.infinity false)).perform
      (.allocate sampleRequest)).1 = some (.infinity false) := by decide +kernel
  have hnext : Outcome.price? ((cachedWorld (.infinity false)).perform
      (.allocate nextDayRequest)).1 = some .zero := by decide +kernel
  obtain ⟨b, b', v, hmiss, -, hhit, hprice, hfree⟩ := booked_twice hfirst hnext
  exact ⟨b, b', v, hmiss, hhit, hprice, hfree⟩

end Sample

end SlotBooking
