import SlotBooking.Proofs.Directory
import SlotBooking.Proofs.Effect
import SlotBooking.Proofs.Occupancy

/-!
# The rule of admission

A request is admitted exactly if it meets eighteen requirements. They are stated here on the
request, the store, the clock and what the collaborators say, each on its own; the order matters
only for the failure, which is that of the first requirement that is not met.

* `Decides`: a computation fails at the first requirement that is not met.
* `Requirement.Met`, `Requirement.Fails`: the requirements, and the failure of each.
* `Booked`: the row that an admission adds.
* `allocate_rule`: the rule, within the limits of the store and of the calendar.
-/

namespace SlotBooking

open Directory (Collaborators Company Service Vehicle fetchCompany fetchService fetchVehicle)

/-! ## Requirements in order -/

section Decides

variable {Q α β : Type} {Met : Q → Prop} {Fails : Q → Failure → Prop}

/-- A computation succeeds if all requirements of a list are met, and otherwise fails as the first
that is not. -/
def Decides (Met : Q → Prop) (Fails : Q → Failure → Prop) : List Q → Except Failure α → Prop
  | [], x => ∃ a, x = .ok a
  | q :: qs, x => (¬ Met q → ∃ f, Fails q f ∧ x = .error f) ∧ (Met q → Decides Met Fails qs x)

namespace Decides

variable {q : Q} {qs qs' : List Q} {x : Except Failure α}

theorem bind {f : α → Except Failure β} (h : Decides Met Fails qs x)
    (hf : ∀ a, x = .ok a → Decides Met Fails qs' (f a)) :
    Decides Met Fails (qs ++ qs') (x >>= f) := by
  induction qs with
  | nil =>
    obtain ⟨a, rfl⟩ := h
    exact hf a rfl
  | cons q qs ih =>
    refine ⟨fun hn => ?_, fun hm => ih (h.2 hm)⟩
    obtain ⟨e, he, rfl⟩ := h.1 hn
    exact ⟨e, he, rfl⟩

/-- The first step checks one requirement. -/
theorem bind_cons {f : α → Except Failure β} (h : Decides Met Fails [q] x)
    (hf : ∀ a, x = .ok a → Decides Met Fails qs (f a)) : Decides Met Fails (q :: qs) (x >>= f) :=
  h.bind hf

/-- The first step checks nothing. -/
theorem bind_nil {f : α → Except Failure β} {a : α} (h : x = .ok a)
    (hf : Decides Met Fails qs (f a)) : Decides Met Fails qs (x >>= f) := by
  rw [h]
  exact hf

/-- A requirement is checked before everything else. -/
theorem ite {e : Failure} {p : Prop} [Decidable p] {y : Except Failure α}
    (hp : Met q ↔ ¬ p) (hx : x = .error e) (he : Fails q e) (h : Decides Met Fails qs y) :
    Decides Met Fails (q :: qs) (if p then x else y) := by
  refine ⟨fun hn => ⟨e, he, ?_⟩, fun hm => ?_⟩
  · rw [if_pos (Decidable.not_not.mp fun h => hn (hp.mpr h)), hx]
  · rw [if_neg (hp.mp hm)]
    exact h

theorem isOk_iff (h : Decides Met Fails qs x) : (∃ a, x = .ok a) ↔ ∀ q ∈ qs, Met q := by
  induction qs with
  | nil => exact iff_of_true h fun q hq => absurd hq List.not_mem_nil
  | cons q qs ih =>
    rw [List.forall_mem_cons]
    by_cases hm : Met q
    · rw [ih (h.2 hm), and_iff_right hm]
    · obtain ⟨e, -, rfl⟩ := h.1 hm
      exact iff_of_false nofun fun hall => hm hall.1

theorem eq_error (h : Decides Met Fails qs x) {before after : List Q}
    (hqs : qs = before ++ q :: after) (hbefore : ∀ p ∈ before, Met p) (hq : ¬ Met q) :
    ∃ f, Fails q f ∧ x = .error f := by
  induction before generalizing qs with
  | nil =>
    subst hqs
    exact h.1 hq
  | cons p before ih =>
    subst hqs
    rw [List.forall_mem_cons] at hbefore
    exact ih (h.2 hbefore.1) rfl hbefore.2

end Decides

end Decides

namespace Admission

/-! ## What a request is about -/

namespace Request

variable (r : Request) (w : World)

/-- The request names a time of day as its start. -/
def StartsAt (m : Int) : Prop := ∃ t ∈ r.startTime, TimeOfDay.parse t = .ok m

/-- The collaborators say this about the company of the request. -/
def FindsCompany (c : Company) : Prop :=
  ∃ id ∈ r.company, (fetchCompany id).value w.collaborators = .ok c

/-- The collaborators say this about the service of the request. -/
def FindsService (s : Service) : Prop :=
  ∃ company ∈ r.company, ∃ id ∈ r.service, (fetchService company id).value w.collaborators = .ok s

/-- The collaborators say this about the vehicle of the user. -/
def FindsVehicle (v : Vehicle) : Prop :=
  ∃ user ∈ r.user, (fetchVehicle user).value w.collaborators = .ok v

/-- These terms govern the service of the request at its address. -/
def IsGovernedBy (g : Capacity.Governing) : Prop :=
  ∃ company ∈ r.company, ∃ address ∈ r.address, ∃ service ∈ r.service,
    w.store.governing ⟨company, some address, some service⟩ = .ok g

variable {r w}

theorem FindsCompany.unique {c c' : Company} (h : r.FindsCompany w c) (h' : r.FindsCompany w c') :
    c = c' := by
  obtain ⟨i, hi, h⟩ := h
  obtain ⟨i', hi', h'⟩ := h'
  cases hi.symm.trans hi'
  cases h.symm.trans h'
  rfl

theorem FindsService.unique {s s' : Service} (h : r.FindsService w s) (h' : r.FindsService w s') :
    s = s' := by
  obtain ⟨c, hc, i, hi, h⟩ := h
  obtain ⟨c', hc', i', hi', h'⟩ := h'
  cases hc.symm.trans hc'
  cases hi.symm.trans hi'
  cases h.symm.trans h'
  rfl

theorem FindsVehicle.unique {v v' : Vehicle} (h : r.FindsVehicle w v) (h' : r.FindsVehicle w v') :
    v = v' := by
  obtain ⟨u, hu, h⟩ := h
  obtain ⟨u', hu', h'⟩ := h'
  cases hu.symm.trans hu'
  cases h.symm.trans h'
  rfl

theorem IsGovernedBy.unique {g g' : Capacity.Governing} (h : r.IsGovernedBy w g)
    (h' : r.IsGovernedBy w g') : g = g' := by
  obtain ⟨c, hc, a, ha, i, hi, h⟩ := h
  obtain ⟨c', hc', a', ha', i', hi', h'⟩ := h'
  cases hc.symm.trans hc'
  cases ha.symm.trans ha'
  cases hi.symm.trans hi'
  cases h.symm.trans h'
  rfl

variable (r w)

/-- So many active bookings of the day and address of the request overlap the window that it asks
for. -/
def FindsTaken (g : Capacity.Governing) (n : Nat) : Prop :=
  ∃ company ∈ r.company, ∃ address ∈ r.address, ∃ date ∈ r.date, ∃ start, r.StartsAt start ∧
    ∃ rows, w.store.bookings = some rows ∧
      n = rows.countP fun b => decide (b.Occupies company address date ⟨start, g.terms.slotMinutes⟩)

/-- The texts that a booking keeps of the service, of the vehicle and of the request. -/
def keptTexts (s : Service) (v : Vehicle) : List Text :=
  s.name :: v.brand.toList ++ v.model.toList ++ v.plate.toList ++ r.notes.toList

end Request

/-! ## The requirements -/

/-- What a request has to meet. -/
inductive Requirement where
  | user | company | address | service | date | startTime
  | companyFound | addressListed | serviceFound | serviceOffered | vehicleFound
  | unlocked | notPast | notTooFar | workingDay | notice | place | encodable
deriving DecidableEq

namespace Requirement

/-- The requirements on the shape of a request. -/
def ofShape : List Requirement := [user, company, address, service, date, startTime]

/-- The requirements on what the collaborators say. -/
def ofLookups : List Requirement :=
  [companyFound, addressListed, serviceFound, serviceOffered, vehicleFound]

/-- The requirements on the store and on the terms that govern. -/
def ofStore : List Requirement :=
  [unlocked, notPast, notTooFar, workingDay, notice, place, encodable]

/-- All requirements, in the order in which they are checked. -/
def all : List Requirement := ofShape ++ (ofLookups ++ ofStore)

theorem mem_all (q : Requirement) : q ∈ all := by cases q <;> decide

/-- A request meets a requirement. -/
def Met (w : World) (r : Request) : Requirement → Prop
  | user => ∃ n ∈ r.user, 0 < n
  | company => ∃ n ∈ r.company, 0 < n
  | address => ∃ n ∈ r.address, 0 < n
  | service => ∃ n ∈ r.service, 0 < n
  | date => r.date.isSome
  | startTime => ∃ m, r.StartsAt m
  | companyFound => ∃ c, r.FindsCompany w c
  | addressListed => ∃ c, r.FindsCompany w c ∧ ∃ a ∈ r.address, c.HasAddress a
  | serviceFound => ∃ s, r.FindsService w s
  | serviceOffered => ∃ s, r.FindsService w s ∧ ∃ a ∈ r.address, s.IsOfferedAt a
  | vehicleFound => ∃ v, r.FindsVehicle w v
  | unlocked => w.store.writeLocked = false
  | notPast => ∃ d ∈ r.date, w.now.date ≤ d
  | notTooFar => ∃ g, r.IsGovernedBy w g ∧
      (g.terms.advanceDays ≤ 0 ∨ ∃ d ∈ r.date, (d.day : Int) ≤ w.now.date.day + g.terms.advanceDays)
  | workingDay => ∃ c, r.FindsCompany w c ∧ ∃ d ∈ r.date, (c.scheduleOn d).IsWorkingDay
  | notice => ∃ g, r.IsGovernedBy w g ∧
      (r.date ≠ some w.now.date ∨
        ∃ m, r.StartsAt m ∧ (w.now.minute : Int) + g.terms.noticeMinutes ≤ m)
  | place => ∃ g, r.IsGovernedBy w g ∧ ∃ n, r.FindsTaken w g n ∧ (n : Int) < g.terms.maxConcurrent
  | encodable => ∃ s, r.FindsService w s ∧ ∃ v, r.FindsVehicle w v ∧
      ∀ t ∈ r.keptTexts s v, t.unencodable? = none

/-- The failure of a requirement that is not met, while all before it are. -/
inductive Fails (w : World) (r : Request) : Requirement → Failure → Prop
  | user : Fails w r user (.refused (.notPositive "user_id"))
  | company : Fails w r company (.refused (.notPositive "company_id"))
  | address : Fails w r address (.refused (.notPositive "address_id"))
  | service : Fails w r service (.refused (.notPositive "service_id"))
  | date : Fails w r date (.refused .dateMissing)
  | startTimeMissing (h : ∀ t ∈ r.startTime, t = "") :
    Fails w r startTime (.refused .startTimeMissing)
  | startTimeUnreadable {t : String} {e : TimeOfDay.Error} (ht : r.startTime = some t)
    (hne : t ≠ "") (he : TimeOfDay.parse t = .error e) :
    Fails w r startTime (.refused (.startTimeUnreadable e))
  | companyFound {id : Int} {e : Directory.Error} (hc : r.company = some id)
    (he : (Directory.company id).value w.collaborators = .error e) :
    Fails w r companyFound (e.failure .company)
  | addressListed {a : Int} {c : Company} (ha : r.address = some a) (hc : r.FindsCompany w c) :
    Fails w r addressListed (.refused (.addressNotFound a c.id))
  | serviceFound {company id : Int} {e : Directory.Error} (hc : r.company = some company)
    (hs : r.service = some id)
    (he : (Directory.service company id).value w.collaborators = .error e) :
    Fails w r serviceFound (e.failure .service)
  | serviceOffered {a : Int} {s : Service} (ha : r.address = some a) (hs : r.FindsService w s) :
    Fails w r serviceOffered (.refused (.serviceElsewhere s.id a))
  | vehicleFound {u : Int} {e : Directory.Error} (hu : r.user = some u)
    (he : (Directory.vehicle u).value w.collaborators = .error e) :
    Fails w r vehicleFound (e.failure .vehicle)
  | unlocked : Fails w r unlocked (.refused .admissionFailed)
  | notPast {d : Date} (hd : r.date = some d) : Fails w r notPast (.refused (.datePast d))
  | notTooFar {g : Capacity.Governing} (hg : r.IsGovernedBy w g) :
    Fails w r notTooFar (.refused (.dateTooFar g.terms.advanceDays))
  | workingDay {d : Date} (hd : r.date = some d) : Fails w r workingDay (.refused (.closed d))
  | notice {g : Capacity.Governing} (hg : r.IsGovernedBy w g) :
    Fails w r notice (.refused (.tooLate g.terms.noticeMinutes))
  | place {g : Capacity.Governing} {n : Nat} {t : String} (hg : r.IsGovernedBy w g)
    (hn : r.FindsTaken w g n) (ht : r.startTime = some t) :
    Fails w r place (.refused (.noPlaceLeft n g.terms.maxConcurrent t))
  | encodable {s : Service} {v : Vehicle} {u : Text.Unencodable} (hs : r.FindsService w s)
    (hv : r.FindsVehicle w v) (hu : (r.keptTexts s v).findSome? Text.unencodable? = some u) :
    Fails w r encodable (.unencodable u)

end Requirement

open Requirement

variable {w : World} {r : Request} {o : Order}

/-! ## The shape -/

theorem requirePositive_decides {q : Requirement} {field : String} {n : Option Int}
    (hm : Met w r q ↔ ∃ m ∈ n, 0 < m) (hf : Fails w r q (.refused (.notPositive field))) :
    Decides (Met w r) (Fails w r) [q] (requirePositive field n) := by
  refine ⟨fun hn => ⟨_, hf, ?_⟩, fun h => ?_⟩
  · rw [hm] at hn
    unfold requirePositive
    cases n with
    | none => rfl
    | some m => exact if_neg fun h => hn ⟨m, rfl, h⟩
  · obtain ⟨m, h⟩ := hm.mp h
    exact ⟨m, requirePositive_eq_ok.mpr h⟩

theorem met_startTime_iff {t : String} (ht : r.startTime = some t) :
    Met w r startTime ↔ ∃ m, TimeOfDay.parse t = .ok m := by
  simp [Met, Request.StartsAt, ht]

theorem order_decides : Decides (Met w r) (Fails w r) ofShape r.order := by
  unfold Request.order
  refine (requirePositive_decides Iff.rfl .user).bind_cons fun u _ => ?_
  refine (requirePositive_decides Iff.rfl .company).bind_cons fun c _ => ?_
  refine (requirePositive_decides Iff.rfl .address).bind_cons fun a _ => ?_
  refine (requirePositive_decides Iff.rfl .service).bind_cons fun v _ => ?_
  have hdate : Met w r date ↔ r.date.isSome := Iff.rfl
  cases hd : r.date with
  | none =>
    rw [hd] at hdate
    exact ⟨fun _ => ⟨_, .date, rfl⟩, fun hm => absurd (hdate.mp hm) nofun⟩
  | some d =>
    rw [hd] at hdate
    refine ⟨fun hn => absurd (hdate.mpr rfl) hn, fun _ => ?_⟩
    cases ht : r.startTime with
    | none =>
      refine ⟨fun _ => ⟨_, .startTimeMissing (by rw [ht]; exact nofun), rfl⟩, ?_⟩
      rintro ⟨m, t, h, -⟩
      rw [ht] at h
      cases h
    | some t =>
      have hmet := met_startTime_iff (w := w) ht
      by_cases hne : t = ""
      · have hempty : ∀ t' ∈ r.startTime, t' = "" := by
          rw [ht]
          rintro _ ⟨⟩
          exact hne
        refine ⟨fun _ => ⟨_, .startTimeMissing hempty, if_pos hne⟩, fun hm => ?_⟩
        obtain ⟨m, hm⟩ := hmet.mp hm
        rw [hne] at hm
        cases hm
      · simp only [if_neg hne]
        cases hparse : TimeOfDay.parse t with
        | ok m => exact ⟨fun hn => absurd (hmet.mpr ⟨m, hparse⟩) hn, fun _ => ⟨_, rfl⟩⟩
        | error e =>
          refine ⟨fun _ => ⟨_, .startTimeUnreadable ht hne hparse, rfl⟩, fun hm => ?_⟩
          obtain ⟨m, hm⟩ := hmet.mp hm
          rw [hparse] at hm
          cases hm

/-! ## What the collaborators say -/

section Order

variable (ho : r.order = .ok o)

include ho

theorem Request.findsCompany_iff {c : Company} :
    r.FindsCompany w c ↔ (fetchCompany o.company).value w.collaborators = .ok c := by
  obtain ⟨-, ⟨hc, -⟩, -⟩ := order_eq_ok.mp ho
  simp [FindsCompany, hc]

theorem Request.findsService_iff {s : Service} :
    r.FindsService w s ↔ (fetchService o.company o.service).value w.collaborators = .ok s := by
  obtain ⟨-, ⟨hc, -⟩, -, ⟨hs, -⟩, -⟩ := order_eq_ok.mp ho
  simp [FindsService, hc, hs]

theorem Request.findsVehicle_iff {v : Vehicle} :
    r.FindsVehicle w v ↔ (fetchVehicle o.user).value w.collaborators = .ok v := by
  obtain ⟨⟨hu, -⟩, -⟩ := order_eq_ok.mp ho
  simp [FindsVehicle, hu]

theorem Request.isGovernedBy_iff {g : Capacity.Governing} :
    r.IsGovernedBy w g ↔ w.store.governing o.scope = .ok g := by
  obtain ⟨-, ⟨hc, -⟩, ⟨ha, -⟩, ⟨hs, -⟩, -⟩ := order_eq_ok.mp ho
  simp [IsGovernedBy, hc, ha, hs, Order.scope]

theorem Request.startsAt_iff {m : Int} : r.StartsAt m ↔ m = o.start := by
  obtain ⟨-, -, -, -, -, ht, hm, -⟩ := order_eq_ok.mp ho
  simp [StartsAt, ht, hm, eq_comm]

theorem Request.findsTaken_iff {rows : List Booking} (hr : w.store.bookings = some rows)
    {g : Capacity.Governing} {n : Nat} : r.FindsTaken w g n ↔
      n = rows.countP fun b => decide
        (b.Occupies o.company o.address o.date ⟨o.start, g.terms.slotMinutes⟩) := by
  obtain ⟨-, ⟨hc, -⟩, ⟨ha, -⟩, -, hd, -⟩ := order_eq_ok.mp ho
  simp [FindsTaken, hc, ha, hd, startsAt_iff ho, hr]

omit ho in
/-- A lookup fails with the failure for the collaborator's error. -/
theorem lookup_decides {α : Type} {q : Requirement} {subject : Refusal.Subject}
    {l : Directory.Lookup Directory.Error α}
    (hm : Met w r q ↔ ∃ a, (Directory.refusing subject l).value w.collaborators = .ok a)
    (hf : ∀ e, l.value w.collaborators = .error e → Fails w r q (e.failure subject)) :
    Decides (Met w r) (Fails w r) [q] ((Directory.refusing subject l).value w.collaborators) := by
  refine ⟨fun hn => ?_, hm.mp⟩
  rw [hm] at hn
  rw [Directory.Lookup.value_refusing] at hn ⊢
  cases he : l.value w.collaborators with
  | ok a => exact absurd ⟨a, by rw [he]; rfl⟩ hn
  | error e => exact ⟨_, hf e he, rfl⟩

omit ho in
theorem require_decides {q : Requirement} {p : Prop} [Decidable p] {f : Failure}
    (hm : Met w r q ↔ p) (hf : Fails w r q f) :
    Decides (Met w r) (Fails w r) [q] (if p then .ok () else .error f) := by
  refine ⟨fun hn => ⟨f, hf, if_neg fun hp => hn (hm.mpr hp)⟩, fun h => ⟨(), if_pos (hm.mp h)⟩⟩

theorem lookUp_decides :
    Decides (Met w r) (Fails w r) ofLookups (o.lookUp.value w.collaborators) := by
  obtain ⟨⟨hu, -⟩, ⟨hc, -⟩, ⟨ha, -⟩, ⟨hs, -⟩, -⟩ := Request.order_eq_ok.mp ho
  rw [Order.lookUp_value]
  have hcompany : Decides (Met w r) (Fails w r) [companyFound]
      ((fetchCompany o.company).value w.collaborators) :=
    lookup_decides (exists_congr fun c => Request.findsCompany_iff ho) fun e he =>
      .companyFound hc he
  refine hcompany.bind_cons fun c hfc => ?_
  have hlisted : Met w r addressListed ↔ c.HasAddress o.address := by
    simp [Met, Request.findsCompany_iff ho, hfc, ha]
  have hfc := (Request.findsCompany_iff ho).mpr hfc
  refine (require_decides hlisted (.addressListed ha hfc)).bind_cons fun _ _ => ?_
  have hservice : Decides (Met w r) (Fails w r) [serviceFound]
      ((fetchService o.company o.service).value w.collaborators) :=
    lookup_decides (exists_congr fun s => Request.findsService_iff ho) fun e he =>
      .serviceFound hc hs he
  refine hservice.bind_cons fun s hfs => ?_
  have hoffered : Met w r serviceOffered ↔ s.IsOfferedAt o.address := by
    simp [Met, Request.findsService_iff ho, hfs, ha]
  have hfs := (Request.findsService_iff ho).mpr hfs
  refine (require_decides hoffered (.serviceOffered ha hfs)).bind_cons fun _ _ => ?_
  have hvehicle : Decides (Met w r) (Fails w r) [vehicleFound]
      ((fetchVehicle o.user).value w.collaborators) :=
    lookup_decides (exists_congr fun v => Request.findsVehicle_iff ho) fun e he =>
      .vehicleFound hu he
  exact hvehicle.bind_cons fun v _ => ⟨_, rfl⟩

end Order

/-! ## The transaction -/

/-- What is asked for and what is found are within the limits of the store and of the calendar: both
tables are there, integers fit their columns, a price is a number, an advance limit ends before the
calendar does, and active bookings of the day have start times that can be read. -/
structure Fits (w : World) (r : Request) : Prop where
  bookings : ∃ rows, w.store.bookings = some rows
  rules : ∃ rules, w.store.rules = some rules
  terms : w.store.TermsFit
  ids : ∀ id, some id ∈ [r.user, r.company, r.address, r.service] → Store.Storable id
  vehicle : ∀ v, r.FindsVehicle w v → Store.Storable v.id
  price : ∀ s, r.FindsService w s → ∀ p ∈ s.price, ¬ p.IsNaN
  calendar : ∀ g, r.IsGovernedBy w g → g.terms.HasAdvanceLimit →
    ∃ d, w.now.date.addDays? g.terms.advanceDays = some d
  readable : ∀ rows, w.store.bookings = some rows → ∀ b ∈ rows, b.IsActive →
    r.company = some b.company → r.address = some b.address → r.date = some b.date → b.Readable

theorem lastDate_eq_ok {today last : Date} {days : Int} (h : today.addDays? days = some last) :
    lastDate today days = .ok last := by
  have hlast := last.day_lt
  have hday := Date.addDays?_eq_some.mp h
  unfold lastDate maxSpan
  rw [if_neg (by omega), if_neg (by omega), h]

/-- A service without price costs a number all the same. -/
theorem Order.booking_price (o : Order) {t : Capacity.Terms} {s : Service} {v : Vehicle}
    (hp : ∀ p ∈ s.price, ¬ p.IsNaN) : ¬ (o.booking t s v).price.IsNaN := by
  show ¬ (s.price.getD .zero).IsNaN
  cases hprice : s.price with
  | none => decide
  | some p => exact hp p hprice

theorem begin_decides :
    Decides (Met w r) (Fails w r) [unlocked] (w.store.begin .admissionFailed) := by
  refine ⟨fun hn => ⟨_, .unlocked, ?_⟩, fun hm => ⟨(), Store.begin_eq_ok.mpr hm⟩⟩
  unfold Store.begin
  exact if_pos (eq_true_of_ne_false hn)

section Admit

variable (h : Fits w r) (ho : r.order = .ok o) {g : Capacity.Governing}
  (hg : r.IsGovernedBy w g)

include h ho hg in
theorem requireDate_decides :
    Decides (Met w r) (Fails w r) [notPast, notTooFar] (requireDate o.date w.now.date g.terms) := by
  obtain ⟨-, -, -, -, hd, -⟩ := Request.order_eq_ok.mp ho
  have hnotPast : Met w r notPast ↔ ¬ o.date < w.now.date := by
    simp [Met, hd, Date.lt_def, Date.le_def]
  have hnotTooFar : Met w r notTooFar ↔
      g.terms.advanceDays ≤ 0 ∨ (o.date.day : Int) ≤ w.now.date.day + g.terms.advanceDays := by
    have hg := (Request.isGovernedBy_iff ho).mp hg
    simp [Met, Request.isGovernedBy_iff ho, hg, hd]
  unfold requireDate
  refine .ite hnotPast rfl (.notPast hd) ?_
  by_cases hlimit : g.terms.HasAdvanceLimit
  · rw [if_pos hlimit]
    obtain ⟨last, hlast⟩ := h.calendar g hg hlimit
    refine .bind_nil (lastDate_eq_ok hlast) (.ite ?_ rfl (.notTooFar hg) ⟨(), rfl⟩)
    have hday := Date.addDays?_eq_some.mp hlast
    have hpos : 0 < g.terms.advanceDays := hlimit
    rw [hnotTooFar, Date.lt_def]
    omega
  · rw [if_neg hlimit]
    have hpos : ¬ 0 < g.terms.advanceDays := hlimit
    exact ⟨fun hn => absurd (hnotTooFar.mpr (.inl (by omega))) hn, fun _ => ⟨(), rfl⟩⟩

include ho hg in
theorem requireNotice_decides : Decides (Met w r) (Fails w r) [notice]
    (requireNotice o.date o.start w.now g.terms) := by
  obtain ⟨-, -, -, -, hd, -⟩ := Request.order_eq_ok.mp ho
  have hnotice : Met w r notice ↔
      ¬ (o.date = w.now.date ∧ o.start < Schedule.earliestStart w.now g.terms.noticeMinutes) := by
    have hg := (Request.isGovernedBy_iff ho).mp hg
    simp [Met, Request.isGovernedBy_iff ho, hg, hd, Request.startsAt_iff ho,
      Schedule.earliestStart, Decidable.imp_iff_not_or]
  exact .ite hnotice rfl (.notice hg) ⟨(), rfl⟩

include h ho hg in
/-- Within the limits, a booking can be added exactly if its texts can be encoded. -/
theorem addBooking_decides {s : Service} {v : Vehicle} (hs : r.FindsService w s)
    (hv : r.FindsVehicle w v) : Decides (Met w r) (Fails w r) [encodable]
      (w.store.addBooking (o.booking g.terms s v)) := by
  obtain ⟨⟨hu, -⟩, ⟨hc, -⟩, ⟨ha, -⟩, ⟨hsid, -⟩, -, -, -, hn⟩ := Request.order_eq_ok.mp ho
  obtain ⟨rows, hrows⟩ := h.bookings
  have hintegers : Store.requireStorable (Store.integersOf (o.booking g.terms s v)) = .ok () := by
    refine Store.requireStorable_eq_ok.mpr fun n hn => ?_
    simp only [Store.integersOf, List.mem_cons, List.not_mem_nil, or_false] at hn
    rcases hn with rfl | rfl | rfl | rfl | rfl | rfl
    · exact h.ids o.user (by simp [hu])
    · exact h.ids o.company (by simp [hc])
    · exact h.ids o.address (by simp [ha])
    · exact h.ids o.service (by simp [hsid])
    · exact h.vehicle v hv
    · exact h.terms.governing ((Request.isGovernedBy_iff ho).mp hg) .slotMinutes
  have htexts : Store.textsOf (o.booking g.terms s v) = r.keptTexts s v := by
    unfold Request.keptTexts
    rw [hn]
    rfl
  have hencodable : Met w r encodable ↔ ∀ t ∈ r.keptTexts s v, t.unencodable? = none := by
    simp [Met, Request.findsService_iff ho, (Request.findsService_iff ho).mp hs,
      Request.findsVehicle_iff ho, (Request.findsVehicle_iff ho).mp hv]
  have hrequire : Decides (Met w r) (Fails w r) [encodable]
      (Store.requireEncodable (Store.textsOf (o.booking g.terms s v))) := by
    rw [htexts]
    refine ⟨fun hn => ?_, fun hm => ⟨(), Store.requireEncodable_eq_ok.mpr (hencodable.mp hm)⟩⟩
    cases hfirst : (r.keptTexts s v).findSome? Text.unencodable? with
    | none => exact absurd (hencodable.mpr (List.findSome?_eq_none_iff.mp hfirst)) hn
    | some u => exact ⟨_, .encodable hs hv hfirst, by unfold Store.requireEncodable; rw [hfirst]⟩
  unfold Store.addBooking
  refine .bind_nil (Store.rows_eq_ok.mpr hrows) (.bind_nil hintegers ?_)
  exact hrequire.bind_cons fun _ _ => ⟨_, if_neg (o.booking_price (h.price s hs))⟩

/-- Within the limits, the requirements on the store and the terms decide the transaction. -/
theorem admit_decides (h : Fits w r) (ho : r.order = .ok o) {c : Company} {s : Service}
    {v : Vehicle} (hc : r.FindsCompany w c) (hs : r.FindsService w s) (hv : r.FindsVehicle w v) :
    Decides (Met w r) (Fails w r) ofStore <| o.admit w.store w.now c s v := by
  obtain ⟨-, ⟨hcid, -⟩, ⟨haid, -⟩, ⟨hsid, -⟩, hd, ht, -⟩ := Request.order_eq_ok.mp ho
  obtain ⟨rows, hrows⟩ := h.bookings
  obtain ⟨rules, hrules⟩ := h.rules
  have hcompany : Store.Storable o.company := h.ids o.company (by simp [hcid])
  have haddress : Store.Storable o.address := h.ids o.address (by simp [haid])
  have hservice : Store.Storable o.service := h.ids o.service (by simp [hsid])
  have hgov : w.store.governing o.scope = .ok (Capacity.governing rules o.scope) := by
    refine Store.governing_eq_ok.mpr ⟨rules, hrules, ?_, rfl⟩
    simp [Order.scope, Capacity.Scope.ids, hcompany, haddress, hservice]
  generalize Capacity.governing rules o.scope = g at hgov
  have hg : r.IsGovernedBy w g := (Request.isGovernedBy_iff ho).mpr hgov
  unfold Order.admit
  refine begin_decides.bind_cons fun _ _ => .bind_nil hgov ?_
  show Decides _ _ ([notPast, notTooFar] ++ [workingDay, notice, place, encodable]) _
  refine (requireDate_decides h ho hg).bind fun _ _ => ?_
  have hworking : Met w r workingDay ↔ ¬ ¬ (c.scheduleOn o.date).IsWorkingDay := by
    simp [Met, Request.findsCompany_iff ho, (Request.findsCompany_iff ho).mp hc, hd]
  refine .ite hworking rfl (.workingDay hd) ?_
  refine (requireNotice_decides ho hg).bind_cons fun _ _ => ?_
  have hlist : w.store.list (.day o.company o.address o.date) =
      .ok ((Filter.day o.company o.address o.date).list rows) :=
    Store.list_eq_ok.mpr ⟨rows, hrows, by simp [Filter.day, hcompany, haddress], rfl⟩
  have hread : ∀ b ∈ rows, b.IsActive → b.IsAt o.company o.address o.date → b.Readable := by
    rintro b hb hact ⟨hbc, hba, hbd⟩
    exact h.readable rows hrows b hb hact (hbc ▸ hcid) (hba ▸ haid) (hbd ▸ hd)
  have hcount := countTaken_day_eq_ok.mpr
    ⟨hread, Eq.refl (rows.countP fun b => decide
      (b.Occupies o.company o.address o.date ⟨o.start, g.terms.slotMinutes⟩))⟩
  refine .bind_nil hlist (.bind_nil hcount ?_)
  refine .ite ?_ rfl (.place hg ((Request.findsTaken_iff ho hrows).mpr rfl) ht) ?_
  · simp [Met, Request.isGovernedBy_iff ho, hgov, Request.findsTaken_iff ho hrows]
  · exact addBooking_decides h ho hg hs hv

end Admit

/-! ## A world -/

/-- A company that is open every day from 09:00 to 11:00. -/
def sampleCompany : Company :=
  let day : DaySchedule := ⟨true, some "09:00", some "11:00"⟩
  ⟨1, "", [⟨1, none, none⟩], ⟨day, day, day, day, day, day, day⟩, []⟩

/-- A service of this company at its address. -/
def sampleService : Service := ⟨1, 1, "wash", none, none, [1]⟩

/-- A booking at 10:00 that another user has made. -/
def sampleBooking : Booking where
  startTime := "10:00"
  duration := 30
  status := Status.confirmed.text
  id := 1
  user := 9
  company := 1
  address := 1
  service := 1
  vehicle := 4
  date := ⟨739679, by decide⟩
  serviceName := "wash"
  price := .zero
  vehicleBrand := none
  vehicleModel := none
  vehiclePlate := none
  notes := none
  cancellationReason := none
  cancelledAt := none

/-- A world with this company, service and booking, where two bookings may overlap, and with a user
whose vehicle is of the brand given. -/
def sampleWorld (brand : Text) (writeLocked : Bool) : World where
  store := ⟨some [sampleBooking], some [⟨1, ⟨1, none, none⟩, ⟨30, 2, 14, 60⟩⟩], writeLocked⟩
  now := ⟨⟨739676, by decide⟩, 480, 0, 0, by decide, by decide, by decide⟩
  collaborators := {
    answer := fun path =>
      if path = "/internal/companies/1" then .reply 200 (.ok sampleCompany.toJson)
      else if path = "/internal/companies/1/services/1" then .reply 200 (.ok sampleService.toJson)
      else if path = "/internal/users/7/cars/selected" then
        .reply 200 (.ok (Vehicle.toJson ⟨3, none, some brand, none, none, none, none⟩))
      else .unknown
    cache := { ttl := 0 } }

/-- A request for the slot at 10:00. -/
def sampleRequest : Request :=
  ⟨some 7, some 1, some 1, some 1, some ⟨739679, by decide⟩, some "10:00", none⟩

section Sample

variable (brand : Text) (writeLocked : Bool)

theorem sample_findsCompany :
    sampleRequest.FindsCompany (sampleWorld brand writeLocked) sampleCompany := ⟨1, rfl, rfl⟩

theorem sample_findsService :
    sampleRequest.FindsService (sampleWorld brand writeLocked) sampleService :=
  ⟨1, rfl, 1, rfl, rfl⟩

theorem sample_findsVehicle :
    sampleRequest.FindsVehicle (sampleWorld brand writeLocked)
      ⟨3, none, some brand, none, none, none, none⟩ := ⟨7, rfl, rfl⟩

theorem sample_isGovernedBy :
    sampleRequest.IsGovernedBy (sampleWorld brand writeLocked)
      (.ofRule ⟨1, ⟨1, none, none⟩, ⟨30, 2, 14, 60⟩⟩) := ⟨1, rfl, 1, rfl, 1, rfl, rfl⟩

theorem sample_startsAt : sampleRequest.StartsAt 600 := ⟨"10:00", rfl, rfl⟩

/-- All requirements are met but the two that depend on the lock and on the brand. -/
theorem sample_met {q : Requirement} (hl : q = unlocked → writeLocked = false)
    (he : q = encodable → brand.unencodable? = none) :
    Met (sampleWorld brand writeLocked) sampleRequest q := by
  have hc := sample_findsCompany brand writeLocked
  have hs := sample_findsService brand writeLocked
  have hv := sample_findsVehicle brand writeLocked
  have hg := sample_isGovernedBy brand writeLocked
  cases q with
  | user => exact ⟨7, rfl, by decide⟩
  | company | address | service => exact ⟨1, rfl, by decide⟩
  | date => exact rfl
  | startTime => exact ⟨600, sample_startsAt⟩
  | companyFound => exact ⟨_, hc⟩
  | addressListed => exact ⟨_, hc, 1, rfl, by decide⟩
  | serviceFound => exact ⟨_, hs⟩
  | serviceOffered => exact ⟨_, hs, 1, rfl, by decide⟩
  | vehicleFound => exact ⟨_, hv⟩
  | unlocked => exact hl rfl
  | notPast => exact ⟨_, rfl, Nat.le_add_right 739676 3⟩
  | notTooFar => exact ⟨_, hg, .inr ⟨_, rfl, show (739679 : Int) ≤ 739676 + 14 by decide⟩⟩
  | workingDay => exact ⟨_, hc, _, rfl, by decide⟩
  | notice => exact ⟨_, hg, .inl nofun⟩
  | place =>
    have htaken : sampleRequest.FindsTaken (sampleWorld brand writeLocked)
        (.ofRule ⟨1, ⟨1, none, none⟩, ⟨30, 2, 14, 60⟩⟩) 1 :=
      ⟨1, rfl, 1, rfl, _, rfl, 600, sample_startsAt, _, rfl, by decide⟩
    exact ⟨_, hg, 1, htaken, by decide⟩
  | encodable =>
    refine ⟨_, hs, _, hv, fun t ht => ?_⟩
    rcases List.mem_cons.mp ht with rfl | ht
    · exact rfl
    · rw [List.mem_singleton.mp ht]
      exact he rfl

theorem sample_fits : Fits (sampleWorld brand writeLocked) sampleRequest where
  bookings := ⟨_, rfl⟩
  rules := ⟨_, rfl⟩
  terms := by
    rintro rules ⟨⟩ r hr f
    rw [List.mem_singleton.mp hr]
    cases f <;> decide
  ids := by
    intro id hid
    simp only [sampleRequest, List.mem_cons, Option.some.injEq, List.not_mem_nil, or_false] at hid
    rcases hid with rfl | rfl | rfl | rfl <;> decide
  vehicle := by
    intro v hv
    rw [hv.unique (sample_findsVehicle brand writeLocked)]
    exact (by decide : Store.Storable 3)
  price := by
    intro s hs
    rw [hs.unique (sample_findsService brand writeLocked)]
    intro p hp
    cases hp
  calendar := by
    intro g hg _
    rw [hg.unique (sample_isGovernedBy brand writeLocked)]
    exact ⟨⟨739690, by decide⟩, Date.addDays?_eq_some.mpr rfl⟩
  readable := by
    rintro rows ⟨⟩ b hb - - - -
    rw [List.mem_singleton.mp hb]
    exact ⟨⟨600, 30⟩, rfl⟩

end Sample

/-! ## The rule -/

theorem allocate_value (s : Store) (now : Instant) (r : Request) (k : Collaborators) :
    (allocate s now r).value k = (do
      let o ← r.order
      let (c, v, w) ← o.lookUp.value k
      o.admit s now c v w) := by
  unfold allocate
  simp only [Directory.Lookup.value_bind, Directory.Lookup.value_lift, Directory.Lookup.after_lift]

theorem Order.lookUp_eq_ok {k : Collaborators} {c : Company} {s : Service} {v : Vehicle}
    (h : o.lookUp.value k = .ok (c, s, v)) : (fetchCompany o.company).value k = .ok c ∧
      (fetchService o.company o.service).value k = .ok s ∧
      (fetchVehicle o.user).value k = .ok v := by
  rw [lookUp_value] at h
  simp only [bind_eq_ok] at h
  obtain ⟨c', hc, _, -, s', hs, _, -, v', hv, h⟩ := h
  cases h
  exact ⟨hc, hs, hv⟩

theorem allocate_decides (h : Fits w r) :
    Decides (Met w r) (Fails w r) all ((allocate w.store w.now r).value w.collaborators) := by
  rw [allocate_value]
  refine order_decides.bind fun o ho => (lookUp_decides ho).bind fun ⟨c, s, v⟩ hl => ?_
  obtain ⟨hc, hs, hv⟩ := Order.lookUp_eq_ok hl
  exact admit_decides h ho ((Request.findsCompany_iff ho).mpr hc)
    ((Request.findsService_iff ho).mpr hs) ((Request.findsVehicle_iff ho).mpr hv)

/-- The row that an admission adds to a table: confirmed, under the next id, with the request as it
was made and with the slot length, the service and the vehicle as they are now. -/
structure Booked (w : World) (r : Request) (rows : List Booking) (b : Booking) : Prop where
  id : b.id = Store.nextId (rows.map (·.id))
  user : r.user = some b.user
  company : r.company = some b.company
  address : r.address = some b.address
  service : r.service = some b.service
  date : r.date = some b.date
  startTime : r.startTime = some b.startTime
  notes : b.notes = r.notes
  status : b.status = Status.confirmed.text
  uncancelled : b.cancelledAt = none ∧ b.cancellationReason = none
  duration : ∃ g, r.IsGovernedBy w g ∧ b.duration = g.terms.slotMinutes
  offer : ∃ s, r.FindsService w s ∧ b.serviceName = s.name ∧
    b.price = (s.price.getD .zero).dropZeroSign
  driven : ∃ v, r.FindsVehicle w v ∧ b.vehicle = v.id ∧ b.vehicleBrand = v.brand ∧
    b.vehicleModel = v.model ∧ b.vehiclePlate = v.plate

theorem booked_of_ok {b : Booking} {s' : Store}
    (h : (allocate w.store w.now r).value w.collaborators = .ok (b, s')) :
    ∃ rows, w.store.bookings = some rows ∧ Booked w r rows b ∧
      s' = { w.store with bookings := some (rows ++ [b]) } := by
  rw [allocate_value] at h
  simp only [bind_eq_ok] at h
  obtain ⟨o, ho, ⟨c, s, v⟩, hl, h⟩ := h
  obtain ⟨-, hs, hv⟩ := Order.lookUp_eq_ok hl
  obtain ⟨-, g, hg, -, -, -, bs, -, taken, -, -, hadd⟩ := Order.admit_eq_ok.mp h
  obtain ⟨rows, hrows, -, rfl, rfl⟩ := Store.addBooking_eq_ok.mp hadd
  obtain ⟨⟨hu, -⟩, ⟨hc, -⟩, ⟨ha, -⟩, ⟨hsid, -⟩, hd, ht, -, hn⟩ := Request.order_eq_ok.mp ho
  refine ⟨rows, hrows, ⟨rfl, hu, hc, ha, hsid, hd, ht, hn.symm, rfl, ⟨rfl, rfl⟩, ?_, ?_, ?_⟩, rfl⟩
  · exact ⟨g, (Request.isGovernedBy_iff ho).mpr hg, rfl⟩
  · exact ⟨s, (Request.findsService_iff ho).mpr hs, rfl, rfl⟩
  · exact ⟨v, (Request.findsVehicle_iff ho).mpr hv, rfl, rfl, rfl, rfl⟩

theorem perform_allocate_fst (w : World) (r : Request) : (w.perform (.allocate r)).1 =
    ((allocate w.store w.now r).value w.collaborators).map fun p => .booking p.1 := by
  rw [World.perform_fst]
  unfold Operation.run
  simp only [Directory.Lookup.value_bind, Directory.Lookup.value_pure]
  cases (allocate w.store w.now r).value w.collaborators <;> rfl

/-- What a world performs on a request for a booking. -/
theorem perform_allocate (w : World) (r : Request) :
    (∃ b s', (allocate w.store w.now r).value w.collaborators = .ok (b, s') ∧
      (w.perform (.allocate r)).1 = .ok (.booking b) ∧
      (w.perform (.allocate r)).2.store = s') ∨
    ∃ f, (allocate w.store w.now r).value w.collaborators = .error f ∧
      (w.perform (.allocate r)).1 = .error f ∧ (w.perform (.allocate r)).2.store = w.store := by
  rw [World.perform_fst, World.perform_store]
  unfold Operation.run
  simp only [Directory.Lookup.value_bind, Directory.Lookup.value_pure]
  cases (allocate w.store w.now r).value w.collaborators with
  | ok p => exact .inl ⟨p.1, p.2, rfl, rfl, rfl⟩
  | error f => exact .inr ⟨f, rfl, rfl, rfl⟩

theorem perform_ok_iff (h : Fits w r) :
    (∃ b, (w.perform (.allocate r)).1 = .ok (.booking b)) ↔ ∀ q, Met w r q := by
  have hall : (∀ q ∈ all, Met w r q) ↔ ∀ q, Met w r q := by simp [mem_all]
  rw [← hall, ← (allocate_decides h).isOk_iff]
  obtain ⟨b, s', hv, hout, -⟩ | ⟨f, hv, hout, -⟩ := perform_allocate w r
  · exact iff_of_true ⟨b, hout⟩ ⟨_, hv⟩
  · refine iff_of_false (fun ⟨b, hb⟩ => ?_) fun ⟨a, ha⟩ => ?_
    · rw [hout] at hb
      cases hb
    · rw [hv] at ha
      cases ha

theorem sample_locked :
    ¬ ∃ b, ((sampleWorld "" true).perform (.allocate sampleRequest)).1 = .ok (.booking b) := by
  intro hb
  exact absurd ((perform_ok_iff (sample_fits _ _)).mp hb unlocked) nofun

theorem sample_unencodable :
    ¬ ∃ b, ((sampleWorld ⟨[.lone 0]⟩ false).perform (.allocate sampleRequest)).1 =
      .ok (.booking b) := by
  intro hb
  obtain ⟨s, -, v, hv, ht⟩ := (perform_ok_iff (sample_fits _ _)).mp hb encodable
  rw [hv.unique (sample_findsVehicle _ _)] at ht
  exact absurd (ht _ (List.mem_cons_of_mem _ List.mem_cons_self)) nofun

/-- **Admission.** Within the limits of the store and of the calendar, a booking is admitted exactly
if all requirements are met. It is then added to the table, and nothing else in the store changes.
Otherwise the failure is that of the first requirement that is not met, and the store stays as it
is. -/
theorem allocate_rule (w : World) (r : Request) (h : Fits w r) :
    ((∃ b, (w.perform (.allocate r)).1 = .ok (.booking b)) ↔ ∀ q, Met w r q) ∧
    (∀ out, (w.perform (.allocate r)).1 = .ok out → ∃ b rows, out = .booking b ∧
      w.store.bookings = some rows ∧ Booked w r rows b ∧
      (w.perform (.allocate r)).2.store = { w.store with bookings := some (rows ++ [b]) }) ∧
    ∀ (before after : List Requirement) (q : Requirement), all = before ++ q :: after →
      (∀ p ∈ before, Met w r p) → ¬ Met w r q → ∃ f, Fails w r q f ∧
        (w.perform (.allocate r)).1 = .error f ∧ (w.perform (.allocate r)).2.store = w.store := by
  refine ⟨perform_ok_iff h, fun out ho => ?_, fun before after q hq hb hn => ?_⟩
  · obtain ⟨b, s', hv, hout, hs⟩ | ⟨f, hv, hout, hs⟩ := perform_allocate w r
    · rw [hout] at ho
      cases ho
      obtain ⟨rows, hrows, hb, rfl⟩ := booked_of_ok hv
      exact ⟨b, rows, rfl, hrows, hb, hs⟩
    · rw [hout] at ho
      cases ho
  · obtain ⟨f, hf, hv⟩ := (allocate_decides h).eq_error hq hb hn
    obtain ⟨b, s', hv', -⟩ | ⟨f', hv', hout, hs⟩ := perform_allocate w r
    · rw [hv] at hv'
      cases hv'
    · rw [hv] at hv'
      cases hv'
      exact ⟨f, hf, hout, hs⟩

theorem allocate_rule_sample :
    ∃ b, ((sampleWorld "" false).perform (.allocate sampleRequest)).1 = .ok (.booking b) :=
  (allocate_rule _ _ (sample_fits "" false)).1.mpr fun _ =>
    sample_met "" false (fun _ => rfl) fun _ => rfl

/-- The requirements on the lock and on the texts are needed: where either alone is not met, nothing
is admitted. -/
theorem allocate_refuses_otherwise_met :
    (Fits (sampleWorld "" true) sampleRequest ∧
      (∀ q, q ≠ unlocked → Met (sampleWorld "" true) sampleRequest q) ∧
      ¬ ∃ b, ((sampleWorld "" true).perform (.allocate sampleRequest)).1 = .ok (.booking b)) ∧
    (Fits (sampleWorld ⟨[.lone 0]⟩ false) sampleRequest ∧
      (∀ q, q ≠ encodable → Met (sampleWorld ⟨[.lone 0]⟩ false) sampleRequest q) ∧
      ¬ ∃ b, ((sampleWorld ⟨[.lone 0]⟩ false).perform (.allocate sampleRequest)).1 =
        .ok (.booking b)) := by
  refine ⟨⟨sample_fits _ _, fun q hq => ?_, sample_locked⟩,
    ⟨sample_fits _ _, fun q hq => ?_, sample_unencodable⟩⟩
  · exact sample_met _ _ (fun h => absurd h hq) fun _ => rfl
  · exact sample_met _ _ (fun _ => rfl) fun h => absurd h hq

end Admission

end SlotBooking
