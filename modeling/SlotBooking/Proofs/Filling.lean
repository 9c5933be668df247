import SlotBooking.Proofs.Repetition

/-!
# Filling a slot

Requests for one slot that come one after another take its free places in the order in which they
come. Once no place is left, every further request is refused and changes nothing.

* `World.performAll`: operations one after another.
* `IsCounted`, `IsCounted.of_bind`: what is settled by the count of places, and nothing before it.
* `Counted`: requests for a slot come as far as the count; kept by `Counted.later`.
* `Counted.allocate_full`, `Counted.allocate_free`: what one more request does.
* `Counted.performAll`: what a list of requests does, and `free_places_filled`, the main statement.
-/

namespace SlotBooking

open Directory (Collaborators Company Service Vehicle fetchCompany fetchService fetchVehicle
  requireAddress requireOffered)
open Admission (Order Request requireDate requireNotice requirePositive countTaken)

/-! ## One after another -/

/-- Performs operations one after another. -/
def World.performAll (w : World) : List Operation → List (Except Failure Outcome) × World
  | [] => ([], w)
  | op :: ops =>
    let later := (w.perform op).2.performAll ops
    ((w.perform op).1 :: later.1, later.2)

@[simp] theorem World.performAll_nil (w : World) : w.performAll [] = ([], w) := rfl

@[simp] theorem World.performAll_cons (w : World) (op : Operation) (ops : List Operation) :
    w.performAll (op :: ops) =
      ((w.perform op).1 :: ((w.perform op).2.performAll ops).1,
        ((w.perform op).2.performAll ops).2) := rfl

/-! ## Settled by the count -/

section Count

variable {α β : Type}

/-- The only failure is that no place is left. -/
def IsCounted (x : Except Failure α) : Prop :=
  ∀ f, x = .error f → ∃ taken places t, f = .refused (.noPlaceLeft taken places t)

/-- A computation that does not count places. -/
def NeverFull (x : Except Failure α) : Prop :=
  ∀ taken places t, x ≠ .error (.refused (.noPlaceLeft taken places t))

/-- What comes before the count succeeds, and the rest is settled by the count as well. -/
theorem IsCounted.of_bind {x : Except Failure α} {f : α → Except Failure β}
    (h : IsCounted (x >>= f)) (hx : NeverFull x) : ∃ a, x = .ok a ∧ IsCounted (f a) := by
  cases x with
  | ok a => exact ⟨a, rfl, h⟩
  | error e =>
    obtain ⟨taken, places, t, rfl⟩ := h e rfl
    exact absurd rfl (hx taken places t)

namespace NeverFull

theorem ok (a : α) : NeverFull (.ok a) := nofun

theorem bind {x : Except Failure α} {f : α → Except Failure β} (hx : NeverFull x)
    (hf : ∀ a, NeverFull (f a)) : NeverFull (x >>= f) := by
  cases x with
  | ok a => exact hf a
  | error e => exact fun taken places t h => hx taken places t (by cases h; rfl)

theorem mapError {ε : Type} {x : Except ε α} {f : ε → Failure}
    (hf : ∀ e taken places t, f e ≠ .refused (.noPlaceLeft taken places t)) :
    NeverFull (x.mapError f) := by
  cases x with
  | ok a => exact nofun
  | error e => exact fun taken places t h => hf e taken places t (Except.error.inj h)

theorem rows (a : Refusal.Access) (t : Option (List α)) : NeverFull (Store.rows a t) := by
  cases t <;> exact nofun

theorem requireStorable (ns : List Int) : NeverFull (Store.requireStorable ns) := by
  unfold Store.requireStorable
  split <;> exact nofun

theorem requirePositive (field : String) (n : Option Int) :
    NeverFull (Admission.requirePositive field n) := by
  unfold Admission.requirePositive
  split
  · split <;> exact nofun
  · exact nofun

theorem refusing (subject : Refusal.Subject) (l : Directory.Lookup Directory.Error α)
    (k : Collaborators) : NeverFull ((Directory.refusing subject l).value k) := by
  refine mapError fun e taken places t => ?_
  cases e <;> exact nofun

theorem requireDate (date today : Date) (terms : Capacity.Terms) :
    NeverFull (Admission.requireDate date today terms) := by
  have hlast : NeverFull (Admission.lastDate today terms.advanceDays) := by
    unfold Admission.lastDate
    repeat' split
    all_goals exact nofun
  unfold Admission.requireDate
  split
  · exact nofun
  · split
    · refine hlast.bind fun last => ?_
      split <;> exact nofun
    · exact nofun

theorem approach (w : World) (company address service : Option Int) (date : Date) :
    NeverFull (approach w company address service date) := by
  unfold SlotBooking.approach Directory.requireAddress Directory.requireOffered Store.governing
  refine (requirePositive _ _).bind fun c => (requirePositive _ _).bind fun a =>
    (requirePositive _ _).bind fun v => (refusing .company _ _).bind fun seller => ?_
  refine bind ?_ fun _ => (refusing .service _ _).bind fun offer => bind ?_ fun _ => ?_
  · split <;> exact nofun
  · split <;> exact nofun
  · exact ((rows _ _).bind fun rules => (requireStorable _).bind fun _ => ok _).bind fun g =>
      (requireDate _ _ _).bind fun _ => ok _

end NeverFull

/-- An admission whose rest is settled by the count: the day is a working day, the notice is left,
and the bookings of the day can be counted. -/
theorem Admission.Order.counted_of_settle {o : Order} {store : Store} {now : Instant} {c : Company}
    {terms : Capacity.Terms} {s : Service} {v : Vehicle}
    (h : IsCounted (o.settle store now c terms s v)) :
    (c.scheduleOn o.date).IsWorkingDay ∧
      (o.date = now.date → Schedule.earliestStart now terms.noticeMinutes ≤ o.start) ∧
      ∃ bookings, store.list (.day o.company o.address o.date) = .ok bookings ∧
        ∃ taken, countTaken ⟨o.start, terms.slotMinutes⟩ bookings = .ok taken ∧
          ((taken : Int) < terms.maxConcurrent →
            IsCounted (store.addBooking (o.booking terms s v))) := by
  have hlist : NeverFull (store.list (.day o.company o.address o.date)) := by
    unfold Store.list
    exact (NeverFull.rows _ _).bind fun rows => (NeverFull.requireStorable _).bind fun _ => .ok _
  have hcount (bookings : List Booking) :
      NeverFull (countTaken ⟨o.start, terms.slotMinutes⟩ bookings) := NeverFull.mapError nofun
  unfold settle requireNotice at h
  by_cases hday : (c.scheduleOn o.date).IsWorkingDay
  · rw [if_neg (not_not.mpr hday)] at h
    obtain ⟨_, hnotice, h⟩ := h.of_bind (by split <;> exact nofun)
    obtain ⟨bookings, hl, h⟩ := h.of_bind hlist
    obtain ⟨taken, ht, h⟩ := h.of_bind (hcount bookings)
    refine ⟨hday, fun hd => Int.not_lt.mp fun hlt => ?_, bookings, hl, taken, ht, fun hlt => ?_⟩
    · rw [if_pos ⟨hd, hlt⟩] at hnotice
      cases hnotice
    · rwa [if_neg (Int.not_le.mpr hlt)] at h
  · rw [if_pos hday] at h
    obtain ⟨taken, places, t, hf⟩ := h _ rfl
    cases hf

theorem IsCounted.storable {store : Store} {b : Booking} (h : IsCounted (store.addBooking b)) :
    ∀ n ∈ Store.integersOf b, Store.Storable n := by
  unfold Store.addBooking at h
  obtain ⟨rows, -, h⟩ := h.of_bind (.rows _ _)
  obtain ⟨_, hstorable, -⟩ := h.of_bind (.requireStorable _)
  exact Store.requireStorable_eq_ok.mp hstorable

end Count

/-! ## Requests for one slot -/

/-- Both requests are for the same service at the same address, date and start time. -/
structure Admission.Request.SameSlot (r p : Request) : Prop where
  company : r.company = p.company
  address : r.address = p.address
  service : r.service = p.service
  date : r.date = p.date
  startTime : r.startTime = p.startTime

/-- In this world requests like `p` come as far as the count of the places that are taken: the
approach succeeds, on a working day with the notice left, and the day can be counted. -/
structure Counted (w : World) (p : Request) (date : Date) (start : Int) (a : Approach)
    (rows : List Booking) : Prop where
  approached : ∃ offer, approach w p.company p.address p.service date = .ok { a with offer }
  workingDay : (a.seller.scheduleOn date).IsWorkingDay
  notice : date = w.now.date →
    Schedule.earliestStart w.now a.governing.terms.noticeMinutes ≤ start
  bookings : w.store.bookings = some rows
  readable : ∀ b ∈ rows, b.IsActive → b.IsAt a.company a.address date → b.Readable

/-- The bookings that take a place of the slot. -/
def Approach.taken (a : Approach) (date : Date) (start : Int) (rows : List Booking) : Nat :=
  rows.countP fun b => decide
    (b.Occupies a.company a.address date ⟨start, a.governing.terms.slotMinutes⟩)

section Later

variable {w w' : World} {r p : Request} {date : Date} {start : Int} {a : Approach}
  {rows rows' : List Booking}

/-- Requests still come as far after a change to the bookings alone. -/
theorem Counted.later (h : Counted w p date start a rows)
    (hk : w.collaborators.Echoes w'.collaborators) (hnow : w'.now = w.now)
    (hrules : w'.store.rules = w.store.rules) (hrows : w'.store.bookings = some rows')
    (hread : ∀ b ∈ rows', b.IsActive → b.IsAt a.company a.address date → b.Readable) :
    Counted w' p date start a rows' where
  approached := by
    obtain ⟨offer, ha⟩ := h.approached
    rcases approach_echo w w' hk hnow hrules p.company p.address p.service date with hsame | hkept
    · exact ⟨offer, hsame.trans ha⟩
    · exact ⟨offer.kept, by rw [hkept, ha]; rfl⟩
  workingDay := h.workingDay
  notice := by
    rw [hnow]
    exact h.notice
  bookings := hrows
  readable := hread

/-- The listing that the count goes through. -/
theorem Counted.list (h : Counted w p date start a rows) :
    w.store.list (.day a.company a.address date) =
      .ok ((Filter.day a.company a.address date).list rows) := by
  obtain ⟨offer, ha⟩ := h.approached
  obtain ⟨-, -, -, -, -, -, -, hg, -⟩ := approach_eq_ok.mp ha
  obtain ⟨rules, -, hids, -⟩ := Store.governing_eq_ok.mp hg
  refine Store.list_eq_ok.mpr ⟨rows, h.bookings, fun n hn => hids n ?_, rfl⟩
  simp only [Filter.day, Option.toList_some, List.mem_cons, List.not_mem_nil, or_false] at hn
  rcases hn with rfl | rfl <;> simp [Capacity.Scope.ids]

theorem Counted.countTaken (h : Counted w p date start a rows) :
    Admission.countTaken ⟨start, a.governing.terms.slotMinutes⟩
      ((Filter.day a.company a.address date).list rows) = .ok (a.taken date start rows) :=
  Admission.countTaken_day_eq_ok.mpr ⟨h.readable, rfl⟩

/-- Who can book still can after a change to the bookings alone. -/
theorem CanBook.later (h : CanBook w r) (hk : w.collaborators.Echoes w'.collaborators)
    (hlock : w'.store.writeLocked = w.store.writeLocked)
    (hrows : w'.store.bookings = some rows') : CanBook w' r := by
  have hvehicle {v : Vehicle} : r.FindsVehicle w' v ↔ r.FindsVehicle w v := by
    unfold Request.FindsVehicle
    simp only [hk.fetchVehicle]
  -- The service may have lost its price, and nothing else.
  have hservice {s : Service} (hs : r.FindsService w' s) :
      ∃ s₀, r.FindsService w s₀ ∧ s.name = s₀.name ∧ ∀ x ∈ s.price, x ∈ s₀.price := by
    obtain ⟨c, hc, i, hi, hs⟩ := hs
    rcases hk.fetchService c i with hsame | hkept
    · exact ⟨s, ⟨c, hc, i, hi, hsame.symm.trans hs⟩, rfl, fun _ hx => hx⟩
    · rw [hkept] at hs
      cases hs₀ : (fetchService c i).value w.collaborators with
      | error e =>
        rw [hs₀] at hs
        cases hs
      | ok s₀ =>
        rw [hs₀] at hs
        cases hs
        exact ⟨s₀, ⟨c, hc, i, hi, hs₀⟩, rfl, fun x hx => (Option.filter_eq_some_iff.mp hx).1⟩
  refine ⟨⟨rows', hrows⟩, hlock.trans h.unlocked, h.user, ?_, fun s hs x hx => ?_,
    fun s v hs hv t ht => ?_⟩
  · obtain ⟨v, hv, hfits⟩ := h.vehicle
    exact ⟨v, hvehicle.mpr hv, hfits⟩
  · obtain ⟨s₀, hs₀, -, hprice⟩ := hservice hs
    exact h.price s₀ hs₀ x (hprice x hx)
  · obtain ⟨s₀, hs₀, hname, -⟩ := hservice hs
    refine h.texts s₀ v hs₀ (hvehicle.mp hv) t ?_
    unfold Request.keptTexts at ht ⊢
    rwa [← hname]

end Later

/-! ## One more request -/

section Step

variable {w : World} {r p : Request} {date : Date} {t : String} {start : Int} {a : Approach}
  {rows : List Booking}

theorem Admission.Request.starting_self (ht : r.startTime = some t) : r.starting t = r := by
  unfold starting
  rw [← ht]

/-- For a user who can book, a request for the slot is settled after the approach. -/
theorem perform_sameSlot (hr : r.SameSlot p) (hbook : CanBook w r) (hd : p.date = some date)
    (ht : p.startTime = some t) (hm : TimeOfDay.parse t = .ok start) :
    ∃ user v, r.user = some user ∧ r.FindsVehicle w v ∧ (w.perform (.allocate r)).1 = (do
      let a ← approach w p.company p.address p.service date
      let b ← Order.settle ⟨user, a.company, a.address, a.service, date, t, start, r.notes⟩
        w.store w.now a.seller a.governing.terms a.offer v
      return .booking b.1) := by
  obtain ⟨user, v, hu, hv, hperform⟩ := perform_starting (hr.date.trans hd) hbook
  refine ⟨user, v, hu, hv, ?_⟩
  rw [← hr.company, ← hr.address, ← hr.service, ← hperform t start hm,
    Request.starting_self (hr.startTime.trans ht)]

/-- Where a first request is settled by the count, requests for its slot come as far as that; and if
a place is left, the length of the slot fits its column. -/
theorem Counted.of_isCounted (hr : r.SameSlot p) (hbook : CanBook w r) (hd : p.date = some date)
    (ht : p.startTime = some t) (hm : TimeOfDay.parse t = .ok start)
    (hrows : w.store.bookings = some rows) (h : IsCounted (w.perform (.allocate r)).1) :
    ∃ a, Counted w p date start a rows ∧
      ((a.taken date start rows : Int) < a.governing.terms.maxConcurrent →
        Store.Storable a.governing.terms.slotMinutes) := by
  obtain ⟨user, v, -, -, hsettle⟩ := perform_sameSlot hr hbook hd ht hm
  rw [hsettle] at h
  obtain ⟨a, ha, h⟩ := h.of_bind (.approach _ _ _ _ _)
  have hcounted : IsCounted (Order.settle
      ⟨user, a.company, a.address, a.service, date, t, start, r.notes⟩ w.store w.now a.seller
      a.governing.terms a.offer v) := fun f hf => h f (by rw [hf]; rfl)
  obtain ⟨hday, hnotice, bookings, hl, taken, hcount, hadd⟩ := Order.counted_of_settle hcounted
  obtain ⟨rows', hrows', -, rfl⟩ := Store.list_eq_ok.mp hl
  cases hrows.symm.trans hrows'
  obtain ⟨hread, rfl⟩ := Admission.countTaken_day_eq_ok.mp hcount
  exact ⟨a, ⟨⟨a.offer, ha⟩, hday, hnotice, hrows, hread⟩, fun hplace =>
    (hadd hplace).storable _ (by simp [Store.integersOf, Order.booking])⟩

variable (hc : Counted w p date start a rows) (hr : r.SameSlot p) (hbook : CanBook w r)
  (hd : p.date = some date) (ht : p.startTime = some t) (hm : TimeOfDay.parse t = .ok start)

include hc hr hbook hd ht hm

/-- One more request is refused if no place is left. -/
theorem Counted.allocate_full
    (hfull : a.governing.terms.maxConcurrent ≤ (a.taken date start rows : Int)) :
    (w.perform (.allocate r)).1 = .error (.refused
      (.noPlaceLeft (a.taken date start rows) a.governing.terms.maxConcurrent t)) := by
  obtain ⟨user, v, -, -, hsettle⟩ := perform_sameSlot hr hbook hd ht hm
  obtain ⟨offer, ha⟩ := hc.approached
  rw [hsettle, ha, ok_bind, settle_count hc.workingDay hc.notice hc.list hc.countTaken,
    if_pos hfull]
  rfl

/-- One more request takes a place if one is left and the slot length fits its column. -/
theorem Counted.allocate_free
    (hfree : (a.taken date start rows : Int) < a.governing.terms.maxConcurrent)
    (hfits : Store.Storable a.governing.terms.slotMinutes) :
    ∃ b, (w.perform (.allocate r)).1 = .ok (.booking b) := by
  obtain ⟨user, v, hu, hv, hsettle⟩ := perform_sameSlot hr hbook hd ht hm
  obtain ⟨offer, ha⟩ := hc.approached
  have ha' : approach w r.company r.address r.service date = .ok { a with offer } := by
    rwa [hr.company, hr.address, hr.service]
  have hkeeps := keeps_order hbook ha' hfits hu hv t start
  rw [hsettle, ha, ok_bind, settle_count hc.workingDay hc.notice hc.list hc.countTaken,
    if_neg (Int.not_le.mpr hfree),
    Store.addBooking_eq_ok.mpr ⟨rows, hc.bookings, hkeeps, rfl, rfl⟩]
  exact ⟨_, rfl⟩

omit hbook ht in
/-- A booking for the slot takes one of its places. -/
theorem Counted.occupies (hlength : 1 ≤ a.governing.terms.slotMinutes) {b : Booking}
    (ht : p.startTime = some t) (hb : Admission.Booked w r rows b) :
    b.Occupies a.company a.address date ⟨start, a.governing.terms.slotMinutes⟩ := by
  obtain ⟨offer, ha⟩ := hc.approached
  obtain ⟨⟨hcompany, -⟩, ⟨haddress, -⟩, ⟨hservice, -⟩, -, -, -, -, hgov, -⟩ := approach_eq_ok.mp ha
  have hg : r.IsGovernedBy w a.governing := ⟨a.company, hr.company.trans hcompany, a.address,
    hr.address.trans haddress, a.service, hr.service.trans hservice, hgov⟩
  obtain ⟨g, hg', hduration⟩ := hb.duration
  rw [hg'.unique hg] at hduration
  have hstart : b.startTime = t :=
    Option.some.inj (hb.startTime.symm.trans (hr.startTime.trans ht))
  refine ⟨hb.isActive, ⟨?_, ?_, ?_⟩, ⟨start, a.governing.terms.slotMinutes⟩,
    Occupancy.window_eq_ok.mpr ⟨hstart ▸ hm, hduration⟩, ?_⟩
  · exact Option.some.inj (hb.company.symm.trans (hr.company.trans hcompany))
  · exact Option.some.inj (hb.address.symm.trans (hr.address.trans haddress))
  · exact Option.some.inj (hb.date.symm.trans (hr.date.trans hd))
  · have hstops : start < start + a.governing.terms.slotMinutes := by omega
    exact ⟨hstops, hstops⟩

end Step

/-! ## All requests -/

section All

variable {w : World} {r p : Request} {date : Date} {t : String} {start : Int} {a : Approach}
  {rows rows' : List Booking}

/-- After an operation that changes the bookings alone, requests for the slot still come to the
count. -/
theorem Counted.after (hc : Counted w p date start a rows) {op : Operation}
    (hstore : (w.perform op).2.store = { w.store with bookings := some rows' })
    (hread : ∀ b ∈ rows', b.IsActive → b.IsAt a.company a.address date → b.Readable) :
    Counted (w.perform op).2 p date start a rows' :=
  hc.later (w.perform_echoes op) (w.perform_now op) (by rw [hstore]) (by rw [hstore]) hread

theorem CanBook.after (h : CanBook w r) {op : Operation}
    (hstore : (w.perform op).2.store = { w.store with bookings := some rows' }) :
    CanBook (w.perform op).2 r :=
  h.later (w.perform_echoes op) (by rw [hstore]) (by rw [hstore])

theorem Approach.taken_concat {b : Booking}
    (h : b.Occupies a.company a.address date ⟨start, a.governing.terms.slotMinutes⟩) :
    a.taken date start (rows ++ [b]) = a.taken date start rows + 1 := by
  unfold taken
  rw [countP_occupies_concat h.1, if_pos h.2]

/-- Requests for the slot take its places one by one, and are refused once none is left. -/
theorem Counted.performAll (hd : p.date = some date) (ht : p.startTime = some t)
    (hm : TimeOfDay.parse t = .ok start) (hlength : 1 ≤ a.governing.terms.slotMinutes)
    {rs : List Request} (hc : Counted w p date start a rows)
    (hfits : (a.taken date start rows : Int) < a.governing.terms.maxConcurrent →
      Store.Storable a.governing.terms.slotMinutes)
    (hrs : ∀ r ∈ rs, r.SameSlot p ∧ CanBook w r) : ∃ bs : List Booking,
      bs.length = min rs.length
        (a.governing.terms.maxConcurrent - a.taken date start rows).toNat ∧
      (w.performAll (rs.map .allocate)).1 = bs.map (fun b => .ok (.booking b)) ++
        List.replicate (rs.length - bs.length) (.error (.refused (.noPlaceLeft
          (a.taken date start rows + bs.length) a.governing.terms.maxConcurrent t))) ∧
      (w.performAll (rs.map .allocate)).2.store =
        { w.store with bookings := some (rows ++ bs) } := by
  induction rs generalizing w rows with
  | nil =>
    refine ⟨[], by simp, rfl, ?_⟩
    rw [List.append_nil, ← hc.bookings]
    rfl
  | cons r rs ih =>
    rw [List.forall_mem_cons] at hrs
    obtain ⟨⟨hr, hbook⟩, hrs⟩ := hrs
    rw [List.map_cons, World.performAll_cons]
    by_cases hfree : (a.taken date start rows : Int) < a.governing.terms.maxConcurrent
    · obtain ⟨b, hb⟩ := hc.allocate_free hr hbook hd ht hm hfree (hfits hfree)
      obtain ⟨-, rows', hrows', hbooked, hread, hstore⟩ := Admission.committed hb
      cases hc.bookings.symm.trans hrows'
      have htaken : a.taken date start (rows ++ [b]) = a.taken date start rows + 1 :=
        Approach.taken_concat (hc.occupies hr hd hm hlength ht hbooked)
      have hnext : Counted (w.perform (.allocate r)).2 p date start a (rows ++ [b]) := by
        refine hc.after hstore fun c hmem hact hat => ?_
        rcases List.mem_append.mp hmem with hmem | hmem
        · exact hc.readable c hmem hact hat
        · exact List.mem_singleton.mp hmem ▸ hread
      obtain ⟨bs, hlen, houts, hstores⟩ := ih hnext (fun _ => hfits hfree) fun q hq =>
        ⟨(hrs q hq).1, (hrs q hq).2.after hstore⟩
      refine ⟨b :: bs, ?_, ?_, ?_⟩
      · rw [htaken] at hlen
        simp only [List.length_cons, hlen]
        omega
      · rw [hb, houts, htaken]
        simp only [List.map_cons, List.cons_append, List.length_cons, Nat.add_sub_add_right,
          Nat.add_assoc, Nat.add_comm 1]
      · rw [hstores, hstore, List.append_assoc]
        rfl
    · have hfull := Int.not_lt.mp hfree
      have hout := hc.allocate_full hr hbook hd ht hm hfull
      have hstore : (w.perform (.allocate r)).2.store =
          { w.store with bookings := some rows } := by
        obtain ⟨b, s', -, hok, -⟩ | ⟨f, -, -, hsame⟩ := Admission.perform_allocate w r
        · rw [hout] at hok
          cases hok
        · rw [hsame, ← hc.bookings]
      obtain ⟨bs, hlen, houts, hstores⟩ := ih (hc.after hstore hc.readable)
        (fun h => absurd h hfree) fun q hq => ⟨(hrs q hq).1, (hrs q hq).2.after hstore⟩
      have hnone : bs = [] := by
        rw [Int.toNat_of_nonpos (by omega), Nat.min_zero] at hlen
        exact List.eq_nil_of_length_eq_zero hlen
      subst hnone
      refine ⟨[], ?_, ?_, ?_⟩
      · rw [Int.toNat_of_nonpos (by omega), Nat.min_zero]
        rfl
      · rw [hout, houts]
        rfl
      · rw [hstores, hstore]

end All

/-- Whose request is admitted has a positive id, and what is kept for it can be encoded. -/
theorem Admission.qualified {w : World} {r : Request} {b : Booking}
    (h : (w.perform (.allocate r)).1 = .ok (.booking b)) : (∃ u ∈ r.user, 0 < u) ∧
      ∃ s v, r.FindsService w s ∧ r.FindsVehicle w v ∧
        ∀ t ∈ r.keptTexts s v, t.unencodable? = none := by
  obtain ⟨b', s', hvalue, -⟩ | ⟨f, -, hout, -⟩ := perform_allocate w r
  · rw [allocate_value] at hvalue
    simp only [bind_eq_ok] at hvalue
    obtain ⟨o, ho, ⟨c, s, v⟩, hl, ha⟩ := hvalue
    obtain ⟨-, hs, hv⟩ := Order.lookUp_eq_ok hl
    obtain ⟨-, g, -, -, -, -, bs, -, taken, -, -, hadd⟩ := Order.admit_eq_ok.mp ha
    obtain ⟨rows, -, hkeeps, -⟩ := Store.addBooking_eq_ok.mp hadd
    obtain ⟨⟨hu, hpos⟩, -, -, -, -, -, -, hnotes⟩ := Request.order_eq_ok.mp ho
    refine ⟨⟨o.user, hu, hpos⟩, s, v, (Request.findsService_iff ho).mpr hs,
      (Request.findsVehicle_iff ho).mpr hv, fun t ht => hkeeps.texts t ?_⟩
    unfold Request.keptTexts at ht
    rwa [hnotes] at ht
  · rw [hout] at h
    cases h

/-! ## A slot with free places -/

section Sample

open Admission (sampleRequest sampleService sampleWorld sample_fits sample_findsService
  sample_isGovernedBy sample_startsAt)

/-- The sample request, by another user. -/
def requestBy (user : Int) : Request := { sampleRequest with user := some user }

theorem requestBy_sameSlot (user : Int) : (requestBy user).SameSlot sampleRequest :=
  ⟨rfl, rfl, rfl, rfl, rfl⟩

/-- The sample world without the booking. User 0 has a vehicle as well, and so has user 8, whose
vehicle has a brand that cannot be encoded. -/
def emptyWorld : World :=
  let sample := sampleWorld "" false
  { sample with
    store := { sample.store with bookings := some [] }
    collaborators := { sample.collaborators with
      answer := fun path =>
        if path = "/internal/users/0/cars/selected" then
          .reply 200 (.ok (Vehicle.toJson ⟨5, none, none, none, none, none, none⟩))
        else if path = "/internal/users/8/cars/selected" then
          .reply 200 (.ok (Vehicle.toJson ⟨6, none, some ⟨[.lone 0]⟩, none, none, none, none⟩))
        else sample.collaborators.answer path } }

theorem emptyWorld_approach :
    approach emptyWorld (some 1) (some 1) (some 1) sampleDate =
      .ok ⟨1, 1, 1, Admission.sampleCompany, sampleService,
        .ofRule ⟨1, ⟨1, none, none⟩, ⟨30, 2, 14, 60⟩⟩⟩ :=
  sample_approach "" false

theorem emptyWorld_findsService : sampleRequest.FindsService emptyWorld sampleService :=
  ⟨1, rfl, 1, rfl, rfl⟩

theorem emptyWorld_findsVehicle :
    sampleRequest.FindsVehicle emptyWorld ⟨3, none, some "", none, none, none, none⟩ :=
  ⟨7, rfl, rfl⟩

theorem emptyWorld_canBook : CanBook emptyWorld sampleRequest where
  bookings := ⟨_, rfl⟩
  unlocked := rfl
  user := ⟨7, rfl, by decide, by decide⟩
  vehicle := ⟨_, emptyWorld_findsVehicle, (by decide : Store.Storable 3)⟩
  price := by
    intro s hs x hx
    rw [hs.unique emptyWorld_findsService] at hx
    cases hx
  texts := by
    intro s v hs hv t ht
    rw [hs.unique emptyWorld_findsService, hv.unique emptyWorld_findsVehicle] at ht
    rcases List.mem_cons.mp ht with rfl | ht
    · exact rfl
    · rw [List.mem_singleton.mp ht]
      exact rfl

/-- The sample request is admitted. -/
theorem emptyWorld_admits :
    ∃ b, (emptyWorld.perform (.allocate sampleRequest)).1 = .ok (.booking b) := by
  have hc : Counted emptyWorld sampleRequest sampleDate 600 ⟨1, 1, 1, Admission.sampleCompany,
      sampleService, .ofRule ⟨1, ⟨1, none, none⟩, ⟨30, 2, 14, 60⟩⟩⟩ [] :=
    ⟨⟨sampleService, emptyWorld_approach⟩, by decide, nofun, rfl,
      fun b hb => absurd hb List.not_mem_nil⟩
  have hm : TimeOfDay.parse "10:00" = .ok 600 := rfl
  have hfree : (0 : Int) < 2 := by decide
  have hfits : Store.Storable 30 := by decide
  exact hc.allocate_free (requestBy_sameSlot 7) emptyWorld_canBook rfl rfl hm hfree hfits

end Sample

/-- **A slot is filled exactly.** Requests come one after another for one slot, under one clock and
the same answers of the collaborators, from users who can book. Where the first is settled by the
count of places, the first ones take what is free at the beginning, all others are refused, and the
table of bookings has one new row for each place that was taken. -/
theorem free_places_filled {w : World} {p : Request} {g : Capacity.Governing} {n : Nat}
    {rows : List Booking} {t : String} {rs : List Request} (hrows : w.store.bookings = some rows)
    (hg : p.IsGovernedBy w g) (hn : p.FindsTaken w g n) (ht : p.startTime = some t)
    (hlength : 1 ≤ g.terms.slotMinutes) (hrs : ∀ r ∈ rs, r.SameSlot p ∧ CanBook w r)
    (hfirst : ∀ r ∈ rs.head?, IsCounted (w.perform (.allocate r)).1) :
    ∃ bs : List Booking, bs.length = min rs.length (g.terms.maxConcurrent - n).toNat ∧
      (w.performAll (rs.map .allocate)).1 = bs.map (fun b => .ok (.booking b)) ++
        List.replicate (rs.length - bs.length)
          (.error (.refused (.noPlaceLeft (n + bs.length) g.terms.maxConcurrent t))) ∧
      (w.performAll (rs.map .allocate)).2.store =
        { w.store with bookings := some (rows ++ bs) } := by
  cases rs with
  | nil =>
    refine ⟨[], by simp, rfl, ?_⟩
    rw [List.append_nil, ← hrows]
    rfl
  | cons r rs =>
    obtain ⟨c, hcompany, address, haddress, date, hd, start, ⟨t', ht', hm⟩, rows', hrows', rfl⟩ :=
      hn
    cases hrows.symm.trans hrows'
    cases ht.symm.trans ht'
    obtain ⟨hr, hbook⟩ := hrs r List.mem_cons_self
    obtain ⟨a, hc, hfits⟩ := Counted.of_isCounted hr hbook hd ht hm hrows (hfirst r rfl)
    obtain ⟨offer, ha⟩ := hc.approached
    obtain ⟨⟨hcompany', -⟩, ⟨haddress', -⟩, ⟨hservice, -⟩, -, -, -, -, hgov, -⟩ :=
      approach_eq_ok.mp ha
    obtain rfl : c = a.company := Option.some.inj (hcompany.symm.trans hcompany')
    obtain rfl : address = a.address := Option.some.inj (haddress.symm.trans haddress')
    obtain rfl : g = a.governing :=
      hg.unique ⟨a.company, hcompany, a.address, haddress, a.service, hservice, hgov⟩
    exact hc.performAll hd ht hm hlength hfits hrs

section Sample

open Admission (sampleBooking sampleRequest sampleWorld sample_fits sample_isGovernedBy sample_met
  sample_startsAt)

/-- Of two requests for the last place the first takes it. -/
theorem free_places_filled_sample : ∃ b,
    ((sampleWorld "" false).performAll [.allocate sampleRequest, .allocate sampleRequest]).1 =
      [.ok (.booking b), .error (.refused (.noPlaceLeft 2 2 "10:00"))] ∧
    ((sampleWorld "" false).performAll
      [.allocate sampleRequest, .allocate sampleRequest]).2.store.bookings =
      some [sampleBooking, b] := by
  have hrs : ∀ r ∈ [sampleRequest, sampleRequest],
      r.SameSlot sampleRequest ∧ CanBook (sampleWorld "" false) r := by
    have hr : sampleRequest.SameSlot sampleRequest := ⟨rfl, rfl, rfl, rfl, rfl⟩
    simp [hr, sample_canBook "" rfl]
  have htaken : sampleRequest.FindsTaken (sampleWorld "" false)
      (.ofRule ⟨1, ⟨1, none, none⟩, ⟨30, 2, 14, 60⟩⟩) 1 :=
    ⟨1, rfl, 1, rfl, _, rfl, 600, sample_startsAt, _, rfl, by decide⟩
  obtain ⟨b, hb⟩ := (Admission.perform_ok_iff (sample_fits "" false)).mpr fun _ =>
    sample_met "" false (fun _ => rfl) fun _ => rfl
  obtain ⟨bs, hlen, houts, hstore⟩ := free_places_filled rfl (sample_isGovernedBy "" false) htaken
    rfl (by decide) hrs (by simp [IsCounted, hb])
  obtain ⟨b', rfl⟩ := List.length_eq_one_iff.mp hlen
  exact ⟨b', houts, congrArg (·.bookings) hstore⟩

/-- Being free is not enough: of the two places at 10:00, the second user gets none, neither user 0,
whose id is not positive, nor user 8, whose vehicle cannot be kept. -/
theorem free_place_not_filled :
    sampleRequest.IsGovernedBy emptyWorld (.ofRule ⟨1, ⟨1, none, none⟩, ⟨30, 2, 14, 60⟩⟩) ∧
    sampleRequest.FindsTaken emptyWorld (.ofRule ⟨1, ⟨1, none, none⟩, ⟨30, 2, 14, 60⟩⟩) 0 ∧
    (∀ s, sampleRequest.FindsService emptyWorld s → ∀ x ∈ s.price, ¬ x.IsNaN) ∧
    (∃ b, (emptyWorld.perform (.allocate sampleRequest)).1 = .ok (.booking b)) ∧
    ∀ u ∈ [0, 8], (requestBy u).SameSlot sampleRequest ∧ Store.Storable u ∧
      (∃ v, (requestBy u).FindsVehicle emptyWorld v ∧ Store.Storable v.id) ∧
      ∀ b b', (emptyWorld.performAll [.allocate sampleRequest, .allocate (requestBy u)]).1 ≠
        [.ok (.booking b), .ok (.booking b')] := by
  refine ⟨⟨1, rfl, 1, rfl, 1, rfl, rfl⟩,
    ⟨1, rfl, 1, rfl, _, rfl, 600, sample_startsAt, [], rfl, rfl⟩, emptyWorld_canBook.price,
    emptyWorld_admits, fun u hu => ⟨requestBy_sameSlot u, ?_⟩⟩
  rcases List.mem_cons.mp hu with rfl | hu
  · refine ⟨by decide, ⟨_, ⟨0, rfl, rfl⟩, (by decide : Store.Storable 5)⟩, fun b b' h => ?_⟩
    obtain ⟨u, hu, hpos⟩ := (Admission.qualified (List.cons.inj (List.cons.inj h).2).1).1
    cases hu
    exact absurd hpos (Int.lt_irrefl 0)
  · rw [List.mem_singleton.mp hu]
    have hv : (requestBy 8).FindsVehicle emptyWorld
        ⟨6, none, some ⟨[.lone 0]⟩, none, none, none, none⟩ := ⟨8, rfl, rfl⟩
    refine ⟨by decide, ⟨_, hv, (by decide : Store.Storable 6)⟩, fun b b' h => ?_⟩
    obtain ⟨-, s, v, -, ⟨_, ⟨⟩, hv'⟩, htexts⟩ :=
      Admission.qualified (List.cons.inj (List.cons.inj h).2).1
    rw [(emptyWorld.perform_echoes (.allocate sampleRequest)).fetchVehicle] at hv'
    cases hv.unique ⟨8, rfl, hv'⟩
    exact absurd (htexts _ (List.mem_cons_of_mem _ List.mem_cons_self)) nofun

end Sample

end SlotBooking
