import Mathlib.Logic.Relation
import SlotBooking.Proofs.Filling
import SlotBooking.Proofs.Isolation
import SlotBooking.Proofs.Listing
import SlotBooking.Proofs.SharedMinutes

/-!
# Requests that do not conflict

Two requests conflict if they are for one day at one address and want windows that overlap. A
booking that was made for a request makes no difference to those that do not conflict with it: it is
not among what they count, nor does it hide a start time that cannot be read. So requests of which
no two conflict end the same in any order, each as if it were alone.

* `Collaborators.Fixed`: what is read stays the same, however often it is read.
* `FirstUnreadable`, `Admission.countTaken_day_eq_error`: which start time a count fails at.
* `Admission.countTaken_day_append`: rows that make no difference to a count.
* `Request.Wants`, `Request.Conflicts`: the window of a request, and what conflicts with it.
* `Admission.allocate_overlooking`: a request among bookings that make no difference to it.
* `World.LedTo`: a world that requests have led to. `World.LedTo.step` adds a request that conflicts
  with none of them, and `World.LedTo.run` a list.
* `independent_allocations`: the main statement.
-/

namespace SlotBooking

open Directory (Collaborators Lookup Source)
open Admission (Booked Order Request countTaken)

/-! ## Fixed answers -/

namespace Directory.Collaborators

/-- The second are the first after some reads. -/
def Asked (k k' : Collaborators) : Prop :=
  Relation.ReflTransGen (fun k k' => ∃ s : Source, k' = s.read.after k) k k'

/-- Whatever has been read, what is read is the same. -/
def Fixed (k : Collaborators) : Prop := ∀ k', k.Asked k' → k.SaysSame k'

variable {k k' : Collaborators}

theorem Asked.echoes (h : k.Asked k') : k.Echoes k' := by
  induction h with
  | refl => exact .refl k
  | tail _ hread ih =>
    obtain ⟨s, rfl⟩ := hread
    exact ih.trans (echoes_read s _)

/-- What no read changes is the same after some. -/
theorem Asked.same {α : Type} {f : Collaborators → α} (h : k.Asked k')
    (hf : ∀ (s : Source) (k : Collaborators), f (s.read.after k) = f k) : f k' = f k := by
  induction h with
  | refl => rfl
  | tail _ hread ih =>
    obtain ⟨s, rfl⟩ := hread
    rw [hf, ih]

theorem Asked.answer (h : k.Asked k') : k'.answer = k.answer := h.same Source.answer_read

theorem Asked.ttl (h : k.Asked k') : k'.cache.ttl = k.cache.ttl :=
  h.same (f := fun k => k.cache.ttl) Source.ttl_read

theorem Asked.failsGet (h : k.Asked k') : k'.cache.failsGet = k.cache.failsGet :=
  h.same (f := fun k => k.cache.failsGet) Source.failsGet_read

/-- Without a cache answers are fixed, and with one if all prices are finite. -/
theorem fixed (h : k.cache.ttl ≤ 0 ∨ ∀ c id v, (Source.service c id).read.value k = .ok v →
    ∀ p ∈ v.price, p.IsFinite) : k.Fixed := by
  intro k' hk'
  rcases h with httl | hprice
  · intro s
    have httl' : k'.cache.ttl ≤ 0 := hk'.ttl ▸ httl
    rw [Source.read_value, Source.read_value, if_pos (.inl httl'), if_pos (.inl httl)]
    exact Source.answered_congr hk'.answer
  · exact hk'.echoes.saysSame fun c id v hv => hprice c id v hv

end Directory.Collaborators

theorem Script.asked {ε α : Type} (p : Script ε α) (k : Collaborators) :
    k.Asked (p.run.after k) := by
  induction p generalizing k with
  | done r => exact .refl
  | read s next ih => exact .head ⟨s, rfl⟩ (ih _ _)

/-- An operation reads what it asks for. -/
theorem World.perform_asked (w : World) (op : Operation) :
    w.collaborators.Asked (w.perform op).2.collaborators := by
  rw [perform_collaborators]
  obtain ⟨p, hp⟩ := op.scripted w.store w.now
  rw [← hp]
  exact p.asked _

/-! ## Counting among more rows -/

section Count

variable {company address : Int} {date : Date} {rows new : List Booking} {w : Window} {f : Failure}

/-- The booking is active on that day and cannot be read, and no other such booking of the rows has
an earlier start time, as a text. -/
structure FirstUnreadable (company address : Int) (date : Date) (rows : List Booking)
    (b : Booking) : Prop where
  mem : b ∈ rows
  active : b.IsActive
  here : b.IsAt company address date
  unreadable : ¬ b.Readable
  first : ∀ c ∈ rows, c.IsActive → c.IsAt company address date → ¬ c.Readable →
    b.startTime ≤ c.startTime

namespace FirstUnreadable

variable {b c : Booking}

theorem startTime_eq (hb : FirstUnreadable company address date rows b)
    (hc : FirstUnreadable company address date rows c) : b.startTime = c.startTime :=
  String.le_antisymm (hb.first c hc.mem hc.active hc.here hc.unreadable)
    (hc.first b hb.mem hb.active hb.here hb.unreadable)

theorem append (h : FirstUnreadable company address date rows b) (hnew : ∀ c ∈ new, c.Readable) :
    FirstUnreadable company address date (rows ++ new) b where
  mem := List.mem_append_left _ h.mem
  active := h.active
  here := h.here
  unreadable := h.unreadable
  first c hc hact hat hunread := by
    rcases List.mem_append.mp hc with hc | hc
    · exact h.first c hc hact hat hunread
    · exact absurd (hnew c hc) hunread

end FirstUnreadable

theorem Admission.firstUnreadable_of_error
    (h : countTaken w ((Filter.day company address date).list rows) = .error f) :
    ∃ b e, FirstUnreadable company address date rows b ∧
      TimeOfDay.parse b.startTime = .error e ∧ f = .unreadableTime e := by
  obtain ⟨e, he, rfl⟩ := mapError_eq_error.mp h
  obtain ⟨before, o, after, hsplit, hbefore, -, hparse⟩ := countOverlaps_eq_error.mp he
  obtain ⟨bs, bs', hlist, rfl, hrest⟩ := List.map_eq_append_iff.mp hsplit
  obtain ⟨b, bs', rfl, rfl, rfl⟩ := List.map_eq_cons_iff.mp hrest
  have hmem {c : Booking} :
      c ∈ bs ++ b :: bs' ↔ c ∈ rows ∧ c.IsActive ∧ c.IsAt company address date := by
    rw [← hlist, Filter.mem_list, Filter.day_admits]
  have hsorted : ((Filter.day company address date).list rows).Pairwise
      fun b c => b.startTime ≤ c.startTime := Filter.pairwise_list_day ⟨rfl, rfl⟩
  rw [hlist] at hsorted
  obtain ⟨-, hsorted, -⟩ := List.pairwise_append.mp hsorted
  obtain ⟨hb, hact, hat⟩ := hmem.mp (List.mem_append_right _ List.mem_cons_self)
  have hunread : ¬ b.Readable := Occupancy.not_readable_iff.mpr ⟨e, hparse⟩
  refine ⟨b, e, ⟨hb, hact, hat, hunread, fun c hc hcact hcat hcunread => ?_⟩, hparse, rfl⟩
  -- The bookings that the listing shows before `b` can be read; the others start no earlier.
  rcases List.mem_append.mp (hmem.mpr ⟨hc, hcact, hcat⟩) with hc | hc
  · exact absurd (hbefore _ (List.mem_map_of_mem hc) hcact) hcunread
  · rcases List.mem_cons.mp hc with rfl | hc
    · exact String.le_refl _
    · exact (List.pairwise_cons.mp hsorted).1 c hc

/-- A count fails at the start time that comes first, as a text, among those that cannot be read. -/
theorem Admission.countTaken_day_eq_error :
    countTaken w ((Filter.day company address date).list rows) = .error f ↔
      ∃ b e, FirstUnreadable company address date rows b ∧
        TimeOfDay.parse b.startTime = .error e ∧ f = .unreadableTime e := by
  refine ⟨firstUnreadable_of_error, ?_⟩
  rintro ⟨b, e, hb, hparse, rfl⟩
  cases hcount : countTaken w ((Filter.day company address date).list rows) with
  | ok n =>
    obtain ⟨hread, -⟩ := countTaken_day_eq_ok.mp hcount
    exact absurd (hread b hb.mem hb.active hb.here) hb.unreadable
  | error f =>
    obtain ⟨c, e', hc, hparse', rfl⟩ := firstUnreadable_of_error hcount
    rw [hb.startTime_eq hc, hparse'] at hparse
    rw [Except.error.inj hparse]

/-- Rows that can be read, and do not meet the window on that day, make no difference to a count. -/
theorem Admission.countTaken_day_append
    (hnew : ∀ b ∈ new, b.Readable ∧ (b.IsAt company address date → ¬ b.Meets w)) :
    countTaken w ((Filter.day company address date).list (rows ++ new)) =
      countTaken w ((Filter.day company address date).list rows) := by
  cases hcount : countTaken w ((Filter.day company address date).list rows) with
  | ok n =>
    obtain ⟨hread, rfl⟩ := countTaken_day_eq_ok.mp hcount
    refine countTaken_day_eq_ok.mpr ⟨fun b hb hact hat => ?_, ?_⟩
    · rcases List.mem_append.mp hb with hb | hb
      · exact hread b hb hact hat
      · exact (hnew b hb).1
    · have hnone : (new.countP fun b => decide (b.Occupies company address date w)) = 0 := by
        refine List.countP_eq_zero.mpr fun b hb hoccupies => ?_
        obtain ⟨-, hat, hmeets⟩ := of_decide_eq_true hoccupies
        exact (hnew b hb).2 hat hmeets
      rw [List.countP_append, hnone, Nat.add_zero]
  | error f =>
    obtain ⟨b, e, hb, he⟩ := countTaken_day_eq_error.mp hcount
    exact countTaken_day_eq_error.mpr ⟨b, e, hb.append fun c hc => (hnew c hc).1, he⟩

end Count

/-! ## An admission among more rows -/

/-- The store with more bookings. -/
def Store.withBookings (s : Store) (new : List Booking) : Store :=
  { s with bookings := s.bookings.map (· ++ new) }

namespace Store

variable {s : Store} {new : List Booking}

@[simp] theorem withBookings_nil (s : Store) : s.withBookings [] = s := by
  unfold withBookings
  simp

theorem withBookings_withBookings (s : Store) (new more : List Booking) :
    (s.withBookings new).withBookings more = s.withBookings (new ++ more) := by
  unfold withBookings
  simp [Function.comp_def]

theorem withBookings_of_none (h : s.bookings = none) : s.withBookings new = s := by
  unfold withBookings
  rw [h]
  exact congrArg (Store.mk · s.rules s.writeLocked) h.symm

theorem withBookings_bookings {rows : List Booking} (h : s.bookings = some rows) :
    (s.withBookings new).bookings = some (rows ++ new) := by
  unfold withBookings
  rw [h]
  rfl

/-- A booking is added under another id, and nothing else about it differs. -/
theorem addBooking_withBookings (s : Store) (new : List Booking) (b : Booking) :
    EndsAlike (fun p p' => p.1.withoutId = p'.1.withoutId) ((s.withBookings new).addBooking b)
      ( s.addBooking b) := by
  unfold addBooking
  cases hrows : s.bookings with
  | none =>
    rw [withBookings_of_none hrows, hrows]
    exact .error _
  | some rows =>
    rw [withBookings_bookings hrows]
    simp only [Store.rows, ok_bind]
    refine .bind_same fun _ _ => .bind_same fun _ _ => .ite (fun _ => .error _) fun _ => ?_
    exact .ok rfl

end Store

/-- The number of bookings that take a place of the window is the same among more rows. -/
theorem Admission.Order.admit_withBookings {o : Order} {s : Store} {now : Instant}
    {new : List Booking} (hnew : ∀ g, s.governing o.scope = .ok g → ∀ b ∈ new, b.Readable ∧
      (b.IsAt o.company o.address o.date → ¬ b.Meets ⟨o.start, g.terms.slotMinutes⟩))
    (c : Directory.Company) (v : Directory.Service) (u : Directory.Vehicle) :
    EndsAlike (fun p p' => p.1.withoutId = p'.1.withoutId) ( o.admit (s.withBookings new) now c v u)
      ( o.admit s now c v u) := by
  unfold Order.admit
  -- Up to the listing only the lock and the rules are looked at, which are those of `s`.
  refine .bind_same fun _ _ => .bind_same fun g hg => ?_
  refine .bind_same fun _ _ => .ite (fun _ => .error _) fun _ => .bind_same fun _ _ => ?_
  cases hrows : s.bookings with
  | none =>
    have hlist :
        s.list (.day o.company o.address o.date) = refuse (.accessFailed .bookingList) := by
      unfold Store.list
      rw [hrows]
      rfl
    rw [Store.withBookings_of_none hrows, hlist]
    exact .error _
  | some rows =>
    unfold Store.list
    rw [Store.withBookings_bookings hrows, hrows]
    simp only [Store.rows, ok_bind, bind_assoc, pure_bind]
    refine .bind_same fun _ _ => ?_
    rw [countTaken_day_append (hnew g hg)]
    exact .bind_same fun _ _ => .ite (fun _ => .error _) fun _ => Store.addBooking_withBookings ..

/-! ## Requests that conflict -/

namespace Admission.Request

/-- The window that the request asks for, of the length that governs. -/
def Wants (r : Request) (w : World) (v : Window) : Prop :=
  ∃ g, r.IsGovernedBy w g ∧ r.StartsAt v.start ∧ v.duration = g.terms.slotMinutes

/-- Both requests are for one date at one address of a company, and want windows that overlap. -/
structure Conflicts (w : World) (r r' : Request) : Prop where
  company : r.company = r'.company
  address : r.address = r'.address
  date : r.date = r'.date
  windows : ∃ v v', r.Wants w v ∧ r'.Wants w v' ∧ v.Overlaps v'

/-- The booking is for the company, the address and the date of the request, and for the window that
it wants. -/
structure Yields (w : World) (r : Request) (b : Booking) : Prop where
  company : r.company = some b.company
  address : r.address = some b.address
  date : r.date = some b.date
  window : ∃ v, b.window = .ok v ∧ r.Wants w v

/-- The booking makes no difference to what the request finds taken. -/
def Overlooks (w : World) (r : Request) (b : Booking) : Prop :=
  b.Readable ∧ ∀ v, r.Wants w v → r.company = some b.company → r.address = some b.address →
    r.date = some b.date → ¬ b.Meets v

variable {w : World} {p r : Request} {b : Booking}

theorem Conflicts.symm (h : p.Conflicts w r) : r.Conflicts w p := by
  obtain ⟨v, v', hv, hv', hoverlap⟩ := h.windows
  exact ⟨h.company.symm, h.address.symm, h.date.symm, v', v, hv', hv, hoverlap.symm⟩

/-- A request overlooks the booking of another one that does not conflict with it. -/
theorem Yields.overlooked (h : p.Yields w b) (hr : ¬ p.Conflicts w r) : r.Overlooks w b := by
  obtain ⟨u, hu, hwants⟩ := h.window
  refine ⟨⟨u, hu⟩, fun v hv hc ha hd hmeets => hr ?_⟩
  exact ⟨h.company.trans hc.symm, h.address.trans ha.symm, h.date.trans hd.symm, u, v, hwants, hv,
    ((Occupancy.meets_iff hu).mp hmeets).symm⟩

end Admission.Request

namespace Admission

variable {w w' : World} {r : Request} {b : Booking} {new : List Booking}

/-- The governing terms do not depend on the bookings. -/
theorem Request.isGovernedBy_withBookings (hstore : w'.store = w.store.withBookings new)
    {g : Capacity.Governing} : r.IsGovernedBy w' g ↔ r.IsGovernedBy w g := by
  unfold IsGovernedBy
  rw [hstore]
  exact Iff.rfl

/-- The booking of a request, in a world with more bookings. -/
theorem Booked.yields {rows : List Booking} (h : Booked w' r rows b) (hread : b.Readable)
    (hstore : w'.store = w.store.withBookings new) : r.Yields w b := by
  obtain ⟨v, hv⟩ := hread
  obtain ⟨hstart, hduration⟩ := Occupancy.window_eq_ok.mp hv
  obtain ⟨g, hg, hlength⟩ := h.duration
  refine ⟨h.company, h.address, h.date, v, hv, g, ?_, ⟨b.startTime, h.startTime, hstart⟩, ?_⟩
  · exact (Request.isGovernedBy_withBookings hstore).mp hg
  · rw [← hduration, ← hlength]

/-- Among bookings that it overlooks, and while the collaborators say the same, a request ends the
same, but for the id of its booking. -/
theorem allocate_overlooking (hk : w.collaborators.SaysSame w'.collaborators)
    (hnow : w'.now = w.now) (hstore : w'.store = w.store.withBookings new)
    (hnew : ∀ b ∈ new, r.Overlooks w b) :
    (w'.perform (.allocate r)).1.map Outcome.withoutId =
      (w.perform (.allocate r)).1.map Outcome.withoutId := by
  have hends : EndsAlike (fun p p' => p.1.withoutId = p'.1.withoutId)
      ((allocate w'.store w'.now r).value w'.collaborators)
      ((allocate w.store w.now r).value w.collaborators) := by
    rw [allocate_value, allocate_value, hnow, hstore]
    refine .bind_same fun o ho => ?_
    rw [hk.lookUp]
    refine .bind_same fun (c, v, u) _ => Order.admit_withBookings (fun g hg b hb => ?_) c v u
    obtain ⟨hread, hmisses⟩ := hnew b hb
    obtain ⟨-, ⟨hc, -⟩, ⟨ha, -⟩, -, hd, -⟩ := Request.order_eq_ok.mp ho
    refine ⟨hread, fun ⟨hcompany, haddress, hdate⟩ => hmisses _ ?_ ?_ ?_ ?_⟩
    · exact ⟨g, (Request.isGovernedBy_iff ho).mpr hg, (Request.startsAt_iff ho).mpr rfl, rfl⟩
    · rw [hc, hcompany]
    · rw [ha, haddress]
    · rw [hd, hdate]
  rw [perform_allocate_fst, perform_allocate_fst]
  generalize (allocate w'.store w'.now r).value w'.collaborators = x at hends
  generalize (allocate w.store w.now r).value w.collaborators = y at hends
  cases hends with
  | ok h => exact congrArg (fun b => Except.ok (Outcome.booking b)) h
  | error f => rfl

end Admission

/-! ## One after another -/

/-- The booking that was made, if one was. -/
def Outcome.booked? : Except Failure Outcome → Option Booking
  | .ok (.booking b) => some b
  | _ => none

/-- The booking that a request leads to on its own, without an id. -/
def Admission.Request.alone? (w : World) (r : Request) : Option Booking :=
  Outcome.booked? ((w.perform (.allocate r)).1.map Outcome.withoutId)

/-- Requests have led from the first world to the second, and have made these bookings. -/
structure World.LedTo (w : World) (rs : List Request) (w' : World) (new : List Booking) : Prop where
  now : w'.now = w.now
  asked : w.collaborators.Asked w'.collaborators
  store : w'.store = w.store.withBookings new
  yielded : ∀ b ∈ new, ∃ r ∈ rs, r.Yields w b

namespace World.LedTo

variable {w w' : World} {past rs : List Request} {r : Request} {new : List Booking}

theorem start (w : World) : w.LedTo [] w [] :=
  ⟨rfl, .refl, w.store.withBookings_nil.symm, fun _ hb => absurd hb List.not_mem_nil⟩

/-- One more request, which conflicts with none before it, ends as it does alone, and makes the
booking that it makes alone, if any. -/
theorem step (h : w.LedTo past w' new) (hk : w.collaborators.Fixed)
    (hr : ∀ p ∈ past, ¬ p.Conflicts w r) :
    (w'.perform (.allocate r)).1.map Outcome.withoutId =
      (w.perform (.allocate r)).1.map Outcome.withoutId ∧
    ∃ more, w.LedTo (past ++ [r]) (w'.perform (.allocate r)).2 (new ++ more) ∧
      more.map Booking.withoutId = (r.alone? w).toList := by
  have hout : (w'.perform (.allocate r)).1.map Outcome.withoutId =
      (w.perform (.allocate r)).1.map Outcome.withoutId := by
    refine Admission.allocate_overlooking (hk _ h.asked) h.now h.store fun b hb => ?_
    obtain ⟨p, hp, hyields⟩ := h.yielded b hb
    exact hyields.overlooked (hr p hp)
  have hasked := h.asked.trans (w'.perform_asked (.allocate r))
  have hnow := (w'.perform_now (.allocate r)).trans h.now
  have hyielded : ∀ b ∈ new, ∃ p ∈ past ++ [r], p.Yields w b := by
    intro b hb
    obtain ⟨p, hp, hyields⟩ := h.yielded b hb
    exact ⟨p, List.mem_append_left _ hp, hyields⟩
  refine ⟨hout, ?_⟩
  unfold Admission.Request.alone?
  rw [← hout]
  obtain ⟨b, -, -, hok, -⟩ | ⟨f, -, hfails, hstore⟩ := Admission.perform_allocate w' r
  · obtain ⟨-, rows, hrows, hbooked, hread, hstore⟩ := Admission.committed hok
    have hadds : (w'.perform (.allocate r)).2.store = w'.store.withBookings [b] := by
      rw [hstore]
      unfold Store.withBookings
      rw [hrows]
      rfl
    refine ⟨[b], ⟨hnow, hasked, ?_, fun c hc => ?_⟩, by rw [hok]; rfl⟩
    · rw [hadds, h.store, Store.withBookings_withBookings]
    · rcases List.mem_append.mp hc with hc | hc
      · exact hyielded c hc
      · rw [List.mem_singleton.mp hc]
        exact ⟨r, List.mem_append_right _ List.mem_cons_self, hbooked.yields hread h.store⟩
  · refine ⟨[], ⟨hnow, hasked, ?_, ?_⟩, by rw [hfails]; rfl⟩
    · rw [hstore, h.store, List.append_nil]
    · rwa [List.append_nil]

/-- A list of requests of which no two conflict, nor one with those before it. -/
theorem run (h : w.LedTo past w' new) (hk : w.collaborators.Fixed)
    (hrs : (past ++ rs).Pairwise fun p r => ¬ p.Conflicts w r) :
    (w'.performAll (rs.map .allocate)).1.map (·.map Outcome.withoutId) =
      rs.map (fun r => (w.perform (.allocate r)).1.map Outcome.withoutId) ∧
    ∃ more, w.LedTo (past ++ rs) (w'.performAll (rs.map .allocate)).2 (new ++ more) ∧
      more.map Booking.withoutId = rs.filterMap fun r => r.alone? w := by
  induction rs generalizing w' past new with
  | nil => exact ⟨rfl, [], by simpa using h, rfl⟩
  | cons r rs ih =>
    obtain ⟨-, -, hpast⟩ := List.pairwise_append.mp hrs
    obtain ⟨hout, more, hled, hmore⟩ := h.step hk fun p hp => hpast p hp r List.mem_cons_self
    rw [List.append_cons] at hrs
    obtain ⟨houts, rest, hleds, hrest⟩ := ih hled hrs
    rw [List.map_cons, performAll_cons]
    refine ⟨congrArg₂ List.cons hout houts, more ++ rest, ?_, ?_⟩
    · rw [List.append_cons, ← List.append_assoc]
      exact hleds
    · rw [List.map_append, hmore, hrest, List.filterMap_cons]
      cases r.alone? w <;> rfl

end World.LedTo

/-! ## The main statement -/

/-- **Requests that do not conflict are independent.** Let the collaborators answer the same
whenever they are asked. Of a list of requests of which no two conflict, in any order, each ends as
it does alone in the first world, with the same booking but for its id or with the same failure; and
the table of bookings has the same rows in the end, but for their ids, whatever the order: those
that were there and one for each request that alone is admitted. -/
theorem independent_allocations {w : World} {rs : List Request} (hk : w.collaborators.Fixed)
    (hrs : rs.Pairwise fun r r' => ¬ r.Conflicts w r') {rs' : List Request} (hperm : rs'.Perm rs) :
    (w.performAll (rs'.map .allocate)).1.map (·.map Outcome.withoutId) =
      rs'.map (fun r => (w.perform (.allocate r)).1.map Outcome.withoutId) ∧
    ∃ new new', (w.performAll (rs.map .allocate)).2.store = w.store.withBookings new ∧
      (w.performAll (rs'.map .allocate)).2.store = w.store.withBookings new' ∧
      (new'.map Booking.withoutId).Perm (new.map Booking.withoutId) ∧
      new.map Booking.withoutId = rs.filterMap fun r => r.alone? w := by
  have hrs' : rs'.Pairwise fun r r' => ¬ r.Conflicts w r' :=
    (hperm.pairwise_iff fun h h' => h h'.symm).mpr hrs
  obtain ⟨-, new, hled, hnew⟩ := (World.LedTo.start w).run hk hrs
  obtain ⟨houts, new', hled', hnew'⟩ := (World.LedTo.start w).run hk hrs'
  refine ⟨houts, new, new', hled.store, hled'.store, ?_, hnew⟩
  rw [hnew, hnew']
  exact hperm.filterMap _

section Sample

open Admission (sampleRequest)

/-- The sample request, half an hour later. -/
def laterRequest : Request := { sampleRequest with startTime := some "10:30" }

theorem sample_wants {t : String} {m : Int} (hm : TimeOfDay.parse t = .ok m) {v : Window}
    (h : ({ sampleRequest with startTime := some t } : Request).Wants emptyWorld v) :
    v = ⟨m, 30⟩ := by
  obtain ⟨g, hg, ⟨t', ht, hm'⟩, hlength⟩ := h
  cases ht
  have hgoverned : ({ sampleRequest with startTime := some t } : Request).IsGovernedBy emptyWorld
      (.ofRule ⟨1, ⟨1, none, none⟩, ⟨30, 2, 14, 60⟩⟩) := ⟨1, rfl, 1, rfl, 1, rfl, rfl⟩
  rw [hg.unique hgoverned] at hlength
  cases hm.symm.trans hm'
  obtain ⟨start, duration⟩ := v
  cases hlength
  rfl

/-- The two slots touch, so that the requests for them do not conflict. -/
theorem sample_not_conflicts : ¬ sampleRequest.Conflicts emptyWorld laterRequest := by
  intro h
  obtain ⟨v, v', hv, hv', hoverlap⟩ := h.windows
  have hearly : TimeOfDay.parse "10:00" = .ok 600 := rfl
  have hlate : TimeOfDay.parse "10:30" = .ok 630 := rfl
  rw [sample_wants hearly hv, sample_wants hlate hv'] at hoverlap
  exact absurd hoverlap (by decide)

/-- Requests for two slots that touch are both admitted, also if the later slot is taken first. -/
theorem independent_allocations_sample :
    (emptyWorld.performAll [.allocate laterRequest, .allocate sampleRequest]).1.map
      (fun out => (Outcome.booked? (out.map Outcome.withoutId)).map (·.startTime)) =
        [some "10:30", some "10:00"] := by
  have hfixed : emptyWorld.collaborators.Fixed := Collaborators.fixed (.inl (by decide))
  have hrs : [sampleRequest, laterRequest].Pairwise fun r r' => ¬ r.Conflicts emptyWorld r' := by
    simpa using sample_not_conflicts
  have hperm : [laterRequest, sampleRequest].Perm [sampleRequest, laterRequest] := .swap ..
  have houts := (independent_allocations hfixed hrs hperm).1
  have hstarts := congrArg (List.map fun out => (Outcome.booked? out).map (·.startTime)) houts
  rw [List.map_map] at hstarts
  refine hstarts.trans ?_
  decide +kernel

end Sample

end SlotBooking
