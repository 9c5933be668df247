import SlotBooking.Proofs.History
import SlotBooking.Proofs.Repetition

/-!
# A booking and its withdrawal

A booking takes one place of every slot of its day, at its address, that it overlaps, whatever
service the slots are asked for, and changes nothing else of any availability. Once it is withdrawn,
every availability and every request for a booking is answered as if it had never been made.

* `Slot.taking`, `DayAvailability.taking`: a slot and a day with one more booking.
* `slots_concat`: the slots of a day with one more row.
* `Operation.Withdraws`: how a booking is withdrawn, and `withdrawn` for what that leaves.
* `admit_restored`: an admission among rows of which the last does not count.
* `booking_effect`: the main statement.
-/

namespace SlotBooking

open Directory (Collaborators)
open Admission (Request countTaken)

/-! ## One more booking -/

/-- The slot after a booking: one place fewer, if the booking overlaps it and a place was left. -/
def Slot.taking (b : Booking) (s : Slot) : Slot :=
  if b.Meets s.window then { s with free := max 0 (s.free - 1) } else s

/-- The day after a booking: its slots, if it is the day and the address of the booking. -/
def DayAvailability.taking (b : Booking) (d : DayAvailability) : DayAvailability :=
  if b.IsAt d.company d.address d.date then { d with slots := d.slots.map (Slot.taking b) } else d

section Taking

variable {store : Store} {rows : List Booking} {b : Booking} {now : Instant} {company address : Int}
  {date : Date} {day : DaySchedule} {terms : Capacity.Terms} {slots : List Slot}

/-- Where every element of a list has another result, so has the list. -/
theorem mapM_map_of_ok {ε α β : Type} {f g : α → Except ε β} {h : β → β} {xs : List α} {ys : List β}
    (hf : xs.mapM f = .ok ys) (hg : ∀ x ∈ xs, ∀ y, f x = .ok y → g x = .ok (h y)) :
    xs.mapM g = .ok (ys.map h) := by
  induction xs generalizing ys with
  | nil =>
    cases hf
    rfl
  | cons x xs ih =>
    simp only [List.mapM_cons, bind_eq_ok] at hf
    obtain ⟨y, hy, ys', hys, hf⟩ := hf
    cases hf
    rw [List.mapM_cons, hg x List.mem_cons_self y hy, ok_bind,
      ih hys fun a ha => hg a (List.mem_cons_of_mem x ha)]
    rfl

theorem slotAt_concat (hact : b.IsActive) (hread : b.Readable) {start : Int} {s : Slot}
    (h : Availability.slotAt terms ((Filter.day company address date).list rows) start = .ok s) :
    Availability.slotAt terms ((Filter.day company address date).list (rows ++ [b])) start =
      .ok (if b.IsAt company address date then s.taking b else s) := by
  obtain ⟨taken, hcount, rfl⟩ := slotAt_eq_ok.mp h
  refine slotAt_eq_ok.mpr ⟨_, Admission.countTaken_concat hact hread hcount, ?_⟩
  unfold Slot.taking Slot.window
  by_cases hat : b.IsAt company address date
  · by_cases hmeets : b.Meets ⟨start, terms.slotMinutes⟩
    · have hfree : max 0 (max 0 (terms.maxConcurrent - taken) - 1) =
          max 0 (terms.maxConcurrent - (taken + 1 : Nat)) := by
        omega
      rw [if_pos hat, if_pos hmeets, if_pos ⟨hat, hmeets⟩, ← hfree]
    · rw [if_pos hat, if_neg hmeets, if_neg fun h => hmeets h.2]
      rfl
  · rw [if_neg hat, if_neg fun h => hat h.1]
    rfl

/-- The slots of a day with one more row. -/
theorem slots_concat (hrows : store.bookings = some rows) (hact : b.IsActive) (hread : b.Readable)
    (h : Availability.slots store now company address date day terms = .ok slots) :
    Availability.slots { store with bookings := some (rows ++ [b]) } now company address date day
      terms = .ok (slots.map fun s => if b.IsAt company address date then s.taking b else s) := by
  rw [Availability.slots_eq] at h ⊢
  by_cases hday : day.IsWorkingDay
  · rw [if_pos hday] at h ⊢
    obtain ⟨starts, hstarts, h⟩ := bind_eq_ok.mp h
    rw [hstarts, ok_bind]
    split at h
    · rename_i hempty
      cases h
      rw [if_pos hempty]
      rfl
    · rename_i hsome
      obtain ⟨bookings, hlist, h⟩ := bind_eq_ok.mp h
      obtain ⟨rows', hrows', hids, rfl⟩ := Store.list_eq_ok.mp hlist
      cases hrows.symm.trans hrows'
      rw [if_neg hsome, Store.list_eq_ok.mpr ⟨_, rfl, hids, rfl⟩, ok_bind]
      exact mapM_map_of_ok h fun start _ s hs => slotAt_concat hact hread hs
  · rw [if_neg hday] at h ⊢
    cases h
    rfl

end Taking

/-- A booking takes its places from every availability that finds the same answers. -/
theorem availability_taking {w : World} {r : Request} {b : Booking}
    (h : (w.perform (.allocate r)).1 = .ok (.booking b)) {k : Collaborators}
    (hk : w.collaborators.Echoes k) {company address service : Option Int} {date : Date}
    {d : DayAvailability}
    (hd : (w.perform (.availability company address service date)).1 = .ok (.day d)) :
    (World.perform ⟨(w.perform (.allocate r)).2.store, w.now, k⟩
      (.availability company address service date)).1 = .ok (.day (d.taking b)) := by
  obtain ⟨-, rows, hrows, hb, hread, hstore⟩ := Admission.committed h
  rw [hstore, perform_availability_fst]
  rw [perform_availability_fst] at hd
  simp only [bind_eq_ok] at hd
  obtain ⟨a, ha, slots, hslots, hd⟩ := hd
  cases hd
  have hslots := slots_concat hrows hb.isActive hread hslots
  have hday : (Outcome.day ⟨a.company, a.address, a.service, date, a.governing,
      slots.map fun s => if b.IsAt a.company a.address date then s.taking b else s⟩) = .day
        (DayAvailability.taking b ⟨a.company, a.address, a.service, date, a.governing, slots⟩) := by
    unfold DayAvailability.taking
    by_cases hat : b.IsAt a.company a.address date
    · simp only [if_pos hat]
    · simp only [if_neg hat, List.map_id']
  -- The approach is the same but for the price, which no slot depends on.
  rcases approach_echo w ⟨{ w.store with bookings := some (rows ++ [b]) }, w.now, k⟩ hk rfl rfl
    company address service date with hsame | hkept
  · rw [hsame, ha, ok_bind, hslots, ok_bind, ← hday]
    rfl
  · rw [hkept, ha]
    simp only [Except.map, Approach.kept, ok_bind, hslots, ← hday]
    rfl

/-! ## Its withdrawal -/

/-- The operation cancels a booking, or sets a status that takes up no place. -/
def Operation.Withdraws (id : Int) : Operation → Prop
  | cancelBooking i _ _ => i = id
  | changeStatus i _ t => i = id ∧ ∃ status, Lifecycle.readStatus t = .ok status ∧ ¬ status.IsActive
  | _ => False

section Withdrawn

variable {rows : List Booking} {b b' : Booking}

theorem id_ne_nextId {a : Booking} (ha : a ∈ rows) (hid : b.id = Store.nextId (rows.map (·.id))) :
    a.id ≠ b.id := by
  have hlt := Store.lt_nextId (List.mem_map_of_mem (f := (·.id)) ha)
  omega

/-- Replacing the row that was added last leaves all others. -/
theorem replaced_concat (hid : b.id = Store.nextId (rows.map (·.id))) (hid' : b'.id = b.id) :
    Store.replaced b' (rows ++ [b]) = rows ++ [b'] := by
  have hrows : Store.replaced b' rows = rows := by
    refine (List.map_congr_left fun a ha => ?_).trans (List.map_id rows)
    rw [hid']
    exact if_neg (id_ne_nextId ha hid)
  unfold Store.replaced at hrows ⊢
  rw [List.map_append, hrows, List.map_singleton, if_pos hid'.symm]

theorem booking_last {s : Store} (hrows : s.bookings = some (rows ++ [b]))
    (hid : b.id = Store.nextId (rows.map (·.id))) {b₀ : Booking} (h : s.booking b.id = .ok b₀) :
    b₀ = b := by
  obtain ⟨rows', hrows', -, hfind⟩ := Store.booking_eq_ok.mp h
  cases hrows.symm.trans hrows'
  have hmem := List.mem_of_find?_eq_some hfind
  have hid₀ : b₀.id = b.id := by simpa using List.find?_some hfind
  rcases List.mem_append.mp hmem with hmem | hmem
  · exact absurd hid₀ (id_ne_nextId hmem hid)
  · exact List.mem_singleton.mp hmem

theorem isActive_cancelled {status : Status} {reason : Option String} {time : Instant} :
    (b.cancelled status reason time).IsActive ↔ status.IsActive :=
  Status.activeText_text status

/-- A withdrawal of the row that was added last leaves it inactive, and all others as they are. -/
theorem withdrawn {w : World} (hrows : w.store.bookings = some (rows ++ [b]))
    (hid : b.id = Store.nextId (rows.map (·.id))) {op : Operation} (hop : op.Withdraws b.id)
    {out : Outcome} (h : (w.perform op).1 = .ok out) : ∃ b', ¬ b'.IsActive ∧
      (w.perform op).2.store = { w.store with bookings := some (rows ++ [b']) } := by
  have hput (b' : Booking) (hid' : b'.id = b.id) : w.store.putBooking b' =
      { w.store with bookings := some (rows ++ [b']) } := by
    rw [Store.putBooking_eq hrows, replaced_concat hid hid']
  have heffect := World.effect_of_ok h
  generalize (w.perform op).2.store = s at heffect
  cases heffect with
  | read hread => cases op <;> first | exact hread.elim | exact hop.elim
  | admitted | ruleAdded | ruleChanged | ruleErased | ruleErasedFor => exact hop.elim
  | @cancelled op i b₀ status reason hl hb hc hcancels =>
    have hi : i = b.id := by
      cases hcancels with
      | owner | manager => exact hop
      | status => exact hop.1
    rw [hi] at hb
    cases booking_last hrows hid hb
    have hinactive := Status.not_isActive_of_isCancelled hcancels.isCancelled
    exact ⟨_, fun hact => hinactive (isActive_cancelled.mp hact), hput _ rfl⟩
  | statusSet hl hb hm ht hc ha =>
    obtain ⟨rfl, status, hstatus, hinactive⟩ := hop
    cases ht.symm.trans hstatus
    cases booking_last hrows hid hb
    exact ⟨_, fun hact => hinactive (Booking.isActive_withStatus.mp hact), hput _ rfl⟩

end Withdrawn

/-! ## What is left of it -/

section Restored

variable {store : Store} {rows : List Booking} {b : Booking}

/-- No day shows an inactive row. -/
theorem list_day_restored (hrows : store.bookings = some rows) (hb : ¬ b.IsActive)
    (company address : Int) (date : Date) :
    Store.list { store with bookings := some (rows ++ [b]) } (.day company address date) =
      store.list (.day company address date) := by
  have hnot : ¬ (Filter.day company address date).Admits b := fun h =>
    hb (Filter.day_admits.mp h).1
  unfold Store.list
  rw [hrows]
  simp only [Store.rows, ok_bind, Filter.list_concat_of_not_admits hnot]

theorem slots_restored (hrows : store.bookings = some rows) (hb : ¬ b.IsActive) (now : Instant)
    (company address : Int) (date : Date) (day : DaySchedule) (terms : Capacity.Terms) :
    Availability.slots { store with bookings := some (rows ++ [b]) } now company address date day
      terms = Availability.slots store now company address date day terms := by
  unfold Availability.slots
  rw [list_day_restored hrows hb]

/-- The outcome but for the id of a booking. -/
def Outcome.unnumbered : Outcome → Outcome
  | booking b => booking { b with id := 0 }
  | out => out

/-- What an admission ends with, but for the id that the booking gets. -/
def Admission.unnumbered (x : Except Failure (Booking × Store)) : Except Failure Outcome :=
  x.map fun p => (Outcome.booking p.1).unnumbered

theorem addBooking_restored (hrows : store.bookings = some rows) (new : Booking) :
    Admission.unnumbered (Store.addBooking { store with bookings := some (rows ++ [b]) } new) =
      Admission.unnumbered (store.addBooking new) := by
  unfold Store.addBooking
  rw [hrows]
  simp only [Store.rows, ok_bind]
  -- The checks do not look at the rows, and what is added differs in the id alone.
  cases Store.requireStorable [new.user, new.company, new.address, new.service, new.vehicle,
    new.duration] with
  | error f => rfl
  | ok _ =>
  cases Store.requireEncodable (new.serviceName :: new.vehicleBrand.toList ++
    new.vehicleModel.toList ++ new.vehiclePlate.toList ++ new.notes.toList) with
  | error f => rfl
  | ok _ =>
    simp only [ok_bind]
    split <;> rfl

theorem admit_restored (hrows : store.bookings = some rows) (hb : ¬ b.IsActive)
    (o : Admission.Order) (now : Instant) (c : Directory.Company) (s : Directory.Service)
    (v : Directory.Vehicle) :
    (Admission.unnumbered <| o.admit { store with bookings := some (rows ++ [b]) } now c s v) =
      (Admission.unnumbered <| o.admit store now c s v) := by
  have hgoverning : Store.governing { store with bookings := some (rows ++ [b]) } =
      store.governing := Store.governing_congr rfl
  have hadd := addBooking_restored (b := b) hrows
  unfold Admission.unnumbered at hadd ⊢
  unfold Admission.Order.admit
  rw [hgoverning, list_day_restored hrows hb]
  simp only [map_bind]
  refine bind_congr fun _ => bind_congr fun g => bind_congr fun _ => ?_
  split
  · rfl
  · simp only [map_bind]
    refine bind_congr fun _ => bind_congr fun bookings => bind_congr fun taken => ?_
    split
    · rfl
    · exact hadd _

end Restored

theorem availability_restored {w : World} {rows : List Booking} {b : Booking}
    (hrows : w.store.bookings = some rows) (hb : ¬ b.IsActive) {k : Collaborators}
    (hk : w.collaborators.Echoes k) (company address service : Option Int) (date : Date) :
    (World.perform ⟨{ w.store with bookings := some (rows ++ [b]) }, w.now, k⟩
      (.availability company address service date)).1 =
      (w.perform (.availability company address service date)).1 := by
  rw [perform_availability_fst, perform_availability_fst]
  simp only [slots_restored hrows hb]
  rcases approach_echo w ⟨{ w.store with bookings := some (rows ++ [b]) }, w.now, k⟩ hk rfl rfl
    company address service date with hsame | hkept
  · rw [hsame]
  · rw [hkept, bind_of_map]
    rfl

theorem allocate_restored {w : World} {rows : List Booking} {b : Booking}
    (hrows : w.store.bookings = some rows) (hb : ¬ b.IsActive) {k : Collaborators}
    (hk : w.collaborators.SaysSame k) (r : Request) :
    (World.perform ⟨{ w.store with bookings := some (rows ++ [b]) }, w.now, k⟩
      (.allocate r)).1.map Outcome.unnumbered =
      (w.perform (.allocate r)).1.map Outcome.unnumbered := by
  have hperform (w : World) : (w.perform (.allocate r)).1.map Outcome.unnumbered =
      Admission.unnumbered ((Admission.allocate w.store w.now r).value w.collaborators) := by
    rw [Admission.perform_allocate_fst]
    cases (Admission.allocate w.store w.now r).value w.collaborators <;> rfl
  rw [hperform, hperform, Admission.allocate_value, Admission.allocate_value]
  have hadmit := admit_restored hrows hb
  unfold Admission.unnumbered at hadmit ⊢
  simp only [map_bind, hk.lookUp, hadmit]

/-- The owner can cancel a booking that is pending or confirmed. -/
theorem owner_cancels {w : World} {b : Booking} (hl : w.store.writeLocked = false)
    (hb : w.store.booking b.id = .ok b) (hc : Status.CancellableText b.status) :
    (w.perform (.cancelBooking b.id b.user none)).1 =
      .ok (.booking (b.cancelled .cancelledByUser none w.now)) := by
  have hreason : ¬ Lifecycle.ReasonTooLong none := fun ⟨_, h, _⟩ => nomatch h
  have hnow := Lifecycle.cancelNow_eq_ok.mpr
    ⟨hl, b, hb, hc, Eq.refl (b.cancelled .cancelledByUser none w.now), rfl⟩
  rw [World.perform_fst]
  unfold Operation.run Lifecycle.cancel
  simp only [if_neg hreason, Directory.Lookup.value_bind, Directory.Lookup.value_lift,
    Directory.Lookup.value_pure, hb, ok_bind, if_pos, hnow]
  rfl

section Sample

open Admission (sampleBooking sampleRequest sampleWorld sample_isGovernedBy)

/-- One place is left at 10:00. -/
theorem sample_day : ((sampleWorld "" false).perform
    (.availability (some 1) (some 1) (some 1) sampleDate)).1 = .ok (.day ⟨1, 1, 1, sampleDate,
      .ofRule ⟨1, ⟨1, none, none⟩, ⟨30, 2, 14, 60⟩⟩,
      [⟨540, 30, 2, 2⟩, ⟨570, 30, 2, 2⟩, ⟨600, 30, 1, 2⟩, ⟨630, 30, 2, 2⟩]⟩) := by
  rw [perform_availability_fst, sample_approach]
  simp only [ok_bind, Capacity.Governing.ofRule, sample_slots]
  rfl

/-- The only service that is found has no price. -/
theorem sample_price {c id : Int} {v : Directory.Service}
    (hv : (Directory.service c id).value (sampleWorld "" false).collaborators = .ok v) :
    ∀ x ∈ v.price, x.IsFinite := by
  have hdirect : (Directory.Source.service c id).answered (sampleWorld "" false).collaborators =
      .ok v := by
    rw [← hv]
    exact ((Directory.Source.read_value _ _).trans (if_pos (.inl (by decide)))).symm
  unfold Directory.Source.answered Directory.Source.ask at hdirect
  rw [Directory.ask_value] at hdirect
  unfold sampleWorld at hdirect
  dsimp only at hdirect
  -- The answers for the company and for the vehicle are no services.
  split at hdirect
  · cases hdirect
  · split at hdirect
    · cases hdirect
      exact nofun
    · split at hdirect <;> cases hdirect

variable {b : Booking}
  (h : ((sampleWorld "" false).perform (.allocate sampleRequest)).1 = .ok (.booking b))

include h

/-- The booking of the sample request takes this place. -/
theorem sample_taking : b.IsAt 1 1 sampleDate ∧ b.Meets ⟨600, 30⟩ := by
  obtain ⟨-, rows, -, hb, -⟩ := Admission.committed h
  obtain ⟨g, hg, hduration⟩ := hb.duration
  cases hg.unique (sample_isGovernedBy "" false)
  have hstart := Option.some.inj hb.startTime
  refine ⟨⟨(Option.some.inj hb.company).symm, (Option.some.inj hb.address).symm,
    (Option.some.inj hb.date).symm⟩, ⟨600, 30⟩, ?_, by decide⟩
  exact Occupancy.window_eq_ok.mpr ⟨hstart ▸ rfl, hduration⟩

/-- Its owner can cancel it. -/
theorem sample_cancels :
    (((sampleWorld "" false).perform (.allocate sampleRequest)).2.perform
      (.cancelBooking b.id b.user none)).1 = .ok (.booking (b.cancelled .cancelledByUser none
        (sampleWorld "" false).now)) := by
  obtain ⟨-, rows, hrows, hb, -, hstore⟩ := Admission.committed h
  cases hrows
  have hid : b.id = 2 := hb.id
  have hfind : [sampleBooking, b].find? (fun a => decide (a.id = b.id)) = some b := by
    rw [hid, List.find?_cons_of_neg (by decide), List.find?_cons_of_pos (by simp [hid])]
  rw [World.perform_eq, hstore]
  refine owner_cancels rfl (Store.booking_eq_ok.mpr ⟨_, rfl, ?_, hfind⟩) ?_
  · rw [hid]
    decide
  · rw [hb.status]
    exact (Status.cancellableText_text .confirmed).mpr trivial

end Sample

/-- **A booking and its withdrawal.** Once a booking is admitted, every availability that was given
before is given again, under the same clock and answers, with one place fewer in the slots of its
day at its address that it overlaps, and no other difference. Once it is then withdrawn, every
availability is as it was before the booking, and so is what every request for a booking ends with,
but for the id. -/
theorem booking_effect {w : World} {r : Request} {b : Booking}
    (h : (w.perform (.allocate r)).1 = .ok (.booking b)) :
    (∀ k, w.collaborators.Echoes k → ∀ company address service date d,
      (w.perform (.availability company address service date)).1 = .ok (.day d) →
      (World.perform ⟨(w.perform (.allocate r)).2.store, w.now, k⟩
        (.availability company address service date)).1 = .ok (.day (d.taking b))) ∧
    ∀ (w' : World) (op : Operation) (out : Outcome),
      w'.store = (w.perform (.allocate r)).2.store → op.Withdraws b.id →
      (w'.perform op).1 = .ok out →
      (∀ k, w.collaborators.Echoes k → ∀ company address service date,
        (World.perform ⟨(w'.perform op).2.store, w.now, k⟩
          (.availability company address service date)).1 =
          (w.perform (.availability company address service date)).1) ∧
      ∀ k, w.collaborators.SaysSame k → ∀ r',
        (World.perform ⟨(w'.perform op).2.store, w.now, k⟩ (.allocate r')).1.map
          Outcome.unnumbered = (w.perform (.allocate r')).1.map Outcome.unnumbered := by
  refine ⟨fun k hk _ _ _ _ d hd => availability_taking h hk hd, fun w' op out hw' hop hout => ?_⟩
  obtain ⟨-, rows, hrows, hbooked, -, hstore⟩ := Admission.committed h
  rw [hstore] at hw'
  have hrows' : w'.store.bookings = some (rows ++ [b]) := by rw [hw']
  obtain ⟨b', hb', hleft⟩ := withdrawn hrows' hbooked.id hop hout
  have hstore' : (w'.perform op).2.store = { w.store with bookings := some (rows ++ [b']) } := by
    rw [hleft, hw']
  rw [hstore']
  exact ⟨fun k hk => availability_restored hrows hb' hk,
    fun k hk => allocate_restored hrows hb' hk⟩

open Admission (sampleRequest sampleWorld sample_fits sample_met) in
/-- A booking takes the last place, and its owner gives it back, so that it can be taken again. -/
theorem booking_effect_sample : ∃ b,
    ((sampleWorld "" false).perform (.allocate sampleRequest)).1 = .ok (.booking b) ∧
    ∃ w, w = ((sampleWorld "" false).perform (.allocate sampleRequest)).2 ∧
      (∃ d, (w.perform (.availability (some 1) (some 1) (some 1) sampleDate)).1 = .ok (.day d) ∧
        ⟨600, 30, 0, 2⟩ ∈ d.slots) ∧
    ∃ w', w' = (w.perform (.cancelBooking b.id b.user none)).2 ∧
      (∃ d, (w'.perform (.availability (some 1) (some 1) (some 1) sampleDate)).1 = .ok (.day d) ∧
        ⟨600, 30, 1, 2⟩ ∈ d.slots) ∧
      (w'.perform (.allocate sampleRequest)).1.map Outcome.unnumbered =
        .ok (Outcome.booking b).unnumbered := by
  obtain ⟨b, hb⟩ := (Admission.perform_ok_iff (sample_fits "" false)).mpr fun _ =>
    sample_met "" false (fun _ => rfl) fun _ => rfl
  obtain ⟨htaking, hrestored⟩ := booking_effect hb
  obtain ⟨hat, hmeets⟩ := sample_taking hb
  have hechoes := (sampleWorld "" false).perform_echoes (.allocate sampleRequest)
  have hcancelled := hrestored _ (.cancelBooking b.id b.user none) _ rfl rfl (sample_cancels hb)
  have hechoes' := hechoes.trans (World.perform_echoes _ (.cancelBooking b.id b.user none))
  have hsays := hechoes'.saysSame fun _ _ _ => sample_price
  have hday := htaking _ hechoes _ _ _ _ _ sample_day
  have hday' := (hcancelled.1 _ hechoes' _ _ _ _).trans sample_day
  have hagain := hcancelled.2 _ hsays sampleRequest
  rw [← World.perform_eq] at hday
  rw [← World.perform_now (sampleWorld "" false) (.allocate sampleRequest), ← World.perform_eq]
    at hday' hagain
  rw [hb] at hagain
  refine ⟨b, hb, _, rfl, ⟨_, hday, ?_⟩, _, rfl, ⟨_, hday', by decide⟩, hagain⟩
  have htaken : Slot.taking b ⟨600, 30, 1, 2⟩ = ⟨600, 30, 0, 2⟩ := if_pos hmeets
  unfold DayAvailability.taking
  rw [if_pos hat, ← htaken]
  exact List.mem_map_of_mem (by decide)

end SlotBooking
