import SlotBooking.Proofs.Agreement
import SlotBooking.Proofs.Capacity
import SlotBooking.Proofs.RuleTable

/-!
# How an availability fails

An availability is meant to end with the slots of a day or with a refusal. In a store that contacts
have made from the empty one, stored times can be read, terms are within their ranges and integers
fit, so that what else can go wrong comes from the collaborators: an opening or closing time of a
working day that is no time of day, an answer that is nested too deep, and a snapshot that cannot be
kept.

* `Store.Reached`, `Store.Reached.tables`: the stores considered.
* `daySlots_eq_error`, `slots_eq_error`: the slots of a day fail exactly by unreadable hours.
* `Availability.Escapes`: the failures that are no refusals, with what causes them.
* `Availability.availability_fails`: every failure is a refusal or one of these, and these do occur.
-/

namespace SlotBooking

open Directory (Company Service fetchCompany fetchService requireAddress requireOffered)
open Admission (requireDate requirePositive countTaken)

/-! ## Reached stores -/

namespace Store

/-- Contacts made the store from the empty one; who holds the write lock does not matter. -/
def Reached (s : Store) : Prop := ∃ cs locked, s = { empty.serve cs with writeLocked := locked }

theorem Reached.tables {s : Store} (h : s.Reached) :
    (∃ rows, s.bookings = some rows ∧ ∀ b ∈ rows, b.Readable) ∧ s.RulesSound := by
  obtain ⟨cs, locked, rfl⟩ := h
  obtain ⟨es, locked', hs⟩ := empty.exists_run_of_serve cs
  obtain ⟨rows, hr, -, hcap⟩ := run_capped (some []) es
  rw [hs]
  exact ⟨⟨rows, hr, hcap.readable⟩, run_rulesSound (s := empty) ⟨[], rfl, .nil⟩ es⟩

end Store

/-! ## The slots of a day -/

section Slots

variable {store : Store} {now : Instant} {date : Date} {day : DaySchedule} {f : Failure}

/-- The hours of a working day cannot be read. -/
def HoursFail (day : DaySchedule) (f : Failure) : Prop :=
  ∃ opens closes, day.hours? = some (opens, closes) ∧
    (Schedule.readTime opens = .error f ∨
      ∃ m, Schedule.readTime opens = .ok m ∧ Schedule.readTime closes = .error f)

theorem hoursFail_iff {opens closes : Text} (h : day.hours? = some (opens, closes)) :
    HoursFail day f ↔ Schedule.readTime opens = .error f ∨
      ∃ m, Schedule.readTime opens = .ok m ∧ Schedule.readTime closes = .error f := by
  simp [HoursFail, h]

/-- With a positive slot length the starts of a day fail exactly if its hours cannot be read. -/
theorem daySlots_eq_error {length notice : Int} (hlen : 0 < length) (hd : ¬ date < now.date) :
    Schedule.daySlots day length date now notice = .error f ↔ HoursFail day f := by
  unfold Schedule.daySlots
  rw [if_neg (by omega), if_neg hd]
  cases hday : day.hours? with
  | none => simp [HoursFail, hday]
  | some hours =>
    obtain ⟨opens, closes⟩ := hours
    rw [hoursFail_iff hday]
    dsimp only
    rw [bind_eq_error]
    refine or_congr_right (exists_congr fun first => and_congr_right fun _ => ?_)
    rw [bind_eq_error, or_iff_left]
    rintro ⟨last, -, h⟩
    split at h <;> cases h

variable {company address : Int} {terms : Capacity.Terms}

/-- In a store whose bookings can be read, under permitted terms and for ids that fit, the slots of
a day fail exactly if its hours cannot be read. -/
theorem slots_eq_error {rows : List Booking} (hr : store.bookings = some rows)
    (hread : ∀ b ∈ rows, b.Readable) (ht : terms.Permitted) (hc : Store.Storable company)
    (ha : Store.Storable address) (hd : ¬ date < now.date) :
    Availability.slots store now company address date day terms = .error f ↔ HoursFail day f := by
  have hlen : 0 < terms.slotMinutes := Int.lt_of_lt_of_le (by decide) (ht .slotMinutes).1
  have hlist : store.list (.day company address date) =
      .ok ((Filter.day company address date).list rows) :=
    Store.list_eq_ok.mpr ⟨rows, hr, by simp [Filter.day, hc, ha], rfl⟩
  have hslots (starts : List Int) : ∃ slots, starts.mapM
      (Availability.slotAt terms ((Filter.day company address date).list rows)) = .ok slots := by
    refine exists_mapM_eq_ok fun m _ => ?_
    exact ⟨_, slotAt_eq_ok.mpr ⟨_, Admission.countTaken_day_eq_ok.mpr
      ⟨fun b hb _ _ => hread b hb, rfl⟩, rfl⟩⟩
  rw [Availability.slots_eq]
  by_cases hday : day.IsWorkingDay
  · rw [if_pos hday, bind_eq_error, daySlots_eq_error hlen hd, or_iff_left]
    rintro ⟨starts, -, h⟩
    split at h
    · cases h
    · obtain ⟨slots, hs⟩ := hslots starts
      rw [hlist, ok_bind, hs] at h
      cases h
  · rw [if_neg hday]
    constructor
    · rintro ⟨⟩
    · rintro ⟨opens, closes, hours, -⟩
      exact absurd (isWorkingDay_of_hours hours) hday

end Slots

/-! ## Failures that are no refusals -/

namespace Directory

variable {k : Collaborators} {f : Failure}

/-- What is said about a company is nested too deep, or cannot be kept. -/
def CompanyEscapes (k : Collaborators) (id : Int) : Failure → Prop :=
  Escapes k (companyKey id) (companyPath id) Company.ofJson? Company.ofJson? Company.snapshot

/-- What is said about a service is nested too deep, or cannot be kept. -/
def ServiceEscapes (k : Collaborators) (company id : Int) : Failure → Prop :=
  Escapes k (serviceKey company id) (servicePath company id) Service.ofSnapshot? Service.ofJson?
    Service.snapshot

end Directory

/-- A failure of an availability that is no refusal, with its cause. -/
inductive Availability.Escapes (w : World) (company address service : Int) (date : Date) :
    Failure → Prop
  | company {f : Failure} (h : Directory.CompanyEscapes w.collaborators company f) :
    Escapes w company address service date f
  | service {c : Company} {f : Failure}
    (hc : (fetchCompany company).value w.collaborators = .ok c) (ha : c.HasAddress address)
    (h : Directory.ServiceEscapes w.collaborators company service f) :
    Escapes w company address service date f
  /-- The day is a working day, and its opening or closing time cannot be read. -/
  | hours {a : Approach} {f : Failure}
    (ha : approach w (some company) (some address) (some service) date = .ok a)
    (h : HoursFail (a.seller.scheduleOn date) f) : Escapes w company address service date f

namespace Availability

theorem not_isRefusal_of_hoursFail {day : DaySchedule} {f : Failure} (h : HoursFail day f) :
    ¬ f.IsRefusal := by
  have hread {t : Text} (h : Schedule.readTime t = .error f) : ¬ f.IsRefusal := by
    obtain ⟨e, -, rfl⟩ := mapError_eq_error.mp h
    exact nofun
  obtain ⟨opens, closes, -, h | ⟨m, -, h⟩⟩ := h
  · exact hread h
  · exact hread h

theorem Escapes.not_isRefusal {w : World} {company address service : Int} {date : Date}
    {f : Failure} (h : Escapes w company address service date f) : ¬ f.IsRefusal := by
  cases h with
  | company h => exact Directory.Escapes.not_isRefusal h
  | service _ _ h => exact Directory.Escapes.not_isRefusal h
  | hours _ h => exact not_isRefusal_of_hoursFail h

/-- What is asked about: ids that are positive and fit their columns, in a reached store, with a
last date to book for. -/
structure Asked (w : World) (company address service : Int) : Prop where
  reached : w.store.Reached
  positive : 0 < company ∧ 0 < address ∧ 0 < service
  storable : ∀ n ∈ [company, address, service], Store.Storable n
  calendar : ∀ g, w.store.governing ⟨company, some address, some service⟩ = .ok g →
    ∃ d, w.now.date.addDays? g.terms.advanceDays = some d

variable {w : World} {company address service : Int} {date : Date} {f : Failure}

theorem approach_of_positive (h : Asked w company address service) :
    approach w (some company) (some address) (some service) date = (do
      let c ← (fetchCompany company).value w.collaborators
      requireAddress c address
      let v ← (fetchService company service).value w.collaborators
      requireOffered v address
      let g ← w.store.governing ⟨company, some address, some service⟩
      requireDate date w.now.date g.terms
      return ⟨company, address, service, c, v, g⟩) := by
  obtain ⟨hc, ha, hv⟩ := h.positive
  unfold approach
  rw [Admission.requirePositive_eq_ok.mpr ⟨rfl, hc⟩, Admission.requirePositive_eq_ok.mpr ⟨rfl, ha⟩,
    Admission.requirePositive_eq_ok.mpr ⟨rfl, hv⟩]
  rfl

theorem onlyRefuses_requireAddress (c : Company) (address : Int) :
    OnlyRefuses (requireAddress c address) := .ite (.ok ()) (.refuse _)

theorem onlyRefuses_requireOffered (s : Service) (address : Int) :
    OnlyRefuses (requireOffered s address) := .ite (.ok ()) (.refuse _)

/-- With a last date to book for, a date is refused or not. -/
theorem onlyRefuses_requireDate {today last : Date} {t : Capacity.Terms}
    (hlast : today.addDays? t.advanceDays = some last) :
    OnlyRefuses (requireDate date today t) := by
  unfold requireDate
  rw [Admission.lastDate_eq_ok hlast, ok_bind]
  exact .ite (.refuse _) (.ite (.ite (.refuse _) (.ok ())) (.ok ()))

theorem Asked.governing (h : Asked w company address service) :
    ∃ g, w.store.governing ⟨company, some address, some service⟩ = .ok g ∧ g.terms.Permitted := by
  obtain ⟨-, rules, hr, hs⟩ := h.reached.tables
  have hids : ∀ n ∈ Capacity.Scope.ids ⟨company, some address, some service⟩, Store.Storable n :=
    h.storable
  have hg := Store.governing_eq_ok.mpr ⟨rules, hr, hids, rfl⟩
  exact ⟨_, hg, Store.RulesSound.governing ⟨rules, hr, hs⟩ hg⟩

theorem approach_eq_error (h : Asked w company address service)
    (hf : approach w (some company) (some address) (some service) date = .error f) :
    f.IsRefusal ∨ Escapes w company address service date f := by
  obtain ⟨g, hg, -⟩ := h.governing
  obtain ⟨last, hlast⟩ := h.calendar g hg
  rw [approach_of_positive h, hg] at hf
  simp only [bind_eq_error] at hf
  rcases hf with hf | ⟨c, hc, hf | ⟨_, ha, hf | ⟨v, -, hf | ⟨_, -, hf | ⟨g', hg', hf⟩⟩⟩⟩⟩
  · exact (Directory.readThrough_eq_error ⟨_, rfl⟩ hf).imp_right .company
  · exact .inl (onlyRefuses_requireAddress c address f hf)
  · have haddress : c.HasAddress address := Decidable.byContradiction fun hn => by
      rw [requireAddress, if_neg hn] at ha
      cases ha
    exact (Directory.readThrough_eq_error ⟨_, rfl⟩ hf).imp_right (.service hc haddress)
  · exact .inl (onlyRefuses_requireOffered v address f hf)
  · cases hf
  · cases hg'
    rcases hf with hf | ⟨_, -, hf⟩
    · exact .inl (onlyRefuses_requireDate hlast f hf)
    · cases hf

/-- Once the approach is made, an availability fails exactly if the hours cannot be read. -/
theorem slots_of_approach (h : Asked w company address service) {a : Approach}
    (ha : approach w (some company) (some address) (some service) date = .ok a) :
    Availability.slots w.store w.now a.company a.address date (a.seller.scheduleOn date)
      a.governing.terms = .error f ↔ HoursFail (a.seller.scheduleOn date) f := by
  obtain ⟨⟨rows, hr, hread⟩, -⟩ := h.reached.tables
  obtain ⟨g, hg, hp⟩ := h.governing
  obtain ⟨⟨hc, -⟩, ⟨haddr, -⟩, ⟨hserv, -⟩, -, -, -, -, hgov, -⟩ := approach_eq_ok.mp ha
  cases hc
  cases haddr
  cases hserv
  cases hg.symm.trans hgov
  exact slots_eq_error hr hread hp (h.storable _ (by simp)) (h.storable _ (by simp))
    (not_past_of_approach ha)

theorem perform_of_escapes (h : Asked w company address service)
    (he : Escapes w company address service date f) :
    (w.perform (.availability (some company) (some address) (some service) date)).1 = .error f := by
  rw [perform_availability_fst]
  cases he with
  | company hcompany =>
    have hfetch : (fetchCompany company).value w.collaborators = .error f :=
      Directory.readThrough_of_escapes hcompany
    rw [approach_of_positive h, hfetch]
    rfl
  | service hc haddress hservice =>
    have hfetch : (fetchService company service).value w.collaborators = .error f :=
      Directory.readThrough_of_escapes hservice
    rw [approach_of_positive h, hc, hfetch]
    simp only [ok_bind, requireAddress, if_pos haddress]
    rfl
  | hours ha hh =>
    rw [ha, ok_bind, (slots_of_approach h ha).mpr hh]
    rfl

/-! ## Hours of another form -/

section Sample

open Admission (sampleCompany sampleService sampleWorld)

/-- A company that opens every day at the time given. -/
def companyOpening (t : Text) : Company :=
  let day : DaySchedule := ⟨true, some t, some "11:00"⟩
  { sampleCompany with workingHours := ⟨day, day, day, day, day, day, day⟩ }

/-- A world with this company, before anything was stored. -/
def worldOpening (t : Text) : World :=
  { sampleWorld "" false with
    store := .empty
    collaborators := {
      answer := fun path =>
        if path = "/internal/companies/1" then .reply 200 (.ok (companyOpening t).toJson)
        else (sampleWorld "" false).collaborators.answer path
      cache := { ttl := 0 } } }

theorem worldOpening_approach (t : Text) :
    approach (worldOpening t) (some 1) (some 1) (some 1) sampleDate =
      .ok ⟨1, 1, 1, companyOpening t, sampleService, .standard (some 1)⟩ :=
  approach_eq_ok.mpr ⟨⟨rfl, Int.one_pos⟩, ⟨rfl, Int.one_pos⟩, ⟨rfl, Int.one_pos⟩, rfl,
    List.mem_cons_self, rfl, List.mem_cons_self, rfl, rfl⟩

theorem worldOpening_asked (t : Text) : Asked (worldOpening t) 1 1 1 where
  reached := ⟨[], false, rfl⟩
  positive := by decide
  storable := by decide
  calendar := by
    rintro g ⟨⟩
    exact ⟨(worldOpening t).now.date, Date.addDays?_eq_some.mpr rfl⟩

theorem worldOpening_escapes :
    Escapes (worldOpening "9:00") 1 1 1 sampleDate (.unreadableTime (.shape "9:00")) :=
  .hours (worldOpening_approach "9:00") ⟨"9:00", "11:00", rfl, .inl rfl⟩

end Sample

/-- **Failures of an availability.** In every reached store, for positive ids that fit and with a
last date to book for, an availability ends with the slots of a day, with a refusal, or with one of
the failures that the service does not describe: the opening or closing time of a working day cannot
be read, or what a collaborator says is nested too deep or cannot be kept. Wherever one of these has
its cause, the availability ends with it. -/
theorem availability_fails (h : Asked w company address service) :
    (∀ out, (w.perform (.availability (some company) (some address) (some service) date)).1 =
      .ok out → ∃ d, out = .day d) ∧
    (∀ f, (w.perform (.availability (some company) (some address) (some service) date)).1 =
      .error f → f.IsRefusal ∨ Escapes w company address service date f) ∧
    ∀ f, Escapes w company address service date f → ¬ f.IsRefusal ∧
      (w.perform (.availability (some company) (some address) (some service) date)).1 =
        .error f := by
  refine ⟨fun out hout => ?_, fun f hf => ?_, fun f he =>
    ⟨he.not_isRefusal, perform_of_escapes h he⟩⟩
  · rw [perform_availability_fst] at hout
    simp only [bind_eq_ok] at hout
    obtain ⟨a, -, slots, -, hout⟩ := hout
    cases hout
    exact ⟨_, rfl⟩
  · rw [perform_availability_fst] at hf
    rcases bind_eq_error.mp hf with hf | ⟨a, ha, hf⟩
    · exact approach_eq_error h hf
    · rcases bind_eq_error.mp hf with hf | ⟨slots, -, hf⟩
      · exact .inr (.hours ha ((slots_of_approach h ha).mp hf))
      · cases hf

/-- An opening time without a leading zero is reported as it is written. -/
theorem availability_fails_unread :
    ((worldOpening "9:00").perform (.availability (some 1) (some 1) (some 1) sampleDate)).1 =
      .error (.unreadableTime (.shape "9:00")) :=
  ((availability_fails (worldOpening_asked "9:00")).2.2 _ worldOpening_escapes).2

/-- A company that opens at 9:00 without a leading zero has no availability and no refusal. -/
theorem availability_unforeseen : Asked (worldOpening "9:00") 1 1 1 ∧
    (¬ ∃ d, ((worldOpening "9:00").perform
      (.availability (some 1) (some 1) (some 1) sampleDate)).1 = .ok (.day d)) ∧
    ¬ ∃ r, ((worldOpening "9:00").perform
      (.availability (some 1) (some 1) (some 1) sampleDate)).1 = .error (.refused r) := by
  rw [perform_of_escapes (worldOpening_asked "9:00") worldOpening_escapes]
  refine ⟨worldOpening_asked "9:00", ?_, ?_⟩
  · rintro ⟨d, h⟩
    cases h
  · rintro ⟨r, h⟩
    cases h

end Availability

end SlotBooking
