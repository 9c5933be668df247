import SlotBooking.Proofs.Share

/-!
# Companies side by side

Tasks that name their rows by company, address and service read and write the share of one company
alone, and ask the collaborators for this company, its services and vehicles of users. So what other
companies do between two tasks of a company makes no difference to it: without it every task of the
company ends the same, but for ids, and the company has the same rows.

* `AgreesFor`: collaborators that are the same for one company, and what reads do to them.
* `Attuned`: relations of collaborators that reads for a company keep.
* `Task.IsByKey`: tasks that name their rows by key.
* `Task.run_alike`: a task on two stores with one share of its company; `Task.run_other`: a task for
  another company.
* `World.Mirrors`: worlds that are the same for one company; `visit_own` and `visit_other` say what
  the two kinds of visits do to them.
* `World.companies_isolated`: the main statement.
-/

namespace SlotBooking

open Directory (Collaborators Lookup Source)
open Capacity (Governing Rule Scope)

/-! ## Collaborators for one company -/

namespace Directory

/-- The company that a source belongs to; the vehicle of a user belongs to none. -/
def Source.company? : Source → Option Int
  | .company id => some id
  | .service owner _ => some owner
  | .vehicle _ => none

@[simp] theorem Cache.failsSet_store (c : Cache) (key : String) (j : Json) :
    (c.store key j).failsSet = c.failsSet := by
  unfold store
  split <;> rfl

namespace Source

variable {s s' : Source} {k : Collaborators}

/-- The model that a read puts into the cache, if there is one. -/
def keeps? (s : Source) (k : Collaborators) : Option s.Model :=
  if k.cache.ttl ≤ 0 ∨ s.key? = none ∨ k.cache.failsSet = true ∨ (s.found? k.cache).isSome then none
  else
    match s.answered k with
    | .ok v => if (s.snapshot v).unencodable? = none then some v else none
    | .error _ => none

/-- After a read the cache holds for its source what the read put there, or the same as before. -/
theorem held?_read (s : Source) (k : Collaborators) : s.held? (s.read.after k).cache =
    match s.keeps? k with
    | some v => some (s.kept v)
    | none => s.held? k.cache := by
  obtain ⟨r, c, calls, hr, -, hafter⟩ := s.reads k
  rw [hafter]
  unfold keeps?
  cases hr with
  | direct h => rw [if_pos (h.imp_right .inl)]
  | hit _ _ hv =>
    rw [hv]
    simp
  | failed _ _ _ he =>
    rw [he]
    simp
  | unwritable _ _ _ hv hu =>
    rw [hv]
    simp [hu]
  | @fetched key v httl hkey hmiss hv hu =>
    dsimp only
    cases hset : k.cache.failsSet with
    | true => simp [Cache.store_of_fails hset]
    | false =>
      rw [held?_store hkey hset hu, if_neg, hv]
      · simp [hu]
      · simp [hkey, hmiss, Int.not_le.mpr httl]

/-- A read leaves what the cache holds for other sources. -/
theorem held?_read_of_ne (h : s' ≠ s) :
    s'.held? (s.read.after k).cache = s'.held? k.cache := by
  obtain ⟨r, c, calls, hr, -, hafter⟩ := s.reads k
  rw [hafter]
  cases hr with
  | direct | hit | failed | unwritable => rfl
  | fetched _ hkey => exact held?_store_of_ne hkey h _

@[simp] theorem failsGet_read (s : Source) (k : Collaborators) :
    (s.read.after k).cache.failsGet = k.cache.failsGet := by
  obtain ⟨r, c, calls, hr, -, hafter⟩ := s.reads k
  rw [hafter]
  cases hr with
  | direct | hit | failed | unwritable => rfl
  | fetched => exact Cache.failsGet_store ..

@[simp] theorem failsSet_read (s : Source) (k : Collaborators) :
    (s.read.after k).cache.failsSet = k.cache.failsSet := by
  obtain ⟨r, c, calls, hr, -, hafter⟩ := s.reads k
  rw [hafter]
  cases hr with
  | direct | hit | failed | unwritable => rfl
  | fetched => exact Cache.failsSet_store ..

end Source

end Directory

/-- The collaborators answer the same, and their caches work the same and hold the same for the
sources of a company. -/
structure AgreesFor (company : Int) (k k' : Collaborators) : Prop where
  answer : k'.answer = k.answer
  ttl : k'.cache.ttl = k.cache.ttl
  failsGet : k'.cache.failsGet = k.cache.failsGet
  failsSet : k'.cache.failsSet = k.cache.failsSet
  held : ∀ s : Source, s.company? = some company → s.held? k'.cache = s.held? k.cache

namespace AgreesFor

variable {company : Int} {k k' : Collaborators} {s : Source}

theorem refl (company : Int) (k : Collaborators) : AgreesFor company k k :=
  ⟨rfl, rfl, rfl, rfl, fun _ _ => rfl⟩

theorem trans {k'' : Collaborators} (h : AgreesFor company k k') (h' : AgreesFor company k' k'') :
    AgreesFor company k k'' :=
  ⟨h'.answer.trans h.answer, h'.ttl.trans h.ttl, h'.failsGet.trans h.failsGet,
    h'.failsSet.trans h.failsSet, fun s hs => (h'.held s hs).trans (h.held s hs)⟩

theorem symm (h : AgreesFor company k k') : AgreesFor company k' k :=
  ⟨h.answer.symm, h.ttl.symm, h.failsGet.symm, h.failsSet.symm, fun s hs => (h.held s hs).symm⟩

/-- Vehicles are not cached, so the caches agree on them as well. -/
theorem held_of_belongs (h : AgreesFor company k k')
    (hs : s.company? = some company ∨ s.company? = none) :
    s.held? k'.cache = s.held? k.cache := by
  rcases hs with hs | hs
  · exact h.held s hs
  · cases s with
    | company | service => cases hs
    | vehicle => rfl

/-- A read for the company, or of a vehicle, gives the same and keeps the agreement. -/
theorem read (h : AgreesFor company k k') (hs : s.company? = some company ∨ s.company? = none) :
    s.read.value k = s.read.value k' ∧ AgreesFor company (s.read.after k) (s.read.after k') := by
  have hheld := h.held_of_belongs hs
  have hkeeps : s.keeps? k' = s.keeps? k := by
    unfold Source.keeps? Source.found?
    rw [h.ttl, h.failsSet, h.failsGet, hheld, Source.answered_congr h.answer]
  refine ⟨(Source.read_value_congr h.answer h.ttl h.failsGet hheld).symm, ?_, ?_, ?_, ?_, ?_⟩
  · rw [Source.answer_read, Source.answer_read, h.answer]
  · rw [Source.ttl_read, Source.ttl_read, h.ttl]
  · rw [Source.failsGet_read, Source.failsGet_read, h.failsGet]
  · rw [Source.failsSet_read, Source.failsSet_read, h.failsSet]
  · intro s' hs'
    by_cases hne : s' = s
    · rw [hne, Source.held?_read, Source.held?_read, hkeeps, hheld]
    · rw [Source.held?_read_of_ne hne, Source.held?_read_of_ne hne, h.held s' hs']

/-- A read for another company makes no difference to this one. -/
theorem read_other (k : Collaborators) (hs : s.company? ≠ some company) :
    AgreesFor company k (s.read.after k) where
  answer := s.answer_read k
  ttl := s.ttl_read k
  failsGet := s.failsGet_read k
  failsSet := s.failsSet_read k
  held _ hs' := Source.held?_read_of_ne fun h => hs (h ▸ hs')

end AgreesFor

/-- Reads for a company, and of vehicles, give the same in related collaborators and keep them
related. -/
def Attuned (company : Int) (A : Collaborators → Collaborators → Prop) : Prop :=
  ∀ s : Source, s.company? = some company ∨ s.company? = none →
    RunsAlike A (· = ·) s.read s.read

theorem attuned_agreesFor (company : Int) : Attuned company (AgreesFor company) :=
  fun _ hs _ _ hk => ⟨.of_eq (hk.read hs).1, (hk.read hs).2⟩

/-- One set of collaborators on both sides, which agrees with given ones for a company. -/
def BesidesFor (company : Int) (k₀ k k' : Collaborators) : Prop := k = k' ∧ AgreesFor company k₀ k

/-- Reads for one company make no difference to another. -/
theorem attuned_besidesFor {company other : Int} (hne : other ≠ company) (k₀ : Collaborators) :
    Attuned other (BesidesFor company k₀) := by
  rintro s hs k _ ⟨rfl, hk⟩
  refine ⟨.of_eq rfl, rfl, hk.trans (.read_other k fun h => ?_)⟩
  rcases hs with hs | hs
  · exact hne (Option.some.inj (hs.symm.trans h))
  · cases hs.symm.trans h

/-! ## Reads for a company -/

section Lookups

variable {company : Int} {A : Collaborators → Collaborators → Prop} (hA : Attuned company A)

include hA

namespace Attuned

theorem fetchCompany : RunsAlike A (· = ·) (Directory.fetchCompany company)
    (Directory.fetchCompany company) :=
  .refusing (hA (.company company) (.inl rfl))

theorem fetchService (service : Int) : RunsAlike A (· = ·)
    (Directory.fetchService company service) (Directory.fetchService company service) :=
  .refusing (hA (.service company service) (.inl rfl))

theorem fetchVehicle (user : Int) : RunsAlike A (· = ·) (Directory.fetchVehicle user)
    (Directory.fetchVehicle user) :=
  .refusing (hA (.vehicle user) (.inr rfl))

theorem fetchManaged (user : Int) : RunsAlike A (· = ·) (Directory.fetchManaged company user)
    (Directory.fetchManaged company user) :=
  hA.fetchCompany.bind_eq fun _ => .ite (fun _ => .pure rfl) fun _ => .throw _

theorem lookUp {o : Admission.Order} (ho : o.company = company) :
    RunsAlike A (· = ·) o.lookUp o.lookUp := by
  unfold Admission.Order.lookUp
  rw [ho]
  refine hA.fetchCompany.bind_eq fun _ => .lift_bind fun _ _ => ?_
  refine (hA.fetchService _).bind_eq fun _ => .lift_bind fun _ _ => ?_
  exact (hA.fetchVehicle _).bind_eq fun _ => .pure rfl

/-- Whatever is checked before a rule is created, is checked on both sides. -/
theorem checkCreate (user : Int) {scope : Scope} (hc : scope.company = company)
    (d : Capacity.Draft) : RunsAlike A (fun t t' => t = t' ∧ t.Permitted)
      (Capacity.Management.checkCreate user scope d)
      (Capacity.Management.checkCreate user scope d) := by
  unfold Capacity.Management.checkCreate
  rw [hc]
  refine (hA.fetchManaged user).bind_eq fun _ => .lift_bind fun t ht => ?_
  have hpermitted : t.Permitted := (Capacity.Management.requireTerms_eq_ok.mp ht).2
  cases scope.address with
  | none =>
    cases scope.service with
    | none => exact .pure ⟨rfl, hpermitted⟩
    | some v => exact (hA.fetchService v).bind_eq fun _ => .pure ⟨rfl, hpermitted⟩
  | some a =>
    refine .lift_bind fun _ _ => ?_
    cases scope.service with
    | none => exact .pure ⟨rfl, hpermitted⟩
    | some v =>
      exact (hA.fetchService v).bind_eq fun s =>
        .ite (fun _ => .pure ⟨rfl, hpermitted⟩) fun _ => .throw _

end Attuned

end Lookups

/-! ## Tasks by key -/

/-- The company that an operation names, if it names one. -/
def Operation.company? : Operation → Option Int
  | allocate request => request.company
  | availability company .. => company
  | companyBookings _ query => some query.company
  | companyRules company _ => some company
  | createRule _ scope _ | effectiveRule scope | deleteRuleFor scope _ => some scope.company
  | viewBooking .. | userBookings .. | cancelBooking .. | changeStatus .. | viewRule ..
  | updateRule .. | deleteRule .. => none

/-- The company that a task names, if it names one. -/
def Task.company? : Task → Option Int
  | operation op => op.company?
  | storedRule scope | governing scope => some scope.company

/-- The task names its rows by company, address and service, not by id or user, and shows no list of
rows. -/
inductive Task.IsByKey : Task → Prop
  | allocate (r : Admission.Request) : IsByKey (.operation (.allocate r))
  | availability (company address service : Option Int) (date : Date) :
    IsByKey (.operation (.availability company address service date))
  | createRule (user : Int) (scope : Scope) (d : Capacity.Draft) :
    IsByKey (.operation (.createRule user scope d))
  | deleteRuleFor (scope : Scope) (user : Int) : IsByKey (.operation (.deleteRuleFor scope user))
  | effectiveRule (scope : Scope) : IsByKey (.operation (.effectiveRule scope))
  | storedRule (scope : Scope) : IsByKey (.storedRule scope)
  | governing (scope : Scope) : IsByKey (.governing scope)

/-- The outcome without the ids of rows. -/
def Outcome.withoutId : Outcome → Outcome
  | nothing => nothing
  | booking b => booking b.withoutId
  | bookings bs => bookings (bs.map Booking.withoutId)
  | day d => day d.withoutId
  | rule r => rule r.withoutId
  | rules rs => rules (rs.map Capacity.Rule.withoutId)
  | governing g => governing g.withoutId

section Tasks

variable {company : Int} {A : Collaborators → Collaborators → Prop} {s s' : Store} {now : Instant}

/-- What an operation asks before its transaction it asks for this company, and its transaction
reads and writes the share of this company. -/
theorem Operation.run_alike (hA : Attuned company A) (h : s.SameShare company s')
    (hl : s.writeLocked = s'.writeLocked) {op : Operation} (hop : (Task.operation op).IsByKey)
    (hc : ∀ c ∈ op.company?, c = company) :
    RunsAlike A (SameEnd Outcome.withoutId company) (op.run s now) (op.run s' now) := by
  cases hop with
  | allocate r =>
    unfold Operation.run Admission.allocate
    refine .bind (R := SameEnd Booking.withoutId company)
      (.lift_bind fun o ho => ?_) fun p p' hp => .pure ⟨congrArg Outcome.booking hp.1, hp.2⟩
    have hcompany : o.company = company := hc _ (Admission.Request.order_eq_ok.mp ho).2.1.1
    exact (hA.lookUp hcompany).bind_eq fun (c, v, w) =>
      .lift (Admission.admit_alike h hl hcompany c v w)
  | availability names address service date =>
    unfold Operation.run SlotBooking.availability
    refine .bind (R := fun d d' => d.withoutId = d'.withoutId)
      (.lift_bind fun named hnamed => .lift_bind fun a _ => .lift_bind fun v _ => ?_)
      fun _ _ hd => .pure ⟨congrArg Outcome.day hd, h⟩
    obtain rfl : named = company := hc _ (Admission.requirePositive_eq_ok.mp hnamed).1
    refine hA.fetchCompany.bind_eq fun c => .lift_bind fun _ _ => ?_
    exact (hA.fetchService v).bind_eq fun _ => .lift_bind fun _ _ =>
      .lift (Availability.day_alike h c a v date)
  | createRule user scope d =>
    have hcompany : scope.company = company := hc _ rfl
    unfold Operation.run Capacity.Management.create
    refine .bind (R := SameEnd Capacity.Rule.withoutId company)
      ((hA.checkCreate user hcompany d).bind ?_)
      fun p p' hp => .pure ⟨congrArg Outcome.rule hp.1, hp.2⟩
    rintro t _ ⟨rfl, ht⟩
    exact .lift (Capacity.Management.commitCreate_alike h hl hcompany ht)
  | deleteRuleFor scope user =>
    obtain rfl : scope.company = company := hc _ rfl
    unfold Operation.run Capacity.Management.deleteFor
    refine .bind (R := Store.SameShare scope.company) ((hA.fetchManaged user).bind_eq fun _ => ?_)
      fun _ _ hs => .pure ⟨rfl, hs⟩
    exact .lift (Capacity.Management.commitDeleteFor_alike h hl rfl)
  | effectiveRule scope =>
    unfold Operation.run Capacity.Management.effective
    refine .bind (R := fun g g' => g.withoutId = g'.withoutId)
      (.lift ((h.resolve? (hc _ rfl)).bind fun r r' hr => ?_))
      fun _ _ hg => .pure ⟨congrArg Outcome.governing hg, h⟩
    cases r <;> cases r'
    · exact .error _
    · cases hr
    · cases hr
    · exact .ok (congrArg Governing.ofRule (Option.some.inj hr))

/-- On stores with one share of a company, a task for it ends the same for the company. -/
theorem Task.run_alike (hA : Attuned company A) (h : s.SameShare company s')
    (hl : s.writeLocked = s'.writeLocked) {t : Task} (ht : t.IsByKey)
    (hc : ∀ c ∈ t.company?, c = company) :
    RunsAlike A (SameEnd Outcome.withoutId company) (t.run s now) (t.run s' now) := by
  cases t with
  | operation op => exact Operation.run_alike hA h hl ht hc
  | storedRule scope =>
    unfold Task.run
    refine .bind (.lift (h.resolve? (hc _ rfl))) fun r r' hr => ?_
    cases r <;> cases r'
    · exact .pure ⟨rfl, h⟩
    · cases hr
    · cases hr
    · exact .pure ⟨congrArg (Outcome.governing ∘ Governing.ofRule) (Option.some.inj hr), h⟩
  | governing scope =>
    unfold Task.run
    exact .bind (.lift (h.governing (hc _ rfl))) fun _ _ hg =>
      .pure ⟨congrArg Outcome.governing hg, h⟩

end Tasks

/-! ## Tasks for others -/

/-- What an operation does for another company leaves the share of this one. -/
theorem Effect.sameShare {company : Int} {s s₁ s' : Store} {now : Instant} {k : Collaborators}
    {op : Operation} {out : Outcome} (he : Effect s now k op out s₁)
    (hop : (Task.operation op).IsByKey) (hother : op.company? ≠ some company)
    (h : s.SameShare company s') : s₁.SameShare company s' := by
  obtain ⟨rows, rows', hr, hr', hrows⟩ := h.bookings
  obtain ⟨rules, rules', hu, hu', hs, hs', hrules⟩ := h.rules
  cases he with
  | read => exact h
  | admitted ho hf ha =>
    obtain ⟨_, hr₁, -, hcompany, rfl⟩ := Admission.Order.admit_adds ha
    cases hr.symm.trans hr₁
    refine ⟨⟨_, rows', rfl, hr', ?_⟩, h.rules⟩
    rw [bookingShare_concat, hcompany, if_neg, List.append_nil, hrows]
    intro hsame
    exact hother ((Admission.Request.order_eq_ok.mp ho).2.1.1.trans (congrArg some hsame))
  | cancelled hl hb hc hcancels => cases hcancels <;> cases hop
  | statusSet | ruleChanged | ruleErased => cases hop
  | ruleAdded hl hm hd hp hr₁ hn =>
    cases hu.symm.trans hr₁
    refine ⟨h.bookings, _, rules', rfl, hu', hs.concat hn hp, hs', ?_⟩
    rw [ruleShare_concat, if_neg, List.append_nil, hrules]
    exact fun hsame => hother (congrArg some hsame)
  | ruleErasedFor hl hm hr₁ hfor =>
    cases hu.symm.trans hr₁
    obtain ⟨hmem, hscope⟩ := Capacity.ruleFor?_eq_some hfor
    refine ⟨h.bookings, _, rules', Store.eraseRule_rules hu _, hu', hs.filter _, hs', ?_⟩
    rw [hs.erase_share hmem, hrules]
    refine List.filter_eq_self.mpr fun a ha => decide_eq_true fun hsame => hother ?_
    rw [← mem_ruleShare ha, hsame, hscope]
    rfl

/-- What a task does for another company leaves the share of this one. -/
theorem Task.run_other {company : Int} {s s₁ s' : Store} {now : Instant} {k : Collaborators}
    {t : Task} {out : Outcome} (hrun : (t.run s now).value k = .ok (out, s₁)) (ht : t.IsByKey)
    (hother : t.company? ≠ some company) (h : s.SameShare company s') :
    s₁.SameShare company s' := by
  cases t with
  | operation op => exact (Operation.run_effect hrun).sameShare ht hother h
  | storedRule scope =>
    simp only [Task.run, Lookup.value_bind, bind_eq_ok] at hrun
    obtain ⟨r, -, hrun⟩ := hrun
    cases r <;> cases hrun <;> exact h
  | governing scope =>
    simp only [Task.run, Lookup.value_bind, bind_eq_ok] at hrun
    obtain ⟨g, -, hrun⟩ := hrun
    cases hrun
    exact h

/-! ## Visits -/

/-- The visit names a company, and not this one. -/
def Visit.NamesOther (company : Int) (v : Visit) : Prop := ∃ c ∈ v.task.company?, c ≠ company

instance (company : Int) : DecidablePred (Visit.NamesOther company) := fun _ => by
  unfold Visit.NamesOther
  infer_instance

/-- The worlds are the same for a company. -/
structure World.Mirrors (company : Int) (w w' : World) : Prop where
  store : w.store.SameShare company w'.store
  collaborators : AgreesFor company w.collaborators w'.collaborators

namespace World

variable {company : Int} {w w' : World} {v : Visit} {vs : List Visit}

/-- In worlds that are the same for a company, a visit that names no other ends the same for it. -/
theorem visit_own (h : w.Mirrors company w') (hv : v.task.IsByKey)
    (hown : ¬ v.NamesOther company) :
    EndsAlike (fun o o' => o.withoutId = o'.withoutId) (w.visit v).1 (w'.visit v).1 ∧
      (w.visit v).2.Mirrors company (w'.visit v).2 := by
  have hmeets : (v.meets w).store.SameShare company (v.meets w').store :=
    ⟨h.store.bookings, h.store.rules⟩
  have hc : ∀ c ∈ v.task.company?, c = company := fun c hc =>
    Decidable.byContradiction fun hne => hown ⟨c, hc, hne⟩
  obtain ⟨hout, hstore, hk⟩ := visit_alike (R := fun o o' => o.withoutId = o'.withoutId)
    (S := Store.SameShare company) h.collaborators hmeets
    (Task.run_alike (attuned_agreesFor company) hmeets rfl hv hc)
  exact ⟨hout, hstore, hk⟩

/-- A visit that names another company makes no difference to this one. -/
theorem visit_other (h : w.Mirrors company w') (hv : v.task.IsByKey)
    (hother : v.NamesOther company) : (w.visit v).2.Mirrors company w' := by
  obtain ⟨other, hnamed, hne⟩ := hother
  have hmeets : (v.meets w).store.SameShare company w'.store := ⟨h.store.bookings, h.store.rules⟩
  constructor
  · unfold visit
    rw [carryOut_store]
    split
    · exact Task.run_other ‹_› hv (fun hc => hne (Option.mem_unique hnamed hc)) hmeets
    · exact hmeets
  · -- The world beside itself: the collaborators stay as they are for this company.
    obtain ⟨rows, -, hr, -⟩ := h.store.bookings
    obtain ⟨rules, -, hu, -, hs, -⟩ := h.store.rules
    have hself : (v.meets w).store.SameShare other (v.meets w).store := .refl hr hu hs
    obtain ⟨-, -, -, hk⟩ := visit_alike (R := fun o o' => o.withoutId = o'.withoutId)
      (A := BesidesFor company w.collaborators) ⟨rfl, .refl company w.collaborators⟩ hself
      (Task.run_alike (attuned_besidesFor hne w.collaborators) hself rfl hv
        fun c hc => Option.mem_unique hc hnamed)
    exact hk.symm.trans h.collaborators

/-- The outcomes, without ids, of the visits that name no other company. -/
theorem answers_mirrors (h : w.Mirrors company w') (hvs : ∀ v ∈ vs, v.task.IsByKey) :
    (((vs.zip (w.answers vs)).filter fun p => ¬ p.1.NamesOther company).map fun p =>
        p.2.map Outcome.withoutId) =
      (w'.answers (vs.filter fun v => ¬ v.NamesOther company)).map (·.map Outcome.withoutId) ∧
    (w.afterVisits vs).Mirrors company
      (w'.afterVisits (vs.filter fun v => ¬ v.NamesOther company)) := by
  induction vs generalizing w w' with
  | nil => exact ⟨rfl, h⟩
  | cons v vs ih =>
    obtain ⟨hv, hvs⟩ := List.forall_mem_cons.mp hvs
    have hzip : (v :: vs).zip (w.answers (v :: vs)) =
        (v, (w.visit v).1) :: vs.zip ((w.visit v).2.answers vs) := rfl
    rw [hzip]
    by_cases hother : v.NamesOther company
    · rw [List.filter_cons_of_neg (by simpa using hother),
        List.filter_cons_of_neg (by simpa using hother)]
      exact ih (visit_other h hv hother) hvs
    · rw [List.filter_cons_of_pos (by simpa using hother),
        List.filter_cons_of_pos (by simpa using hother)]
      obtain ⟨hout, hnext⟩ := visit_own h hv hother
      obtain ⟨hanswers, hafter⟩ := ih hnext hvs
      exact ⟨congrArg₂ List.cons hout.map_eq hanswers, hafter⟩

/-- **Companies are isolated.** From empty tables, whatever the collaborators answer and the cache
holds, let visits at any times and locks carry out tasks by key for any companies. Without the
visits that name another company than a given one, the rest end the same, with the same failure or
the same outcome but for the ids of rows, and in the end both tables have the same rows of this
company, but for ids. -/
theorem companies_isolated {start : World} (hb : start.store.bookings = some [])
    (hr : start.store.rules = some []) (company : Int) (hvs : ∀ v ∈ vs, v.task.IsByKey) :
    (((vs.zip (start.answers vs)).filter fun p => ¬ p.1.NamesOther company).map fun p =>
        p.2.map Outcome.withoutId) =
      (start.answers (vs.filter fun v => ¬ v.NamesOther company)).map
        (·.map Outcome.withoutId) ∧
    (start.afterVisits vs).store.SameShare company
      (start.afterVisits (vs.filter fun v => ¬ v.NamesOther company)).store := by
  have h : start.Mirrors company start := ⟨.refl hb hr .nil, .refl company _⟩
  obtain ⟨hanswers, hafter⟩ := answers_mirrors h hvs
  exact ⟨hanswers, hafter.store⟩

/-- User 7 creates a rule for company 2 and one for company 1, looks the second up, and deletes the
first again. -/
def twoCompanies : List Visit :=
  [.operation (.createRule 7 ⟨2, none, none⟩ (.ofTerms .standard)),
    .operation (.createRule 7 ⟨1, none, none⟩ (.ofTerms .standard)), .storedRule ⟨1, none, none⟩,
    .operation (.deleteRuleFor ⟨2, none, none⟩ 7)].map fun t => ⟨t, (managedWorld []).now, false⟩

/-- Alone, the rule of company 1 gets another id. -/
theorem companies_isolated_sample :
    let own := twoCompanies.filter fun v => ¬ v.NamesOther 1
    (managedWorld []).answers twoCompanies = [.ok (.rule ⟨1, ⟨2, none, none⟩, .standard⟩),
      .ok (.rule ⟨2, ⟨1, none, none⟩, .standard⟩),
      .ok (.governing (.ofRule ⟨2, ⟨1, none, none⟩, .standard⟩)), .ok .nothing] ∧
    (managedWorld []).answers own = [.ok (.rule ⟨1, ⟨1, none, none⟩, .standard⟩),
      .ok (.governing (.ofRule ⟨1, ⟨1, none, none⟩, .standard⟩))] ∧
    ((managedWorld []).afterVisits twoCompanies).store.SameShare 1
      ((managedWorld []).afterVisits own).store := by
  refine ⟨rfl, rfl, (companies_isolated rfl rfl 1 fun v hv => ?_).2⟩
  obtain ⟨t, ht, rfl⟩ := List.mem_map.mp hv
  simp only [List.mem_cons, List.not_mem_nil, or_false] at ht
  rcases ht with rfl | rfl | rfl | rfl
  · exact .createRule ..
  · exact .createRule ..
  · exact .storedRule _
  · exact .deleteRuleFor ..

end World

end SlotBooking
