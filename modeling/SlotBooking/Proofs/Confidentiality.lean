import Mathlib.Data.List.Forall2
import Mathlib.Data.List.Sort
import SlotBooking.Proofs.Cancellation
import SlotBooking.Proofs.Parallel

/-!
# What a user learns of the bookings of others

A user sees the bookings that the user owns and those of companies that the user manages. Of all
others, questions about bookings show at most that there is a booking of an id and whose company it
is at: two tables that differ in nothing but hidden bookings are answered about alike, and stay so.

* `Booking.VisibleTo`: the bookings that a user sees.
* `Indistinguishable`: tables that differ in nothing but hidden bookings; `Twin` is the same row by
  row.
* `Operation.IsQueryBy`: the questions and changes about bookings of one user.
* `Operation.run_twins`: such an operation on twin stores.
* `World.strangers_learn_nothing`: the main statement.
-/

namespace SlotBooking

open Directory (Collaborators Lookup)
open Lifecycle (Manages)

/-! ## Visible and hidden bookings -/

/-- The user owns the booking or manages its company. -/
def Booking.VisibleTo (k : Collaborators) (user : Int) (b : Booking) : Prop :=
  b.user = user ∨ Manages k user b.company

/-- Two tables with the same visible bookings, and with hidden ones of the same ids, each at the
same company. -/
structure Indistinguishable (k : Collaborators) (user : Int) (rows rows' : List Booking) :
    Prop where
  ascending : Ascending rows
  ascending' : Ascending rows'
  shown : ∀ b, b.VisibleTo k user → (b ∈ rows ↔ b ∈ rows')
  hidden : ∀ id company,
    (∃ b ∈ rows, ¬ b.VisibleTo k user ∧ b.id = id ∧ b.company = company) ↔
      ∃ b ∈ rows', ¬ b.VisibleTo k user ∧ b.id = id ∧ b.company = company

/-- One visible booking, or two hidden ones of one id and one company. -/
inductive Twin (k : Collaborators) (user : Int) : Booking → Booking → Prop
  | shown {b : Booking} (h : b.VisibleTo k user) : Twin k user b b
  | hidden {b b' : Booking} (h : ¬ b.VisibleTo k user) (h' : ¬ b'.VisibleTo k user)
    (hid : b.id = b'.id) (hc : b.company = b'.company) : Twin k user b b'

section Twins

variable {k : Collaborators} {user : Int} {rows rows' : List Booking} {b b' : Booking}

theorem Twin.id_eq (h : Twin k user b b') : b.id = b'.id := by
  cases h with
  | shown => rfl
  | hidden _ _ hid => exact hid

theorem Indistinguishable.ids_eq (h : Indistinguishable k user rows rows') :
    rows.map (·.id) = rows'.map (·.id) := by
  have hsub {l l' : List Booking} (hshown : ∀ b, b.VisibleTo k user → b ∈ l → b ∈ l')
      (hhidden : ∀ id company,
        (∃ b ∈ l, ¬ b.VisibleTo k user ∧ b.id = id ∧ b.company = company) →
          ∃ b ∈ l', ¬ b.VisibleTo k user ∧ b.id = id ∧ b.company = company) :
      l.map (·.id) ⊆ l'.map (·.id) := by
    intro i hi
    obtain ⟨b, hb, rfl⟩ := List.mem_map.mp hi
    by_cases hv : b.VisibleTo k user
    · exact List.mem_map_of_mem (hshown b hv hb)
    · obtain ⟨b', hb', -, hid, -⟩ := hhidden b.id b.company ⟨b, hb, hv, rfl, rfl⟩
      exact List.mem_map.mpr ⟨b', hb', hid⟩
  refine List.Subset.antisymm_of_pairwise h.ascending h.ascending' ?_ ?_
  · exact hsub (fun b hv => (h.shown b hv).mp) fun i c => (h.hidden i c).mp
  · exact hsub (fun b hv => (h.shown b hv).mpr) fun i c => (h.hidden i c).mpr

/-- Two bookings of one id, one in each table, are twins. -/
theorem Indistinguishable.twin (h : Indistinguishable k user rows rows') (hb : b ∈ rows)
    (hb' : b' ∈ rows') (hid : b.id = b'.id) : Twin k user b b' := by
  by_cases hv : b.VisibleTo k user
  · rw [← h.ascending'.eq_of_id_eq ((h.shown b hv).mp hb) hb' hid]
    exact .shown hv
  · obtain ⟨x, hx, hvx, hidx, hcx⟩ := (h.hidden b.id b.company).mp ⟨b, hb, hv, rfl, rfl⟩
    obtain rfl := h.ascending'.eq_of_id_eq hx hb' (hidx.trans hid)
    exact .hidden hv hvx hid hcx.symm

theorem Indistinguishable.twins (h : Indistinguishable k user rows rows') :
    List.Forall₂ (Twin k user) rows rows' := by
  have hlen : rows.length = rows'.length := by
    rw [← List.length_map (·.id), h.ids_eq, List.length_map]
  refine List.forall₂_of_length_eq_of_get hlen fun i hi hi' => ?_
  refine h.twin (List.get_mem ..) (List.get_mem ..) ?_
  have hget := congrArg (·[i]?) h.ids_eq
  simpa [List.getElem?_eq_getElem, hi, hi'] using hget

/-- What concerns only visible bookings finds the same in both tables. -/
theorem filter_twins (h : List.Forall₂ (Twin k user) rows rows') {p : Booking → Bool}
    (hp : ∀ b, p b = true → b.VisibleTo k user) : rows.filter p = rows'.filter p := by
  induction h with
  | nil => rfl
  | cons hb _ ih =>
    cases hb with
    | shown => rw [List.filter_cons, List.filter_cons, ih]
    | hidden h h' =>
      rw [List.filter_cons_of_neg (fun hpb => h (hp _ hpb)),
        List.filter_cons_of_neg (fun hpb => h' (hp _ hpb)), ih]

/-- Of one id there is no booking in either table, or there are twins. -/
theorem find?_twins (h : List.Forall₂ (Twin k user) rows rows') (id : Int) :
    Option.Rel (Twin k user) (rows.find? fun b => decide (b.id = id))
      (rows'.find? fun b => decide (b.id = id)) := by
  induction h with
  | nil => exact .none
  | @cons b b' _ _ hb _ ih =>
    by_cases hid : b.id = id
    · rw [List.find?_cons_of_pos (by simpa using hid),
        List.find?_cons_of_pos (by simpa [← hb.id_eq] using hid)]
      exact .some hb
    · rw [List.find?_cons_of_neg (by simpa using hid),
        List.find?_cons_of_neg (by simpa [← hb.id_eq] using hid)]
      exact ih

/-- A visible booking takes the place of the same row in both tables. -/
theorem replaced_twins (h : List.Forall₂ (Twin k user) rows rows') {a : Booking}
    (ha : a.VisibleTo k user) :
    List.Forall₂ (Twin k user) (Store.replaced a rows) (Store.replaced a rows') := by
  induction h with
  | nil => exact .nil
  | @cons b b' _ _ hb _ ih =>
    refine .cons ?_ ih
    dsimp only
    rw [hb.id_eq]
    by_cases hid : b'.id = a.id
    · rw [if_pos hid, if_pos hid]
      exact .shown ha
    · rw [if_neg hid, if_neg hid]
      exact hb

end Twins

/-! ## Twin stores -/

/-- Stores whose tables of bookings are the same but for hidden rows. -/
def Store.Twins (k : Collaborators) (user : Int) (s s' : Store) : Prop :=
  ∃ rows rows', s.bookings = some rows ∧ s'.bookings = some rows' ∧
    List.Forall₂ (Twin k user) rows rows'

section Stores

variable {k : Collaborators} {user : Int} {s s' : Store}

namespace Store.Twins

theorem booking (h : s.Twins k user s') (id : Int) :
    EndsAlike (Twin k user) (s.booking id) (s'.booking id) := by
  obtain ⟨rows, rows', hr, hr', hrows⟩ := h
  unfold Store.booking Store.booking?
  rw [hr, hr']
  simp only [Store.rows, ok_bind]
  refine EndsAlike.bind (R := Option.Rel (Twin k user)) ?_ ?_
  · exact .bind_same fun _ _ => .ok (find?_twins hrows id)
  · rintro _ _ (hb | _)
    · exact .ok hb
    · exact .error _

theorem listOf (h : s.Twins k user s') (status : Option Status) :
    s.listOf user status = s'.listOf user status := by
  obtain ⟨rows, rows', hr, hr', hrows⟩ := h
  have hfilter : bookingsOf user status rows = bookingsOf user status rows' := by
    unfold bookingsOf
    rw [filter_twins hrows fun b hb => .inl (of_decide_eq_true hb).1]
  unfold Store.listOf
  rw [hr, hr']
  simp only [Store.rows, ok_bind, hfilter]

/-- A company that the user manages is listed alike. -/
theorem list (h : s.Twins k user s') {f : Filter} (hm : Manages k user f.company) :
    s.list f = s'.list f := by
  obtain ⟨rows, rows', hr, hr', hrows⟩ := h
  have hfilter : f.list rows = f.list rows' := by
    unfold Filter.list
    rw [filter_twins hrows fun b hb => ?_]
    have hadmits : f.Admits b := of_decide_eq_true hb
    exact .inr (hadmits.1 ▸ hm)
  unfold Store.list
  rw [hr, hr']
  simp only [Store.rows, ok_bind, hfilter]

theorem putBooking (h : s.Twins k user s') {b : Booking} (hb : b.VisibleTo k user) :
    (s.putBooking b).Twins k user (s'.putBooking b) := by
  obtain ⟨rows, rows', hr, hr', hrows⟩ := h
  rw [Store.putBooking_eq hr, Store.putBooking_eq hr']
  exact ⟨_, _, rfl, rfl, replaced_twins hrows hb⟩

end Store.Twins

namespace Lifecycle

variable {now : Instant} {id : Int} {b : Booking}

/-- The transaction that cancels a visible booking. -/
theorem cancelNow_twins (h : s.Twins k user s') (hl : s.writeLocked = s'.writeLocked)
    (hb : s.booking id = .ok b) (hb' : s'.booking id = .ok b) (hv : b.VisibleTo k user)
    (status : Status) (reason : Option String) :
    EndsAlike (fun p p' => p.1 = p'.1 ∧ p.2.Twins k user p'.2)
      (cancelNow s now id status reason) (cancelNow s' now id status reason) := by
  unfold cancelNow Store.setCancelled Store.begin
  rw [hl, hb, hb']
  refine .bind_same fun _ _ => .bind_same fun _ _ => .ite (fun _ => ?_) fun _ => .error _
  exact .ok ⟨rfl, h.putBooking hv⟩

/-- The transaction that sets the status of a visible booking. -/
theorem setStatusNow_twins (h : s.Twins k user s') (hl : s.writeLocked = s'.writeLocked)
    (hb : s.booking id = .ok b) (hb' : s'.booking id = .ok b) (hv : b.VisibleTo k user)
    (status : Status) :
    EndsAlike (fun p p' => p.1 = p'.1 ∧ p.2.Twins k user p'.2)
      (setStatusNow s id status) (setStatusNow s' id status) := by
  unfold setStatusNow Store.setStatus Store.begin
  rw [hl, hb, hb']
  refine .bind_same fun _ _ => .bind_same fun _ _ => .ite (fun _ => .error _) fun _ => ?_
  exact .ok ⟨rfl, h.putBooking hv⟩

end Lifecycle

end Stores

/-! ## Twin operations -/

/-- One set of collaborators on both sides, which say the same as given ones or what the cache kept
of it. -/
def SharedBy (k₀ k k' : Collaborators) : Prop := k = k' ∧ k₀.Echoes k

theorem Directory.Collaborators.Echoes.manages_iff {k k' : Collaborators} (h : k.Echoes k')
    {user company : Int} : Manages k' user company ↔ Manages k user company := by
  rw [Lifecycle.manages_iff, Lifecycle.manages_iff, h.fetchCompany]

section Operations

variable {k : Collaborators} {user : Int} {s s' : Store} {now : Instant}

/-- Whoever is found to be a manager is one for the given collaborators. -/
theorem fetchManaged_shared (company : Int) :
    RunsAlike (SharedBy k) (fun _ _ => Manages k user company)
      (Directory.fetchManaged company user) (Directory.fetchManaged company user) := by
  rintro k₁ _ ⟨rfl, hk⟩
  obtain ⟨p, hp⟩ := Scripted.fetchManaged company user
  refine ⟨(EndsAlike.of_eq rfl).known.mono fun c _ hc => hk.manages_iff.mp ⟨c, hc.2.1⟩, rfl, ?_⟩
  rw [← hp]
  exact hk.trans (p.echoes k₁)

namespace Lifecycle

theorem view_twins (h : s.Twins k user s') (id : Int) :
    RunsAlike (SharedBy k) (· = ·) (view s id user) (view s' id user) := by
  unfold view
  refine .bind (.lift (h.booking id)) fun b b' hb => ?_
  cases hb with
  | shown =>
    refine .ite (fun _ => .pure rfl) fun _ => ?_
    exact (fetchManaged_shared b.company).bind fun _ _ _ => .pure rfl
  | hidden hv hv' _ hc =>
    -- Neither table shows more than that the user does not manage the company.
    rw [if_neg fun hu => hv (.inl hu), if_neg fun hu => hv' (.inl hu), ← hc]
    exact (fetchManaged_shared b.company).bind fun _ _ hm => absurd (.inr hm) hv

theorem ofCompany_twins (h : s.Twins k user s') (q : Query) :
    RunsAlike (SharedBy k) (· = ·) (ofCompany s user q) (ofCompany s' user q) := by
  unfold ofCompany
  refine (fetchManaged_shared q.company).bind fun _ _ hm => ?_
  refine .ite (fun _ => .throw _) fun _ => .lift_bind fun f hf => .lift (.of_eq (h.list ?_))
  unfold Query.filter at hf
  obtain ⟨status, -, hf⟩ := bind_eq_ok.mp hf
  cases hf
  exact hm

theorem cancel_twins (h : s.Twins k user s') (hl : s.writeLocked = s'.writeLocked) (id : Int)
    (reason : Option String) :
    RunsAlike (SharedBy k) (fun p p' => p.1 = p'.1 ∧ p.2.Twins k user p'.2)
      (cancel s now id user reason) (cancel s' now id user reason) := by
  unfold cancel
  refine .ite (fun _ => .throw _) fun _ => ?_
  refine .bind (.lift (h.booking id).known) fun b b' ⟨htwin, hb, hb'⟩ => ?_
  cases htwin with
  | shown hv =>
    refine .ite (fun _ => .lift (cancelNow_twins h hl hb hb' hv _ _)) fun _ => ?_
    exact (fetchManaged_shared b.company).bind fun _ _ _ =>
      .lift (cancelNow_twins h hl hb hb' hv _ _)
  | hidden hv hv' _ hc =>
    rw [if_neg fun hu => hv (.inl hu), if_neg fun hu => hv' (.inl hu), ← hc]
    exact (fetchManaged_shared b.company).bind fun _ _ hm => absurd (.inr hm) hv

theorem changeStatus_twins (h : s.Twins k user s') (hl : s.writeLocked = s'.writeLocked) (id : Int)
    (t : Text) : RunsAlike (SharedBy k) (fun p p' => p.1 = p'.1 ∧ p.2.Twins k user p'.2)
      (changeStatus s now id user t) (changeStatus s' now id user t) := by
  unfold changeStatus
  refine .bind (.lift (h.booking id).known) fun b b' ⟨htwin, hb, hb'⟩ => ?_
  cases htwin with
  | shown hv =>
    refine (fetchManaged_shared b.company).bind fun _ _ _ => .lift_bind fun status _ => ?_
    exact .ite (fun _ => .lift (cancelNow_twins h hl hb hb' hv _ _))
      fun _ => .lift (setStatusNow_twins h hl hb hb' hv _)
  | hidden hv hv' _ hc =>
    rw [← hc]
    exact (fetchManaged_shared b.company).bind fun _ _ hm => absurd (.inr hm) hv

end Lifecycle

/-- A question about bookings or a change of one, by this user. -/
inductive Operation.IsQueryBy (user : Int) : Operation → Prop
  | view (id : Int) : IsQueryBy user (.viewBooking id user)
  | own (status : Option String) : IsQueryBy user (.userBookings user status)
  | ofCompany (q : Lifecycle.Query) : IsQueryBy user (.companyBookings user q)
  | cancel (id : Int) (reason : Option String) : IsQueryBy user (.cancelBooking id user reason)
  | changeStatus (id : Int) (t : Text) : IsQueryBy user (.changeStatus id user t)

theorem Operation.IsQueryBy.user_eq {op : Operation} (h : op.IsQueryBy user) :
    op.user? = some user := by
  cases h <;> rfl

/-- On twin stores the user gets one answer, and leaves twin stores. -/
theorem Operation.run_twins (h : s.Twins k user s') (hl : s.writeLocked = s'.writeLocked)
    {op : Operation} (hop : op.IsQueryBy user) :
    RunsAlike (SharedBy k) (fun p p' => p.1 = p'.1 ∧ p.2.Twins k user p'.2)
      (op.run s now) (op.run s' now) := by
  cases hop with
  | view id => exact (Lifecycle.view_twins h id).bind_eq fun _ => .pure ⟨rfl, h⟩
  | own status =>
    have hsame : Lifecycle.ofUser s user status = Lifecycle.ofUser s' user status := by
      unfold Lifecycle.ofUser
      simp only [h.listOf]
    exact .bind_eq (.lift (.of_eq hsame)) fun _ => .pure ⟨rfl, h⟩
  | ofCompany q => exact (Lifecycle.ofCompany_twins h q).bind_eq fun _ => .pure ⟨rfl, h⟩
  | cancel id reason =>
    exact (Lifecycle.cancel_twins h hl id reason).bind fun _ _ hp =>
      .pure ⟨congrArg Outcome.booking hp.1, hp.2⟩
  | changeStatus id t =>
    exact (Lifecycle.changeStatus_twins h hl id t).bind fun _ _ hp =>
      .pure ⟨congrArg Outcome.booking hp.1, hp.2⟩

end Operations

/-! ## Hidden bookings -/

theorem Event.Makes.record_eq {e : Event} {s : Store} {b a : Booking} (h : e.Makes s b a) :
    a.user = b.user ∧ a.company = b.company := by
  cases h <;> exact ⟨rfl, rfl⟩

/-- A query of a user changes no hidden booking. -/
theorem Event.next_hidden {k : Collaborators} {user : Int} {e : Event} {s : Store}
    {rows : List Booking} (hr : s.bookings = some rows) (hasc : Ascending rows)
    (hop : e.operation.IsQueryBy user) (hk : k.Echoes e.collaborators) :
    ∃ rows', (e.next s).bookings = some rows' ∧ Ascending rows' ∧
      ∀ b, ¬ b.VisibleTo k user → (b ∈ rows' ↔ b ∈ rows) := by
  have huser := hop.user_eq
  obtain ⟨f, hf, hmakes⟩ | ⟨b, ⟨⟨r, hallocate⟩, -⟩, -⟩ := e.next_rows hr hasc.nodup
  · have hkept {b : Booking} (hb : b ∈ rows) (hv : ¬ b.VisibleTo k user) : f b = b := by
      obtain h | ⟨reason, h, -⟩ | ⟨u, hu, hm⟩ := (hmakes b hb).authorized
      · exact h
      · rw [h] at huser
        exact absurd (.inl (Option.some.inj huser)) hv
      · cases huser.symm.trans hu
        exact absurd (.inr (hk.manages_iff.mp (Lifecycle.manages_iff.mpr hm))) hv
    have hasc' : Ascending (rows.map f) := hasc.map fun b hb => (hmakes b hb).id_eq
    refine ⟨_, hf, hasc', fun b hv => ⟨fun hb => ?_, fun hb => ?_⟩⟩
    · obtain ⟨x, hx, rfl⟩ := List.mem_map.mp hb
      have hvx : ¬ x.VisibleTo k user := by
        unfold Booking.VisibleTo
        rw [← (hmakes x hx).record_eq.1, ← (hmakes x hx).record_eq.2]
        exact hv
      rw [hkept hx hvx]
      exact hx
    · exact List.mem_map.mpr ⟨b, hb, hkept hb hv⟩
  · rw [hallocate] at hop
    cases hop

/-! ## Visits -/

/-- The visit is a query of the user. -/
def Visit.IsQueryBy (user : Int) (v : Visit) : Prop :=
  ∃ op, v.task = .operation op ∧ op.IsQueryBy user

namespace World

variable {k : Collaborators} {user : Int} {w w' : World} {v : Visit} {vs : List Visit}

/-- In twin worlds a query has one answer, and leaves twin worlds. -/
theorem visit_twins (hs : w.store.Twins k user w'.store)
    (hk : SharedBy k w.collaborators w'.collaborators) (hv : v.IsQueryBy user) :
    (w.visit v).1 = (w'.visit v).1 ∧ (w.visit v).2.store.Twins k user (w'.visit v).2.store ∧
      SharedBy k (w.visit v).2.collaborators (w'.visit v).2.collaborators := by
  obtain ⟨op, htask, hop⟩ := hv
  have hmeets : (v.meets w).store.Twins k user (v.meets w').store := hs
  have hrun : RunsAlike (SharedBy k) (fun p p' => p.1 = p'.1 ∧ p.2.Twins k user p'.2)
      (v.task.run (v.meets w).store v.now) (v.task.run (v.meets w').store v.now) := by
    rw [htask]
    exact Operation.run_twins hmeets rfl hop
  obtain ⟨hout, hstore, hcollaborators⟩ := visit_alike hk hmeets hrun
  exact ⟨hout.eq, hstore, hcollaborators⟩

theorem answers_twins (hs : w.store.Twins k user w'.store)
    (hk : SharedBy k w.collaborators w'.collaborators) (hvs : ∀ v ∈ vs, v.IsQueryBy user) :
    w.answers vs = w'.answers vs ∧
      SharedBy k (w.afterVisits vs).collaborators (w'.afterVisits vs).collaborators := by
  induction vs generalizing w w' with
  | nil => exact ⟨rfl, hk⟩
  | cons v vs ih =>
    obtain ⟨hv, hvs⟩ := List.forall_mem_cons.mp hvs
    obtain ⟨hout, hs, hk⟩ := visit_twins hs hk hv
    obtain ⟨houts, hk⟩ := ih hs hk hvs
    exact ⟨congrArg₂ List.cons hout houts, hk⟩

/-- Queries of a user change no hidden booking. -/
theorem afterVisits_hidden {rows : List Booking} (hr : w.store.bookings = some rows)
    (hasc : Ascending rows) (hk : k.Echoes w.collaborators) (hvs : ∀ v ∈ vs, v.IsQueryBy user) :
    ∃ rows', (w.afterVisits vs).store.bookings = some rows' ∧
      ∀ b, ¬ b.VisibleTo k user → (b ∈ rows' ↔ b ∈ rows) := by
  induction vs generalizing w rows with
  | nil => exact ⟨rows, hr, fun _ _ => .rfl⟩
  | cons v vs ih =>
    obtain ⟨⟨op, htask, hop⟩, hvs⟩ := List.forall_mem_cons.mp hvs
    have hvisit : (w.visit v).2 = ((v.meets w).perform op).2 := by
      unfold visit
      rw [htask, carryOut_operation]
    obtain ⟨rows₁, hr₁, hasc₁, hsame₁⟩ :=
      Event.next_hidden (e := ⟨op, v.now, w.collaborators, v.writeLocked⟩) hr hasc hop hk
    have hr₁ : (w.visit v).2.store.bookings = some rows₁ := hvisit ▸ hr₁
    have hk₁ : k.Echoes (w.visit v).2.collaborators := by
      rw [hvisit]
      exact hk.trans ((v.meets w).perform_echoes op)
    obtain ⟨rows₂, hr₂, hsame₂⟩ := ih hr₁ hasc₁ hk₁ hvs
    exact ⟨rows₂, hr₂, fun b hb => (hsame₂ b hb).trans (hsame₁ b hb)⟩

/-- **Confidentiality.** Of two worlds with one set of collaborators, let the tables of bookings
differ in nothing but bookings that are hidden from a user, of which both have the same ids, each at
the same company. Whatever queries the user makes, at whatever times and locks, both worlds answer
the same to each of them, with the same calls to the collaborators. The hidden bookings of each
table are the same in the end. -/
theorem strangers_learn_nothing {rows rows' : List Booking} (hr : w.store.bookings = some rows)
    (hr' : w'.store.bookings = some rows') (hk : w.collaborators = w'.collaborators)
    (h : Indistinguishable w.collaborators user rows rows') (hvs : ∀ v ∈ vs, v.IsQueryBy user) :
    w.answers vs = w'.answers vs ∧
      (w.afterVisits vs).collaborators = (w'.afterVisits vs).collaborators ∧
      (∃ rows₁, (w.afterVisits vs).store.bookings = some rows₁ ∧
        ∀ b, ¬ b.VisibleTo w.collaborators user → (b ∈ rows₁ ↔ b ∈ rows)) ∧
      ∃ rows₁', (w'.afterVisits vs).store.bookings = some rows₁' ∧
        ∀ b, ¬ b.VisibleTo w.collaborators user → (b ∈ rows₁' ↔ b ∈ rows') := by
  obtain ⟨hanswers, hafter, -⟩ :=
    answers_twins ⟨rows, rows', hr, hr', h.twins⟩ ⟨hk, .refl w.collaborators⟩ hvs
  refine ⟨hanswers, hafter, afterVisits_hidden hr h.ascending (.refl _) hvs,
    afterVisits_hidden hr' h.ascending' ?_ hvs⟩
  rw [hk]
  exact .refl _

/-- User 7, a stranger, asks for the booking of user 9 and for all of the company, and tries to
cancel it, whether it is confirmed or a no-show of user 8. -/
theorem strangers_learn_nothing_sample :
    let w := Admission.sampleWorld "" false
    let other := { Admission.sampleBooking with user := 8, status := Status.noShow.text }
    let visits : List Visit := [.viewBooking 1 7, .companyBookings 7 { company := 1 },
      .cancelBooking 1 7 none].map fun op => ⟨.operation op, w.now, false⟩
    let w' := { w with store := { w.store with bookings := some [other] } }
    w.answers visits = w'.answers visits := by
  intro w other visits w'
  have hstranger : ¬ Manages w.collaborators 7 1 := by
    rw [Lifecycle.manages_iff]
    rintro ⟨c, hc, hm⟩
    have hcompany : (Directory.fetchCompany 1).value w.collaborators =
      .ok Admission.sampleCompany := rfl
    cases hcompany.symm.trans hc
    exact absurd hm List.not_mem_nil
  have hv : ¬ Admission.sampleBooking.VisibleTo w.collaborators 7 :=
    not_or.mpr ⟨by decide, hstranger⟩
  have hv' : ¬ other.VisibleTo w.collaborators 7 := not_or.mpr ⟨by decide, hstranger⟩
  have h : Indistinguishable w.collaborators 7 [Admission.sampleBooking] [other] := by
    refine ⟨List.pairwise_singleton _ _, List.pairwise_singleton _ _, fun b hb => ?_,
      fun id company => ?_⟩
    · constructor <;> intro h <;> rw [List.mem_singleton.mp h] at hb
      · exact absurd hb hv
      · exact absurd hb hv'
    · simp only [List.mem_singleton, exists_eq_left, hv, hv', not_false_eq_true, true_and]
      rfl
  have hrows : w.store.bookings = some [Admission.sampleBooking] := rfl
  have hrows' : w'.store.bookings = some [other] := rfl
  refine (strangers_learn_nothing hrows hrows' rfl h fun v hv => ?_).1
  obtain ⟨op, hop, rfl⟩ := List.mem_map.mp hv
  refine ⟨op, rfl, ?_⟩
  simp only [List.mem_cons, List.not_mem_nil, or_false] at hop
  rcases hop with rfl | rfl | rfl
  · exact .view 1
  · exact .ofCompany _
  · exact .cancel 1 none

end World

end SlotBooking
