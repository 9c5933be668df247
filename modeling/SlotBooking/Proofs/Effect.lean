import SlotBooking.Proofs.Store

/-!
# What operations do to the store

An operation that succeeds either only reads, or writes one row in a transaction. `Effect` lists the
ways, each with the checks that it passed; properties of runs are case analyses over it and do not
look at the operations again.

* `Admission.Request.order_eq_ok`, `Admission.Order.admit_eq_ok`: the two steps of an admission.
* `Lifecycle.Cancels`: by whom a booking is cancelled, and as what.
* `Operation.run_effect`: every successful operation has one of the effects.
-/

namespace SlotBooking

open Directory (Collaborators Lookup)
open Capacity (Draft Rule Scope Terms)

/-! ## Admission -/

namespace Admission

theorem requirePositive_eq_ok {field : String} {o : Option Int} {n : Int} :
    requirePositive field o = .ok n ↔ o = some n ∧ 0 < n := by
  cases o with
  | none => simp [requirePositive, refuse_ne_ok]
  | some m =>
    by_cases hm : 0 < m
    · simp only [requirePositive, hm, if_true, Except.ok.injEq, Option.some.injEq]
      exact ⟨fun h => ⟨h, h ▸ hm⟩, And.left⟩
    · simp only [requirePositive, hm, if_false, Option.some.injEq]
      exact iff_of_false refuse_ne_ok fun ⟨h, hn⟩ => hm (h ▸ hn)

/-- An order repeats its request, with all parts there, positive ids and a start that is read. -/
theorem Request.order_eq_ok {r : Request} {o : Order} :
    r.order = .ok o ↔
      (r.user = some o.user ∧ 0 < o.user) ∧ (r.company = some o.company ∧ 0 < o.company) ∧
        (r.address = some o.address ∧ 0 < o.address) ∧
        (r.service = some o.service ∧ 0 < o.service) ∧ r.date = some o.date ∧
        r.startTime = some o.startTime ∧ TimeOfDay.parse o.startTime = .ok o.start ∧
        r.notes = o.notes := by
  unfold Request.order
  simp only [bind_eq_ok, requirePositive_eq_ok]
  constructor
  · rintro ⟨u, hu, c, hc, a, ha, v, hv, h⟩
    split at h
    · exact absurd h refuse_ne_ok
    · exact absurd h refuse_ne_ok
    · rename_i d t hd ht
      split at h
      · exact absurd h refuse_ne_ok
      · split at h
        · rename_i m hm
          cases h
          exact ⟨hu, hc, ha, hv, hd, ht, hm, rfl⟩
        · exact absurd h refuse_ne_ok
  · rintro ⟨hu, hc, ha, hv, hd, ht, hm, hn⟩
    refine ⟨_, hu, _, hc, _, ha, _, hv, ?_⟩
    have hne : o.startTime ≠ "" := by
      intro h
      rw [h] at hm
      cases hm
    simp only [hd, ht, hm, hn, if_neg hne]
    rfl

theorem Order.admit_eq_ok {o : Order} {s s' : Store} {now : Instant} {c : Directory.Company}
    {v : Directory.Service} {w : Directory.Vehicle} {b : Booking} :
    o.admit s now c v w = .ok (b, s') ↔
      s.writeLocked = false ∧ ∃ g, s.governing o.scope = .ok g ∧
        requireDate o.date now.date g.terms = .ok () ∧ (c.scheduleOn o.date).IsWorkingDay ∧
        requireNotice o.date o.start now g.terms = .ok () ∧
        ∃ bs, s.list (.day o.company o.address o.date) = .ok bs ∧
        ∃ taken, countTaken ⟨o.start, g.terms.slotMinutes⟩ bs = .ok taken ∧
          (taken : Int) < g.terms.maxConcurrent ∧
          s.addBooking (o.booking g.terms v w) = .ok (b, s') := by
  unfold Order.admit
  simp only [bind_eq_ok, Store.begin_eq_ok]
  constructor
  · rintro ⟨_, hl, g, hg, _, hd, h⟩
    split at h
    · obtain ⟨_, h, _⟩ := bind_eq_ok.mp h
      exact absurd h refuse_ne_ok
    · rename_i hw
      simp only [bind_eq_ok, ite_refuse_eq_ok] at h
      obtain ⟨_, hn, bs, hbs, taken, ht, hp, h⟩ := h
      exact ⟨hl, g, hg, hd, Decidable.not_not.mp hw, hn, bs, hbs, taken, ht, Int.not_le.mp hp, h⟩
  · rintro ⟨hl, g, hg, hd, hw, hn, bs, hbs, taken, ht, hp, h⟩
    refine ⟨(), hl, g, hg, (), hd, ?_⟩
    rw [if_neg (Decidable.not_not.mpr hw)]
    simp only [bind_eq_ok, ite_refuse_eq_ok]
    exact ⟨(), hn, bs, hbs, taken, ht, Int.not_le.mpr hp, h⟩

/-- An admission adds one row, for its user and company. -/
theorem Order.admit_adds {o : Order} {s s' : Store} {now : Instant} {c : Directory.Company}
    {v : Directory.Service} {w : Directory.Vehicle} {b : Booking}
    (h : o.admit s now c v w = .ok (b, s')) : ∃ rows, s.bookings = some rows ∧ b.user = o.user ∧
      b.company = o.company ∧ s' = { s with bookings := some (rows ++ [b]) } := by
  obtain ⟨-, _, -, -, -, -, _, -, _, -, -, hadd⟩ := Order.admit_eq_ok.mp h
  obtain ⟨rows, hr, -, rfl, hs⟩ := Store.addBooking_eq_ok.mp hadd
  exact ⟨rows, hr, rfl, rfl, hs⟩

end Admission

/-! ## Bookings after their admission -/

namespace Lifecycle

/-- The collaborators name the user among the managers of a company. -/
def Manages (k : Collaborators) (user company : Int) : Prop :=
  ∃ c, (Directory.fetchManaged company user).value k = .ok c

/-- An operation cancels a booking: the owner as the user, a manager as the company, or a manager
through a status of a cancelled booking. -/
inductive Cancels (k : Collaborators) (b : Booking) (id : Int) :
    Operation → Status → Option String → Prop
  | owner {reason : Option String} (hr : ¬ ReasonTooLong reason) :
    Cancels k b id (.cancelBooking id b.user reason) .cancelledByUser reason
  | manager {user : Int} {reason : Option String} (hr : ¬ ReasonTooLong reason)
    (hu : b.user ≠ user) (hm : Manages k user b.company) :
    Cancels k b id (.cancelBooking id user reason) .cancelledByCompany reason
  | status {user : Int} {t : Text} {status : Status} (hm : Manages k user b.company)
    (ht : readStatus t = .ok status) (hc : status.IsCancelled) :
    Cancels k b id (.changeStatus id user t) status none

variable {s s' : Store} {now : Instant} {k : Collaborators} {id user : Int} {b' : Booking}

theorem Cancels.isCancelled {b : Booking} {op : Operation} {status : Status}
    {reason : Option String} (h : Cancels k b id op status reason) : status.IsCancelled := by
  cases h with
  | owner | manager => exact trivial
  | status _ _ hc => exact hc

theorem Cancels.not_reasonTooLong {b : Booking} {op : Operation} {status : Status}
    {reason : Option String} (h : Cancels k b id op status reason) : ¬ ReasonTooLong reason := by
  cases h with
  | owner hr | manager hr => exact hr
  | status => exact fun ⟨_, h, _⟩ => by cases h

theorem cancelNow_eq_ok {status : Status} {reason : Option String} :
    cancelNow s now id status reason = .ok (b', s') ↔ s.writeLocked = false ∧
      ∃ b, s.booking id = .ok b ∧ Status.CancellableText b.status ∧
        b' = b.cancelled status reason now ∧ s' = s.putBooking b' := by
  unfold cancelNow
  simp only [bind_eq_ok, Store.begin_eq_ok]
  constructor
  · rintro ⟨_, hl, b, hb, h⟩
    split at h
    · rename_i hc
      obtain ⟨b₁, hb₁, he, hs⟩ := Store.setCancelled_eq_ok.mp h
      rw [hb] at hb₁
      cases hb₁
      exact ⟨hl, b, hb, hc, he, hs⟩
    · exact absurd h refuse_ne_ok
  · rintro ⟨hl, b, hb, hc, he, hs⟩
    exact ⟨(), hl, b, hb, by rw [if_pos hc]; exact Store.setCancelled_eq_ok.mpr ⟨b, hb, he, hs⟩⟩

theorem setStatusNow_eq_ok {status : Status} :
    setStatusNow s id status = .ok (b', s') ↔ s.writeLocked = false ∧
      ∃ b, s.booking id = .ok b ∧ (status.IsActive → b.IsActive) ∧
        b' = b.withStatus status ∧ s' = s.putBooking b' := by
  unfold setStatusNow
  simp only [bind_eq_ok, Store.begin_eq_ok, ite_refuse_eq_ok]
  constructor
  · rintro ⟨_, hl, b, hb, hr, h⟩
    obtain ⟨b₁, hb₁, he, hs⟩ := Store.setStatus_eq_ok.mp h
    rw [hb] at hb₁
    cases hb₁
    exact ⟨hl, b, hb, fun hst => Decidable.byContradiction fun ha => hr ⟨ha, hst⟩, he, hs⟩
  · rintro ⟨hl, b, hb, hr, he, hs⟩
    exact ⟨(), hl, b, hb, fun ⟨ha, hst⟩ => ha (hr hst), Store.setStatus_eq_ok.mpr ⟨b, hb, he, hs⟩⟩

theorem cancel_ok {reason : Option String}
    (h : (cancel s now id user reason).value k = .ok (b', s')) : s.writeLocked = false ∧
      ∃ b status, s.booking id = .ok b ∧ Status.CancellableText b.status ∧
        Cancels k b id (.cancelBooking id user reason) status reason ∧
        b' = b.cancelled status reason now ∧ s' = s.putBooking b' := by
  unfold cancel at h
  dsimp only at h
  split at h
  · cases h
  rename_i hr
  simp only [Lookup.value_bind, Lookup.value_lift, Lookup.after_lift, bind_eq_ok,
    Lookup.value_ite] at h
  obtain ⟨b, hb, h⟩ := h
  split at h
  · rename_i hu
    obtain ⟨hl, b₁, hb₁, hc, he, hs⟩ := cancelNow_eq_ok.mp h
    rw [hb] at hb₁
    cases hb₁
    exact ⟨hl, b, _, hb, hc, hu ▸ .owner hr, he, hs⟩
  · rename_i hu
    obtain ⟨c, hm, h⟩ := bind_eq_ok.mp h
    obtain ⟨hl, b₁, hb₁, hc, he, hs⟩ := cancelNow_eq_ok.mp h
    rw [hb] at hb₁
    cases hb₁
    exact ⟨hl, b, _, hb, hc, .manager hr hu ⟨c, hm⟩, he, hs⟩

theorem changeStatus_ok {t : Text}
    (h : (changeStatus s now id user t).value k = .ok (b', s')) :
    s.writeLocked = false ∧ ∃ b status, s.booking id = .ok b ∧ Manages k user b.company ∧
      readStatus t = .ok status ∧ s' = s.putBooking b' ∧
      (status.IsCancelled ∧ Status.CancellableText b.status ∧ b' = b.cancelled status none now ∨
        ¬ status.IsCancelled ∧ (status.IsActive → b.IsActive) ∧ b' = b.withStatus status) := by
  unfold changeStatus at h
  simp only [Lookup.value_bind, Lookup.value_lift, Lookup.after_lift, bind_eq_ok,
    Lookup.value_ite] at h
  obtain ⟨b, hb, c, hm, status, ht, h⟩ := h
  split at h
  · rename_i hst
    obtain ⟨hl, b₁, hb₁, hc, he, hs⟩ := cancelNow_eq_ok.mp h
    rw [hb] at hb₁
    cases hb₁
    exact ⟨hl, b, status, hb, ⟨c, hm⟩, ht, hs, .inl ⟨hst, hc, he⟩⟩
  · rename_i hst
    obtain ⟨hl, b₁, hb₁, hr, he, hs⟩ := setStatusNow_eq_ok.mp h
    rw [hb] at hb₁
    cases hb₁
    exact ⟨hl, b, status, hb, ⟨c, hm⟩, ht, hs, .inr ⟨hst, hr, he⟩⟩

end Lifecycle

/-! ## Capacity rules -/

namespace Capacity.Management

open Lifecycle (Manages)

variable {s s' : Store} {k : Collaborators} {id user : Int} {r : Rule}

theorem requireTerm_eq_ok {f : Field} {o : Option Int} {n : Int} :
    requireTerm f o = .ok n ↔ o = some n ∧ f.Permits n := by
  cases o with
  | none => simp [requireTerm, refuse_ne_ok]
  | some m =>
    by_cases hm : f.Permits m
    · simp only [requireTerm, hm, if_true, Except.ok.injEq, Option.some.injEq]
      exact ⟨fun h => ⟨h, h ▸ hm⟩, And.left⟩
    · simp only [requireTerm, hm, if_false, Option.some.injEq]
      exact iff_of_false refuse_ne_ok fun ⟨h, hn⟩ => hm (h ▸ hn)

theorem requireTerms_eq_ok {d : Draft} {t : Terms} :
    requireTerms d = .ok t ↔ d = .ofTerms t ∧ t.Permitted := by
  unfold requireTerms
  simp only [bind_eq_ok, requireTerm_eq_ok]
  constructor
  · rintro ⟨a, ⟨ha, pa⟩, b, ⟨hb, pb⟩, c, ⟨hc, pc⟩, e, ⟨he, pe⟩, h⟩
    cases h
    refine ⟨?_, fun f => by cases f <;> assumption⟩
    cases d
    simp_all [Draft.ofTerms]
  · rintro ⟨rfl, hp⟩
    exact ⟨_, ⟨rfl, hp .slotMinutes⟩, _, ⟨rfl, hp .maxConcurrent⟩, _, ⟨rfl, hp .advanceDays⟩, _,
      ⟨rfl, hp .noticeMinutes⟩, rfl⟩

theorem checkCreate_ok {scope : Scope} {d : Draft} {t : Terms}
    (h : (checkCreate user scope d).value k = .ok t) :
    Manages k user scope.company ∧ d = .ofTerms t ∧ t.Permitted := by
  unfold checkCreate at h
  simp only [Lookup.value_bind, Lookup.value_lift, bind_eq_ok] at h
  obtain ⟨c, hm, t', ht, h⟩ := h
  -- Whichever ids the scope gives, what follows is checks and then the same terms.
  have : t = t' := by
    cases ha : scope.address <;> cases hv : scope.service <;> rw [ha, hv] at h
    · cases h
      rfl
    · obtain ⟨_, _, h⟩ := bind_eq_ok.mp ((Lookup.value_bind ..).symm.trans h)
      cases h
      rfl
    · obtain ⟨_, _, h⟩ := bind_eq_ok.mp ((Lookup.value_bind ..).symm.trans h)
      cases h
      rfl
    · simp only [Lookup.value_bind, Lookup.value_ite, bind_eq_ok] at h
      obtain ⟨_, _, _, _, h⟩ := h
      split at h
      · cases h
        rfl
      · cases h
  exact ⟨⟨c, hm⟩, requireTerms_eq_ok.mp (this ▸ ht)⟩

theorem commitCreate_ok {scope : Scope} {t : Terms}
    (h : commitCreate s scope t = .ok (r, s')) : s.writeLocked = false ∧
      ∃ rules, s.rules = some rules ∧ ruleFor? rules scope = none ∧
        (∀ f : Field, Store.Storable (t.get f)) ∧
        r = ⟨Store.nextId (rules.map (·.id)), scope, t⟩ ∧
        s' = { s with rules := some (rules ++ [r]) } := by
  unfold commitCreate at h
  simp only [bind_eq_ok, Store.begin_eq_ok, Store.ruleFor?_eq_ok] at h
  obtain ⟨_, hl, o, ⟨rules, hr, -, ho⟩, h⟩ := h
  split at h
  · exact absurd h refuse_ne_ok
  · obtain ⟨rules', hr', hs, he, hs'⟩ := Store.addRule_ofTerms_eq_ok h
    rw [hr] at hr'
    cases hr'
    exact ⟨hl, rules, hr, ho.symm, hs, he, hs'⟩

theorem commitUpdate_ok {changes : Changes}
    (h : commitUpdate s id changes = .ok (r, s')) : s.writeLocked = false ∧
      ∃ r₀ t, s.rule id = .ok r₀ ∧ applyChanges (.ofTerms r₀.terms) changes = .ofTerms t ∧
        t.Permitted ∧ r = { r₀ with terms := t } ∧ s' = s.putRule r := by
  unfold commitUpdate at h
  simp only [bind_eq_ok, Store.begin_eq_ok, requireTerms_eq_ok] at h
  obtain ⟨_, hl, r₀, hr, t, ⟨ht, hp⟩, h⟩ := h
  cases h
  exact ⟨hl, r₀, t, hr, ht, hp, rfl, rfl⟩

theorem commitDelete_ok (h : commitDelete s id = .ok s') :
    s.writeLocked = false ∧ ∃ r, s.rule id = .ok r ∧ s' = s.eraseRule r.id := by
  unfold commitDelete at h
  simp only [bind_eq_ok, Store.begin_eq_ok] at h
  obtain ⟨_, hl, r, hr, h⟩ := h
  cases h
  exact ⟨hl, r, hr, rfl⟩

theorem commitDeleteFor_ok {scope : Scope} (h : commitDeleteFor s scope = .ok s') :
    s.writeLocked = false ∧ ∃ rules r, s.rules = some rules ∧ ruleFor? rules scope = some r ∧
      s' = s.eraseRule r.id := by
  unfold commitDeleteFor at h
  simp only [bind_eq_ok, Store.begin_eq_ok, Store.ruleFor?_eq_ok] at h
  obtain ⟨_, hl, o, ⟨rules, hr, -, ho⟩, h⟩ := h
  split at h
  · rename_i r
    cases h
    exact ⟨hl, rules, r, hr, ho.symm, rfl⟩
  · exact absurd h refuse_ne_ok

/-- A rule is changed for a user who manages the company of the rule. -/
theorem checkUpdate_ok {changes : Changes} {u : Unit}
    (h : (checkUpdate s id user changes).value k = .ok u) :
    ∃ r, s.rule id = .ok r ∧ Manages k user r.scope.company := by
  unfold checkUpdate at h
  simp only [Lookup.value_bind, Lookup.value_lift, Lookup.after_lift, bind_eq_ok] at h
  obtain ⟨r, hr, c, hm, -⟩ := h
  exact ⟨r, hr, c, hm⟩

/-- A rule is deleted for a user who manages the company of the rule. -/
theorem checkDelete_ok {u : Unit} (h : (checkDelete s id user).value k = .ok u) :
    ∃ r, s.rule id = .ok r ∧ Manages k user r.scope.company := by
  unfold checkDelete at h
  simp only [Lookup.value_bind, Lookup.value_lift, Lookup.after_lift, bind_eq_ok] at h
  obtain ⟨r, hr, c, hm, -⟩ := h
  exact ⟨r, hr, c, hm⟩

end Capacity.Management

/-! ## All operations -/

/-- The operation only reads. -/
def Operation.IsRead : Operation → Prop
  | availability .. | viewBooking .. | userBookings .. | companyBookings .. | viewRule ..
  | effectiveRule .. | companyRules .. => True
  | _ => False

open Capacity.Management (Changes applyChanges) in
open Lifecycle (Cancels Manages readStatus) in
/-- What a successful operation does to a store, with the checks that it passed. -/
inductive Effect (s : Store) (now : Instant) (k : Collaborators) :
    Operation → Outcome → Store → Prop
  | read {op : Operation} {out : Outcome} (h : op.IsRead) : Effect s now k op out s
  | admitted {r : Admission.Request} {o : Admission.Order} {c : Directory.Company}
    {v : Directory.Service} {w : Directory.Vehicle} {b : Booking} {s' : Store}
    (ho : r.order = .ok o) (hf : o.lookUp.value k = .ok (c, v, w))
    (ha : o.admit s now c v w = .ok (b, s')) : Effect s now k (.allocate r) (.booking b) s'
  | cancelled {op : Operation} {id : Int} {b : Booking} {status : Status} {reason : Option String}
    (hl : s.writeLocked = false) (hb : s.booking id = .ok b)
    (hc : Status.CancellableText b.status) (hop : Cancels k b id op status reason) :
    Effect s now k op (.booking (b.cancelled status reason now))
      (s.putBooking (b.cancelled status reason now))
  | statusSet {id user : Int} {t : Text} {b : Booking} {status : Status}
    (hl : s.writeLocked = false) (hb : s.booking id = .ok b) (hm : Manages k user b.company)
    (ht : readStatus t = .ok status) (hc : ¬ status.IsCancelled)
    (ha : status.IsActive → b.IsActive) :
    Effect s now k (.changeStatus id user t) (.booking (b.withStatus status))
      (s.putBooking (b.withStatus status))
  | ruleAdded {user : Int} {scope : Scope} {d : Draft} {t : Terms} {rules : List Rule}
    (hl : s.writeLocked = false) (hm : Manages k user scope.company) (hd : d = .ofTerms t)
    (hp : t.Permitted) (hr : s.rules = some rules) (hn : Capacity.ruleFor? rules scope = none) :
    Effect s now k (.createRule user scope d)
      (.rule ⟨Store.nextId (rules.map (·.id)), scope, t⟩)
      { s with rules := some (rules ++ [⟨Store.nextId (rules.map (·.id)), scope, t⟩]) }
  | ruleChanged {id user : Int} {changes : Changes} {r : Rule} {t : Terms}
    (hl : s.writeLocked = false) (hr : s.rule id = .ok r) (hm : Manages k user r.scope.company)
    (ht : applyChanges (.ofTerms r.terms) changes = .ofTerms t) (hp : t.Permitted) :
    Effect s now k (.updateRule id user changes) (.rule { r with terms := t })
      (s.putRule { r with terms := t })
  | ruleErased {id user : Int} {r : Rule} (hl : s.writeLocked = false) (hr : s.rule id = .ok r)
    (hm : Manages k user r.scope.company) :
    Effect s now k (.deleteRule id user) .nothing (s.eraseRule r.id)
  | ruleErasedFor {user : Int} {scope : Scope} {r : Rule} {rules : List Rule}
    (hl : s.writeLocked = false) (hm : Manages k user scope.company) (hr : s.rules = some rules)
    (hf : Capacity.ruleFor? rules scope = some r) :
    Effect s now k (.deleteRuleFor scope user) .nothing (s.eraseRule r.id)

open Capacity.Management in
theorem Operation.run_effect {s s' : Store} {now : Instant} {k : Collaborators} {op : Operation}
    {out : Outcome} (h : (op.run s now).value k = .ok (out, s')) : Effect s now k op out s' := by
  cases op with
  | allocate r =>
    simp only [Operation.run, Admission.allocate, Lookup.value_bind, Lookup.value_lift,
      Lookup.after_lift, Lookup.value_pure, bind_eq_ok] at h
    obtain ⟨⟨b, s₁⟩, ⟨o, ho, ⟨c, v, w⟩, hf, ha⟩, h⟩ := h
    cases h
    exact .admitted ho hf ha
  | cancelBooking id user reason =>
    simp only [Operation.run, Lookup.value_bind, Lookup.value_pure, bind_eq_ok] at h
    obtain ⟨⟨b', s₁⟩, hc, h⟩ := h
    cases h
    obtain ⟨hl, b, status, hb, hst, hop, rfl, rfl⟩ := Lifecycle.cancel_ok hc
    exact .cancelled hl hb hst hop
  | changeStatus id user t =>
    simp only [Operation.run, Lookup.value_bind, Lookup.value_pure, bind_eq_ok] at h
    obtain ⟨⟨b', s₁⟩, hc, h⟩ := h
    cases h
    obtain ⟨hl, b, status, hb, hm, ht, rfl, ⟨hcs, hst, rfl⟩ | ⟨hcs, ha, rfl⟩⟩ :=
      Lifecycle.changeStatus_ok hc
    · exact .cancelled hl hb hst (.status hm ht hcs)
    · exact .statusSet hl hb hm ht hcs ha
  | createRule user scope d =>
    simp only [Operation.run, create, Lookup.value_bind, Lookup.value_lift, Lookup.value_pure,
      bind_eq_ok] at h
    obtain ⟨⟨r, s₁⟩, ⟨t, ht, hc⟩, h⟩ := h
    cases h
    obtain ⟨hm, hd, hp⟩ := checkCreate_ok ht
    obtain ⟨hl, rules, hr, hn, -, rfl, rfl⟩ := commitCreate_ok hc
    exact .ruleAdded hl hm hd hp hr hn
  | updateRule id user changes =>
    simp only [Operation.run, update, Lookup.value_bind, Lookup.value_lift, Lookup.value_pure,
      bind_eq_ok] at h
    obtain ⟨⟨r, s₁⟩, ⟨u, hu, hc⟩, h⟩ := h
    cases h
    obtain ⟨r₁, hr₁, hm⟩ := checkUpdate_ok hu
    obtain ⟨hl, r₀, t, hr, ht, hp, rfl, rfl⟩ := commitUpdate_ok hc
    rw [hr] at hr₁
    cases hr₁
    exact .ruleChanged hl hr hm ht hp
  | deleteRule id user =>
    simp only [Operation.run, delete, Lookup.value_bind, Lookup.value_lift, Lookup.value_pure,
      bind_eq_ok] at h
    obtain ⟨s₁, ⟨u, hu, hc⟩, h⟩ := h
    cases h
    obtain ⟨r₁, hr₁, hm⟩ := checkDelete_ok hu
    obtain ⟨hl, r, hr, rfl⟩ := commitDelete_ok hc
    rw [hr] at hr₁
    cases hr₁
    exact .ruleErased hl hr hm
  | deleteRuleFor scope user =>
    simp only [Operation.run, deleteFor, Lookup.value_bind, Lookup.value_lift, Lookup.value_pure,
      bind_eq_ok] at h
    obtain ⟨s₁, ⟨c, hm, hc⟩, h⟩ := h
    cases h
    obtain ⟨hl, rules, r, hr, hf, rfl⟩ := commitDeleteFor_ok hc
    exact .ruleErasedFor hl ⟨c, hm⟩ hr hf
  | availability | viewBooking | userBookings | companyBookings | viewRule | effectiveRule
  | companyRules =>
    simp only [Operation.run, Lookup.value_bind, Lookup.value_pure, bind_eq_ok] at h
    obtain ⟨a, -, h⟩ := h
    cases h
    exact .read trivial

/-- What a world performs either fails, and then leaves the store, or has an effect. -/
theorem World.perform_cases (w : World) (op : Operation) :
    (∃ f, (w.perform op).1 = .error f ∧ (w.perform op).2.store = w.store) ∨
      ∃ out, (w.perform op).1 = .ok out ∧
        Effect w.store w.now w.collaborators op out (w.perform op).2.store := by
  rw [World.perform_fst, World.perform_store]
  cases h : (op.run w.store w.now).value w.collaborators with
  | error f => exact .inl ⟨f, rfl, rfl⟩
  | ok r => exact .inr ⟨r.1, rfl, Operation.run_effect h⟩

theorem World.effect_of_ok {w : World} {op : Operation} {out : Outcome}
    (h : (w.perform op).1 = .ok out) :
    Effect w.store w.now w.collaborators op out (w.perform op).2.store := by
  obtain ⟨f, hf, -⟩ | ⟨out', hout, heffect⟩ := w.perform_cases op
  · rw [hf] at h
    cases h
  · cases hout.symm.trans h
    exact heffect

end SlotBooking
