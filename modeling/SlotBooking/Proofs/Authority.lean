import SlotBooking.Proofs.History
import SlotBooking.Proofs.RuleWrites

/-!
# Who changes what

A booking is changed by its owner or by a manager of its company, a rule by a manager of its
company, and a booking is made by the user for whom it is. Every row that differs after an event is
traced back to the user who acts and to what the collaborators say of the company in that event.

* `Operation.user?`, `Event.ByManagerOf`: who acts, and whether for a company.
* `Event.Makes`: what an event makes of a booking, with the checks behind it.
* `Event.next_rows`, `Effect.hasRule_iff`: what one event does to each table.
* `Store.run_authorized`: the main statement.
-/

namespace SlotBooking

open Directory (Collaborators)
open Capacity (Rule)
open Lifecycle (Cancels Manages)

/-! ## Who acts -/

/-- The user who acts; some operations are open to everyone. -/
def Operation.user? : Operation → Option Int
  | allocate r => r.user
  | viewBooking _ user | userBookings user _ | companyBookings user _ | cancelBooking _ user _
  | changeStatus _ user _ | createRule user .. | companyRules _ user | updateRule _ user _
  | deleteRule _ user | deleteRuleFor _ user => some user
  | availability .. | viewRule _ | effectiveRule _ => none

/-- The user who acts is among the managers that the directory, or its cache, names for the company
in this event. -/
def Event.ByManagerOf (e : Event) (company : Int) : Prop :=
  ∃ user ∈ e.operation.user?, ∃ c,
    (Directory.fetchCompany company).value e.collaborators = .ok c ∧ user ∈ c.managers

/-- The owner of a booking cancels it, and the other booking is what becomes of it. -/
def Event.ByOwner (e : Event) (b a : Booking) : Prop :=
  ∃ reason, e.operation = .cancelBooking b.id b.user reason ∧
    a.status = Status.cancelledByUser.text

theorem Lifecycle.manages_iff {k : Collaborators} {user company : Int} : Manages k user company ↔
    ∃ c, (Directory.fetchCompany company).value k = .ok c ∧ user ∈ c.managers := by
  unfold Manages Directory.fetchManaged
  simp only [Directory.Lookup.value_bind, Directory.Lookup.value_ite, bind_eq_ok]
  constructor
  · rintro ⟨c, c', hc, h⟩
    split at h
    · rename_i hm
      exact ⟨c', hc, hm⟩
    · cases h
  · rintro ⟨c, hc, hm⟩
    exact ⟨c, c, hc, if_pos hm⟩

theorem Event.byManagerOf {e : Event} {user company : Int} (hu : e.operation.user? = some user)
    (hm : Manages e.collaborators user company) : e.ByManagerOf company :=
  ⟨user, hu, Lifecycle.manages_iff.mp hm⟩

/-! ## Rows -/

namespace Store

/-- The booking is a row of the store. -/
def HasBooking (s : Store) (b : Booking) : Prop := ∃ rows ∈ s.bookings, b ∈ rows

/-- The rule is a row of the store. -/
def HasRule (s : Store) (r : Rule) : Prop := ∃ rules ∈ s.rules, r ∈ rules

/-- No two rows of a table have one id. -/
structure Keyed (s : Store) : Prop where
  bookings : ∀ rows ∈ s.bookings, (rows.map (·.id)).Nodup
  rules : ∀ rules ∈ s.rules, (rules.map (·.id)).Nodup

theorem empty_keyed : empty.Keyed where
  bookings := by
    rintro _ ⟨⟩
    exact .nil
  rules := by
    rintro _ ⟨⟩
    exact .nil

variable {s : Store} {rows : List Booking} {rules : List Rule}

theorem hasBooking_iff (h : s.bookings = some rows) {b : Booking} : s.HasBooking b ↔ b ∈ rows := by
  simp [HasBooking, h]

theorem hasRule_iff (h : s.rules = some rules) {r : Rule} : s.HasRule r ↔ r ∈ rules := by
  simp [HasRule, h]

theorem Keyed.eq_of_id_eq (hs : s.Keyed) {a b : Booking} (ha : s.HasBooking a)
    (hb : s.HasBooking b) (hid : a.id = b.id) : a = b := by
  obtain ⟨rows, hr, ha⟩ := ha
  rw [hasBooking_iff hr] at hb
  exact List.inj_on_of_nodup_map (hs.bookings rows hr) ha hb hid

/-- The next id is new. -/
theorem nodup_concat_nextId {ids : List Int} (h : ids.Nodup) : (ids ++ [nextId ids]).Nodup := by
  rw [List.nodup_append]
  refine ⟨h, List.nodup_singleton _, fun i hi j hj hij => ?_⟩
  rw [List.mem_singleton.mp hj] at hij
  exact absurd hij (Int.ne_of_lt (lt_nextId hi))

/-- The booking that a store gives for an id is a row of that id. -/
theorem booking_mem {id : Int} {b : Booking} (hb : s.booking id = .ok b) :
    s.HasBooking b ∧ b.id = id := by
  obtain ⟨rows, hr, -, hfind⟩ := booking_eq_ok.mp hb
  exact ⟨⟨rows, hr, List.mem_of_find?_eq_some hfind⟩, by simpa using List.find?_some hfind⟩

/-- The rule that a store gives for an id is a row of that id. -/
theorem rule_mem {id : Int} {r : Rule} (hr : s.rule id = .ok r) :
    ∃ rules, s.rules = some rules ∧ r ∈ rules ∧ r.id = id := by
  obtain ⟨rules, hrules, -, hfind⟩ := rule_eq_ok.mp hr
  exact ⟨rules, hrules, List.mem_of_find?_eq_some hfind, by simpa using List.find?_some hfind⟩

end Store

/-! ## Bookings in one event -/

/-- What an event makes of a booking, with the checks behind it. -/
inductive Event.Makes (e : Event) (s : Store) (b : Booking) : Booking → Prop
  | kept : Makes e s b b
  | cancelled {status : Status} {reason : Option String}
    (hc : Status.CancellableText b.status)
    (hop : Cancels e.collaborators b b.id e.operation status reason) :
    Makes e s b (b.cancelled status reason e.now)
  | statusSet {user : Int} {t : Text} {status : Status}
    (hop : e.operation = .changeStatus b.id user t)
    (hdone : e.outcome s = .ok (.booking (b.withStatus status)))
    (hm : Manages e.collaborators user b.company) (ht : Lifecycle.readStatus t = .ok status)
    (hc : ¬ status.IsCancelled) (ha : status.IsActive → b.IsActive) :
    Makes e s b (b.withStatus status)

section Bookings

variable {e : Event} {s : Store} {rows : List Booking} {b a : Booking}

theorem Event.Makes.id_eq (h : e.Makes s b a) : a.id = b.id := by
  cases h <;> rfl

/-- A booking that changes is changed by its owner or by a manager of its company. -/
theorem Event.Makes.authorized (h : e.Makes s b a) :
    a = b ∨ e.ByOwner b a ∨ e.ByManagerOf b.company := by
  cases h with
  | kept => exact .inl rfl
  | cancelled _ hop =>
    generalize hop' : e.operation = op at hop
    cases hop with
    | owner => exact .inr (.inl ⟨_, hop', rfl⟩)
    | manager _ _ hm | status hm => exact .inr (.inr (Event.byManagerOf (by rw [hop']; rfl) hm))
  | statusSet hop _ hm => exact .inr (.inr (Event.byManagerOf (by rw [hop]; rfl) hm))

/-- Where ids are unique, replacing the row of an id leaves the other rows. -/
theorem Store.putBooking_rows (hr : s.bookings = some rows) (hids : (rows.map (·.id)).Nodup)
    (hb : s.HasBooking b) (hid : a.id = b.id) :
    (s.putBooking a).bookings = some (rows.map fun x => if x = b then a else x) := by
  rw [putBooking_eq hr]
  refine congrArg some (List.map_congr_left fun x hx => ?_)
  have hb := (hasBooking_iff hr).mp hb
  by_cases h : x = b
  · rw [if_pos h, if_pos (by rw [h, hid])]
  · rw [if_neg h, if_neg fun hx' => h (List.inj_on_of_nodup_map hids hx hb (hx'.trans hid))]

/-- An event makes something of every booking, or admits one more. -/
theorem Event.next_rows (e : Event) (hr : s.bookings = some rows)
    (hids : (rows.map (·.id)).Nodup) :
    (∃ f : Booking → Booking, (e.next s).bookings = some (rows.map f) ∧
        ∀ b ∈ rows, e.Makes s b (f b)) ∨
      ∃ b, e.Admits s b ∧ (e.next s).bookings = some (rows ++ [b]) := by
  have hkept {s' : Store} (h : s'.bookings = s.bookings) : ∃ f : Booking → Booking,
      s'.bookings = some (rows.map f) ∧ ∀ b ∈ rows, e.Makes s b (f b) :=
    ⟨id, by rw [h, hr, List.map_id], fun b _ => .kept⟩
  have hput {b a : Booking} (hb : (e.world s).store.HasBooking b) (ha : e.Makes s b a) :
      ∃ f : Booking → Booking, ((e.world s).store.putBooking a).bookings = some (rows.map f) ∧
        ∀ b ∈ rows, e.Makes s b (f b) := by
    refine ⟨_, Store.putBooking_rows (s := (e.world s).store) hr hids hb ha.id_eq, fun x _ => ?_⟩
    split
    · rename_i h
      rw [h]
      exact ha
    · exact .kept
  obtain ⟨f, -, hs⟩ | ⟨out, hout, heff⟩ := e.next_cases s
  · exact .inl (hkept (by rw [hs]; rfl))
  generalize hop : e.operation = op at heff
  generalize hnext : e.next s = s' at heff
  cases heff with
  | read | ruleAdded | ruleChanged | ruleErased | ruleErasedFor => exact .inl (hkept rfl)
  | admitted =>
    have hadm : e.Admits s _ := ⟨⟨_, hop⟩, hout⟩
    obtain ⟨-, -, -, -, -, -, -, -, -, -, hrows⟩ := hadm.row hr
    exact .inr ⟨_, hadm, hnext ▸ hrows⟩
  | cancelled _ hb hc hcancels =>
    obtain ⟨hmem, rfl⟩ := Store.booking_mem hb
    exact .inl (hput hmem (.cancelled hc (by rw [hop]; exact hcancels)))
  | statusSet _ hb hm ht hc ha =>
    obtain ⟨hmem, rfl⟩ := Store.booking_mem hb
    exact .inl (hput hmem (.statusSet hop hout hm ht hc ha))

/-- A dropped table of bookings stays dropped. -/
theorem Event.next_bookings_none (e : Event) (h : s.bookings = none) :
    (e.next s).bookings = none := by
  have hw : (e.world s).store.bookings = none := h
  obtain ⟨f, -, hs⟩ | ⟨out, -, heff⟩ := e.next_cases s
  · rw [hs]
    exact hw
  generalize e.operation = op at heff
  generalize e.next s = s' at heff
  cases heff with
  | read | ruleAdded | ruleChanged | ruleErased | ruleErasedFor => exact hw
  | admitted _ _ ha =>
    obtain ⟨rows, hr, -⟩ := Admission.Order.admit_adds ha
    cases hw.symm.trans hr
  | cancelled _ hb | statusSet _ hb =>
    obtain ⟨⟨rows, hr, -⟩, -⟩ := Store.booking_mem hb
    cases hw.symm.trans hr

/-- A booking is made for the user who acts. -/
theorem Event.Admits.user_eq (h : e.Admits s b) : e.operation.user? = some b.user := by
  obtain ⟨r, o, c, v, w, hop, ho, -, ha⟩ := h.admitted
  obtain ⟨-, -, huser, -⟩ := Admission.Order.admit_adds ha
  rw [hop, huser]
  exact (Admission.Request.order_eq_ok.mp ho).1.1

/-- It gets an id beyond those of all rows. -/
theorem Event.Admits.id_lt (h : e.Admits s b) (hr : s.bookings = some rows) :
    ∀ x ∈ rows, x.id < b.id := by
  obtain ⟨o, g, v, w, taken, -, -, -, -, rfl, -⟩ := h.row hr
  exact fun x hx => Store.lt_nextId (List.mem_map_of_mem hx)

end Bookings

/-! ## Rules in one event -/

namespace Effect

variable {s s' : Store} {now : Instant} {k : Collaborators} {op : Operation} {out : Outcome}

/-- Changing the terms of a rule leaves the other rows. -/
theorem putRule_rows {rules : List Rule} (hr : s.rules = some rules) (hs : s.Keyed) {r : Rule}
    (hmem : r ∈ rules) (t : Capacity.Terms) : (s.putRule { r with terms := t }).rules =
      some (rules.map fun a => if a = r then { r with terms := t } else a) := by
  rw [← Capacity.map_replace (hs.rules rules hr) hmem]
  simp [Store.putRule, hr]

/-- A rule comes, goes or changes only for a user who manages its company. -/
theorem hasRule_iff (h : Effect s now k op out s') (hs : s.Keyed) (a : Rule) :
    (s.HasRule a ↔ s'.HasRule a) ∨
      ∃ user, op.user? = some user ∧ Manages k user a.scope.company := by
  have herase {rules : List Rule} {r : Rule} (hr : s.rules = some rules) (hmem : r ∈ rules) :
      (s.HasRule a ↔ (s.eraseRule r.id).HasRule a) ∨ a = r := by
    by_cases ha : a = r
    · exact .inr ha
    · have hne (h : a ∈ rules) : a.id ≠ r.id := fun hid =>
        ha (List.inj_on_of_nodup_map (hs.rules rules hr) h hmem hid)
      rw [Store.hasRule_iff hr, Store.hasRule_iff (Store.eraseRule_rules hr _), List.mem_filter]
      exact .inl ⟨fun h => ⟨h, decide_eq_true (hne h)⟩, And.left⟩
  cases h with
  | read | cancelled | statusSet => exact .inl .rfl
  | admitted _ _ ha =>
    obtain ⟨rows, -, -, -, rfl⟩ := Admission.Order.admit_adds ha
    exact .inl .rfl
  | @ruleAdded user scope d t rules _ hm _ _ hr =>
    by_cases ha : a = ⟨Store.nextId (rules.map (·.id)), scope, t⟩
    · rw [ha]
      exact .inr ⟨user, rfl, hm⟩
    · rw [Store.hasRule_iff hr, Store.hasRule_iff rfl]
      simp [ha]
  | @ruleChanged id user changes r t _ hrule hm =>
    obtain ⟨rules, hr, hmem, -⟩ := Store.rule_mem hrule
    by_cases ha : a.scope = r.scope
    · rw [ha]
      exact .inr ⟨user, rfl, hm⟩
    · rw [Store.hasRule_iff hr, Store.hasRule_iff (putRule_rows hr hs hmem t), List.mem_map]
      left
      constructor
      · exact fun h => ⟨a, h, if_neg fun heq => ha (congrArg Rule.scope heq)⟩
      · rintro ⟨x, hx, rfl⟩
        split at ha
        · exact absurd rfl ha
        · rename_i hne
          rwa [if_neg hne]
  | @ruleErased id user r _ hrule hm =>
    obtain ⟨rules, hr, hmem, -⟩ := Store.rule_mem hrule
    exact (herase hr hmem).imp_right fun ha => ⟨user, rfl, by rw [ha]; exact hm⟩
  | @ruleErasedFor user scope r rules _ hm hr hf =>
    obtain ⟨hmem, hscope⟩ := Capacity.ruleFor?_eq_some hf
    exact (herase hr hmem).imp_right fun ha => ⟨user, rfl, by rw [ha, hscope]; exact hm⟩

/-- No two rules get one id. -/
theorem rules_nodup (h : Effect s now k op out s') (hs : s.Keyed) :
    ∀ rules ∈ s'.rules, (rules.map (·.id)).Nodup := by
  cases h with
  | read | cancelled | statusSet => exact hs.rules
  | admitted _ _ ha =>
    obtain ⟨rows, -, -, -, rfl⟩ := Admission.Order.admit_adds ha
    exact hs.rules
  | @ruleAdded _ _ _ _ rules _ _ _ _ hr =>
    rintro _ ⟨⟩
    rw [List.map_append]
    exact Store.nodup_concat_nextId (hs.rules rules hr)
  | @ruleChanged _ _ _ r t _ hrule =>
    obtain ⟨rules, hr, hmem, -⟩ := Store.rule_mem hrule
    rintro _ h
    rw [putRule_rows hr hs hmem] at h
    cases h
    rw [Capacity.SoundRules.map_replace_terms (·.id) rfl]
    exact hs.rules rules hr
  | ruleErased | ruleErasedFor =>
    rintro _ h
    obtain ⟨rules, hr, rfl⟩ := Option.map_eq_some_iff.mp h
    exact (hs.rules rules hr).sublist (List.filter_sublist.map _)

end Effect

/-! ## Runs -/

/-- An event keeps ids unique. -/
theorem Event.next_keyed {s : Store} (hs : s.Keyed) (e : Event) : (e.next s).Keyed where
  bookings := by
    intro rows' hr'
    cases hb : s.bookings with
    | none =>
      rw [e.next_bookings_none hb] at hr'
      cases hr'
    | some rows =>
      obtain ⟨f, hf, hmakes⟩ | ⟨b, hadm, hrows⟩ := e.next_rows hb (hs.bookings rows hb)
      · cases hf.symm.trans hr'
        have hsame : (rows.map f).map (·.id) = rows.map (·.id) := by
          rw [List.map_map]
          exact List.map_congr_left fun b hb => (hmakes b hb).id_eq
        rw [hsame]
        exact hs.bookings rows hb
      · cases hrows.symm.trans hr'
        obtain ⟨o, g, v, w, taken, -, -, -, -, rfl, -⟩ := hadm.row hb
        rw [List.map_append]
        exact Store.nodup_concat_nextId (hs.bookings rows hb)
  rules := by
    obtain ⟨f, -, h⟩ | ⟨out, -, h⟩ := e.next_cases s
    · rw [h]
      exact hs.rules
    · exact h.rules_nodup ⟨hs.bookings, hs.rules⟩

/-- After every run ids are unique if they were before. -/
theorem Store.run_keyed {s : Store} (hs : s.Keyed) (es : List Event) : (s.run es).Keyed := by
  induction es using List.reverseRecOn with
  | nil => exact hs
  | append_singleton es e ih =>
    rw [run_concat]
    exact e.next_keyed ih

section Authorized

variable {s : Store} {e : Event}

/-- Every booking stays, under its id, and if it changes then for its owner or a manager. -/
theorem Event.next_keeps (hs : s.Keyed) {b : Booking} (hb : s.HasBooking b) :
    ∃ a, (∀ x, (e.next s).HasBooking x ∧ x.id = b.id ↔ x = a) ∧
      (a = b ∨ e.ByOwner b a ∨ e.ByManagerOf b.company) := by
  obtain ⟨rows, hr, hmem⟩ := hb
  -- It suffices to find one such row: ids are unique after the event.
  have hunique {a : Booking} (ha : (e.next s).HasBooking a) (hid : a.id = b.id) (x : Booking) :
      (e.next s).HasBooking x ∧ x.id = b.id ↔ x = a := by
    constructor
    · rintro ⟨hx, hxid⟩
      exact (e.next_keyed hs).eq_of_id_eq hx ha (hxid.trans hid.symm)
    · rintro rfl
      exact ⟨ha, hid⟩
  obtain ⟨f, hf, hmakes⟩ | ⟨a, hadm, hrows⟩ := e.next_rows hr (hs.bookings rows hr)
  · have ha : (e.next s).HasBooking (f b) := ⟨_, hf, List.mem_map_of_mem hmem⟩
    exact ⟨f b, hunique ha (hmakes b hmem).id_eq, (hmakes b hmem).authorized⟩
  · exact ⟨b, hunique ⟨_, hrows, List.mem_append_left _ hmem⟩ rfl, .inl rfl⟩

/-- Every booking after an event was there under its id, or is made for the user who acts. -/
theorem Event.next_made (hs : s.Keyed) {a : Booking} (ha : (e.next s).HasBooking a) :
    (∃ b, s.HasBooking b ∧ b.id = a.id) ∨
      (∃ r, e.operation = .allocate r) ∧ e.operation.user? = some a.user := by
  obtain ⟨rows', hr', hmem⟩ := ha
  cases hb : s.bookings with
  | none =>
    rw [e.next_bookings_none hb] at hr'
    cases hr'
  | some rows =>
    obtain ⟨f, hf, hmakes⟩ | ⟨x, hadm, hrows⟩ := e.next_rows hb (hs.bookings rows hb)
    · cases hf.symm.trans hr'
      obtain ⟨b, hbmem, rfl⟩ := List.mem_map.mp hmem
      exact .inl ⟨b, ⟨rows, hb, hbmem⟩, (hmakes b hbmem).id_eq.symm⟩
    · cases hrows.symm.trans hr'
      rcases List.mem_append.mp hmem with hmem | hmem
      · exact .inl ⟨a, ⟨rows, hb, hmem⟩, rfl⟩
      · rw [List.mem_singleton.mp hmem]
        exact .inr ⟨hadm.1, hadm.user_eq⟩

/-- A rule that comes, goes or changes does so for a manager of its company. -/
theorem Event.next_rules (hs : s.Keyed) (r : Rule) :
    (s.HasRule r ↔ (e.next s).HasRule r) ∨ e.ByManagerOf r.scope.company := by
  obtain ⟨f, -, h⟩ | ⟨out, -, h⟩ := e.next_cases s
  · rw [h]
    exact .inl .rfl
  · refine (h.hasRule_iff ⟨hs.bookings, hs.rules⟩ r).imp_right fun ⟨user, hu, hm⟩ => ?_
    exact Event.byManagerOf hu hm

/-- An event that fails or only reads leaves both tables. -/
theorem Event.next_unchanged (h : (∃ f, e.outcome s = .error f) ∨ e.operation.IsRead) :
    (e.next s).bookings = s.bookings ∧ (e.next s).rules = s.rules := by
  obtain ⟨f, -, hs⟩ | ⟨out, hout, heff⟩ := e.next_cases s
  · rw [hs]
    exact ⟨rfl, rfl⟩
  rcases h with ⟨f, hf⟩ | hread
  · cases hf.symm.trans hout
  generalize e.operation = op at hread heff
  generalize e.next s = s' at heff
  cases heff with
  | read => exact ⟨rfl, rfl⟩
  | cancelled _ _ _ hop => cases hop <;> exact hread.elim
  | admitted | statusSet | ruleAdded | ruleChanged | ruleErased | ruleErasedFor =>
    exact hread.elim

end Authorized

/-- Manager 7 creates a rule for the address. -/
def creationEvent : Event :=
  ⟨creation, (managedWorld companyRules).now, (managedWorld companyRules).collaborators, false⟩

namespace Store

/-- **Authority.** In every run, whatever the tables were, every event keeps the rows of others. A
rule that comes, goes or changes does so for a user whom the collaborators name among the managers
of its company in this event. Every booking keeps exactly one row under its id, which is the same as
before unless its owner cancels it as the user or a manager of its company acts. A booking under a
new id is admitted for the user who acts. An event that fails or only reads leaves both tables. -/
theorem run_authorized {start : Store} (hs : start.Keyed) (es : List Event) (e : Event) :
    (∀ r, ((start.run es).HasRule r ↔ (start.run (es ++ [e])).HasRule r) ∨
      e.ByManagerOf r.scope.company) ∧
    (∀ b, (start.run es).HasBooking b → ∃ a,
      (∀ x, (start.run (es ++ [e])).HasBooking x ∧ x.id = b.id ↔ x = a) ∧
        (a = b ∨ e.ByOwner b a ∨ e.ByManagerOf b.company)) ∧
    (∀ a, (start.run (es ++ [e])).HasBooking a →
      (∃ b, (start.run es).HasBooking b ∧ b.id = a.id) ∨
        (∃ r, e.operation = .allocate r) ∧ e.operation.user? = some a.user) ∧
    ((∃ f, e.outcome (start.run es) = .error f) ∨ e.operation.IsRead →
      (start.run (es ++ [e])).bookings = (start.run es).bookings ∧
        (start.run (es ++ [e])).rules = (start.run es).rules) := by
  have hkeyed := run_keyed hs es
  rw [run_concat]
  exact ⟨e.next_rules hkeyed, fun b => e.next_keeps hkeyed, fun a => e.next_made hkeyed,
    e.next_unchanged⟩

/-- The rule that manager 7 creates is new, so the collaborators name a manager for company 1. -/
theorem run_authorized_sample : (managedWorld companyRules).store.Keyed ∧ ∃ r,
    ¬ (managedWorld companyRules).store.HasRule r ∧
    (creationEvent.next (managedWorld companyRules).store).HasRule r ∧
    creationEvent.ByManagerOf r.scope.company := by
  have hs : (managedWorld companyRules).store.Keyed := by
    constructor
    · rintro _ ⟨⟩
      exact List.nodup_nil
    · rintro _ ⟨⟩
      decide
  obtain ⟨t, -, -, -, hr⟩ := (World.effect_of_ok creation_done).created rfl
  have hold : ¬ (managedWorld companyRules).store.HasRule ⟨3, ⟨1, some 1, none⟩, t⟩ := by
    rw [hasRule_iff rfl]
    simp [companyRules]
  have hnew : (creationEvent.next (managedWorld companyRules).store).HasRule
      ⟨3, ⟨1, some 1, none⟩, t⟩ := ⟨_, hr, List.mem_append_right _ (List.mem_singleton.mpr rfl)⟩
  refine ⟨hs, _, hold, hnew, ((run_authorized hs [] creationEvent).1 _).resolve_left fun h => ?_⟩
  exact hold (h.mpr hnew)

end Store

end SlotBooking
