import SlotBooking.Proofs.Lookup

/-!
# What the store does

One statement for each operation of the store: when it succeeds, and with what. Rules about bookings
and capacity rules cite these and never open the store.

* `rows_eq_ok`, `requireStorable_eq_ok`, `requireEncodable_eq_ok`, `begin_eq_ok`: the limits.
* `lt_nextId`: a new id is above all ids of the table.
* `booking_eq_ok`, `list_eq_ok`, `listOf_eq_ok`, `addBooking_eq_ok`, `setStatus_eq_ok`,
  `setCancelled_eq_ok`.
* `rule_eq_ok`, `governing_eq_ok`, `ruleFor?_eq_ok`, `addRule_ofTerms_eq_ok`.
* `governing_terms`, `TermsFit.governing`: terms that govern are stored or standard, and fit their
  columns if the stored ones do.
-/

namespace SlotBooking.Store

open Capacity (Draft Field Governing Rule Scope Terms)

variable {s s' : Store}

/-! ## Limits -/

theorem rows_eq_ok {α : Type} {a : Refusal.Access} {t : Option (List α)} {r : List α} :
    rows a t = .ok r ↔ t = some r := by
  cases t with
  | none => exact iff_of_false refuse_ne_ok nofun
  | some r' => simp [rows]

theorem requireStorable_eq_ok {ns : List Int} {u : Unit} :
    requireStorable ns = .ok u ↔ ∀ n ∈ ns, Storable n := by
  unfold requireStorable
  split <;> simp_all

theorem requireEncodable_eq_ok {ts : List Text} {u : Unit} :
    requireEncodable ts = .ok u ↔ ∀ t ∈ ts, t.unencodable? = none := by
  unfold requireEncodable
  cases h : ts.findSome? Text.unencodable? with
  | none => simpa using List.findSome?_eq_none_iff.mp h
  | some e =>
    obtain ⟨t, ht, he⟩ := List.exists_of_findSome?_eq_some h
    exact iff_of_false nofun fun hn => by rw [hn t ht] at he; cases he

theorem begin_eq_ok {r : Refusal} {u : Unit} : s.begin r = .ok u ↔ s.writeLocked = false := by
  unfold begin
  cases s.writeLocked with
  | false => simp
  | true => simp [refuse_ne_ok]

theorem lt_nextId {ids : List Int} {i : Int} (h : i ∈ ids) : i < nextId ids := by
  unfold nextId
  cases hmax : ids.max? with
  | none => exact absurd (List.max?_eq_none_iff.mp hmax) (List.ne_nil_of_mem h)
  | some m => exact Int.lt_add_one_of_le ((List.max?_eq_some_iff.mp hmax).2 i h)

/-! ## Bookings -/

theorem booking_eq_ok {id : Int} {b : Booking} :
    s.booking id = .ok b ↔ ∃ rows, s.bookings = some rows ∧ Storable id ∧
      rows.find? (fun a => decide (a.id = id)) = some b := by
  unfold booking booking?
  simp only [bind_eq_ok, rows_eq_ok, requireStorable_eq_ok, List.mem_singleton, forall_eq]
  constructor
  · rintro ⟨o, ⟨rows, hr, u, hs, ho⟩, h⟩
    cases ho
    refine ⟨rows, hr, hs, ?_⟩
    cases hf : rows.find? fun a => decide (a.id = id) with
    | none => rw [hf] at h; exact absurd h refuse_ne_ok
    | some b' => rw [hf] at h; cases h; rfl
  · rintro ⟨rows, hr, hs, hf⟩
    exact ⟨_, ⟨rows, hr, (), hs, rfl⟩, by rw [hf]; rfl⟩

theorem list_eq_ok {f : Filter} {bs : List Booking} :
    s.list f = .ok bs ↔ ∃ rows, s.bookings = some rows ∧
      (∀ n ∈ f.company :: f.address.toList, Storable n) ∧ bs = f.list rows := by
  unfold list
  simp only [bind_eq_ok, rows_eq_ok, requireStorable_eq_ok]
  constructor
  · rintro ⟨rows, hr, u, hs, h⟩
    cases h
    exact ⟨rows, hr, hs, rfl⟩
  · rintro ⟨rows, hr, hs, rfl⟩
    exact ⟨rows, hr, (), hs, rfl⟩

theorem listOf_eq_ok {user : Int} {status : Option Status} {bs : List Booking} :
    s.listOf user status = .ok bs ↔ ∃ rows, s.bookings = some rows ∧ Storable user ∧
      bs = bookingsOf user status rows := by
  unfold listOf
  simp only [bind_eq_ok, rows_eq_ok, requireStorable_eq_ok, List.forall_mem_singleton]
  constructor
  · rintro ⟨rows, hr, u, hs, h⟩
    cases h
    exact ⟨rows, hr, hs, rfl⟩
  · rintro ⟨rows, hr, hs, rfl⟩
    exact ⟨rows, hr, (), hs, rfl⟩

/-- The integers of a booking that get columns when it is added. -/
def integersOf (b : Booking) : List Int :=
  [b.user, b.company, b.address, b.service, b.vehicle, b.duration]

/-- The texts of a booking that may hold a lone surrogate. -/
def textsOf (b : Booking) : List Text :=
  b.serviceName :: b.vehicleBrand.toList ++ b.vehicleModel.toList ++ b.vehiclePlate.toList
    ++ b.notes.toList

/-- A booking can be kept: its integers fit, its texts can be encoded, its price is a number. -/
structure Keeps (b : Booking) : Prop where
  integers : ∀ n ∈ integersOf b, Storable n
  texts : ∀ t ∈ textsOf b, t.unencodable? = none
  price : ¬ b.price.IsNaN

/-- The row that a booking becomes in a table. -/
def rowOf (rows : List Booking) (b : Booking) : Booking :=
  { kept b with id := nextId (rows.map (·.id)) }

theorem addBooking_eq_ok {b b' : Booking} :
    s.addBooking b = .ok (b', s') ↔ ∃ rows, s.bookings = some rows ∧ Keeps b ∧
      b' = rowOf rows b ∧ s' = { s with bookings := some (rows ++ [b']) } := by
  unfold addBooking
  simp only [bind_eq_ok, rows_eq_ok, requireStorable_eq_ok, requireEncodable_eq_ok,
    ite_refuse_eq_ok]
  constructor
  · rintro ⟨rows, hr, u, hi, u', ht, hp, h⟩
    cases h
    exact ⟨rows, hr, ⟨hi, ht, hp⟩, rfl, rfl⟩
  · rintro ⟨rows, hr, ⟨hi, ht, hp⟩, rfl, rfl⟩
    exact ⟨rows, hr, (), hi, (), ht, hp, rfl⟩

/-- The rows with every row of an id replaced. -/
def replaced (b : Booking) (rows : List Booking) : List Booking :=
  rows.map fun a => if a.id = b.id then b else a

theorem putBooking_eq {rows : List Booking} (h : s.bookings = some rows) (b : Booking) :
    s.putBooking b = { s with bookings := some (replaced b rows) } := by
  simp [putBooking, h, replaced]

theorem setStatus_eq_ok {id : Int} {status : Status} {b' : Booking} :
    s.setStatus id status = .ok (b', s') ↔ ∃ b, s.booking id = .ok b ∧ b' = b.withStatus status ∧
      s' = s.putBooking b' := by
  unfold setStatus
  simp only [bind_eq_ok]
  constructor
  · rintro ⟨b, hb, h⟩
    cases h
    exact ⟨b, hb, rfl, rfl⟩
  · rintro ⟨b, hb, rfl, rfl⟩
    exact ⟨b, hb, rfl⟩

theorem setCancelled_eq_ok {id : Int} {status : Status} {reason : Option String} {time : Instant}
    {b' : Booking} :
    s.setCancelled id status reason time = .ok (b', s') ↔ ∃ b, s.booking id = .ok b ∧
      b' = b.cancelled status reason time ∧ s' = s.putBooking b' := by
  unfold setCancelled
  simp only [bind_eq_ok]
  constructor
  · rintro ⟨b, hb, h⟩
    cases h
    exact ⟨b, hb, rfl, rfl⟩
  · rintro ⟨b, hb, rfl, rfl⟩
    exact ⟨b, hb, rfl⟩

/-! ## Capacity rules -/

theorem rule_eq_ok {id : Int} {r : Rule} :
    s.rule id = .ok r ↔ ∃ rules, s.rules = some rules ∧ Storable id ∧
      rules.find? (fun a => decide (a.id = id)) = some r := by
  unfold rule rule?
  simp only [bind_eq_ok, rows_eq_ok, requireStorable_eq_ok, List.mem_singleton, forall_eq]
  constructor
  · rintro ⟨o, ⟨rules, hr, u, hs, ho⟩, h⟩
    cases ho
    refine ⟨rules, hr, hs, ?_⟩
    cases hf : rules.find? fun a => decide (a.id = id) with
    | none => rw [hf] at h; exact absurd h refuse_ne_ok
    | some r' => rw [hf] at h; cases h; rfl
  · rintro ⟨rules, hr, hs, hf⟩
    exact ⟨_, ⟨rules, hr, (), hs, rfl⟩, by rw [hf]; rfl⟩

theorem governing_eq_ok {scope : Scope} {g : Governing} :
    s.governing scope = .ok g ↔ ∃ rules, s.rules = some rules ∧ (∀ n ∈ scope.ids, Storable n) ∧
      g = Capacity.governing rules scope := by
  unfold governing
  simp only [bind_eq_ok, rows_eq_ok, requireStorable_eq_ok]
  constructor
  · rintro ⟨rules, hr, u, hs, h⟩
    cases h
    exact ⟨rules, hr, hs, rfl⟩
  · rintro ⟨rules, hr, hs, rfl⟩
    exact ⟨rules, hr, (), hs, rfl⟩

/-- What governs is read from the rules alone. -/
theorem governing_congr (h : s'.rules = s.rules) : s'.governing = s.governing := by
  funext scope
  unfold governing
  rw [h]

/-- The stored terms fit their columns. -/
def TermsFit (s : Store) : Prop :=
  ∀ rules, s.rules = some rules → ∀ r ∈ rules, ∀ f : Field, Storable (r.terms.get f)

theorem storable_of_permits {f : Field} {n : Int} (h : f.Permits n) : Storable n := by
  cases f <;> exact ⟨by have := h.1; simp only [Field.low] at this; omega,
    by have := h.2; simp only [Field.high] at this; omega⟩

/-- Terms that govern are stored or standard. -/
theorem governing_terms {scope : Scope} {g : Governing} (hg : s.governing scope = .ok g) :
    g.terms = .standard ∨ ∃ rules, s.rules = some rules ∧ ∃ r ∈ rules, g.terms = r.terms := by
  obtain ⟨rules, hr, -, rfl⟩ := governing_eq_ok.mp hg
  unfold Capacity.governing
  cases hres : Capacity.resolve? rules scope with
  | none => exact .inl rfl
  | some r =>
    obtain ⟨scope', -, hfor⟩ := List.exists_of_findSome?_eq_some hres
    exact .inr ⟨rules, hr, r, List.mem_of_find?_eq_some hfor, rfl⟩

theorem TermsFit.governing (h : s.TermsFit) {scope : Scope} {g : Governing}
    (hg : s.governing scope = .ok g) (f : Field) : Storable (g.terms.get f) := by
  obtain ht | ⟨rules, hr, r, hmem, ht⟩ := governing_terms hg
  · rw [ht]
    exact storable_of_permits (Terms.permitted_standard f)
  · rw [ht]
    exact h rules hr r hmem f

theorem ruleFor?_eq_ok {scope : Scope} {o : Option Rule} :
    s.ruleFor? scope = .ok o ↔ ∃ rules, s.rules = some rules ∧ (∀ n ∈ scope.ids, Storable n) ∧
      o = Capacity.ruleFor? rules scope := by
  unfold ruleFor?
  simp only [bind_eq_ok, rows_eq_ok, requireStorable_eq_ok]
  constructor
  · rintro ⟨rules, hr, u, hs, h⟩
    cases h
    exact ⟨rules, hr, hs, rfl⟩
  · rintro ⟨rules, hr, hs, rfl⟩
    exact ⟨rules, hr, (), hs, rfl⟩

/-- Complete terms are added under the next id. -/
theorem addRule_ofTerms_eq_ok {scope : Scope} {terms : Terms} {r : Rule}
    (h : s.addRule scope (.ofTerms terms) = .ok (r, s')) : ∃ rules, s.rules = some rules ∧
      (∀ f : Field, Storable (terms.get f)) ∧ r = ⟨nextId (rules.map (·.id)), scope, terms⟩ ∧
      s' = { s with rules := some (rules ++ [r]) } := by
  unfold addRule at h
  simp only [bind_eq_ok, rows_eq_ok, requireStorable_eq_ok, Draft.filled_ofTerms,
    Draft.terms?_ofTerms, ite_refuse_eq_ok] at h
  obtain ⟨rules, hr, u, hs, -, h⟩ := h
  cases h
  refine ⟨rules, hr, fun f => hs _ (List.mem_append_right _ ?_), rfl, rfl⟩
  exact List.mem_filterMap.mpr ⟨f, by cases f <;> simp [Field.all], by cases f <;> rfl⟩

end SlotBooking.Store
