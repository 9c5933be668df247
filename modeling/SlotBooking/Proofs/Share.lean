import SlotBooking.Proofs.Parallel
import SlotBooking.Proofs.RuleWrites

/-!
# The share of a company

The rows of one company, without their ids. What is asked for a company depends on the tables only
through its share, and a row that is added or taken away for it changes its share in one way,
whatever rows of others stand between.

* `bookingShare`, `ruleShare`: the shares of the two tables.
* `Filter.list_share`, `Capacity.resolve?_share`: listings and look-ups read the share.
* `Store.SameShare`: two stores with one share of a company.
* `admit_alike`, `day_alike`, `commitCreate_alike`, `commitDeleteFor_alike`: what operations do with
  two such stores.
-/

namespace SlotBooking

open Capacity (Governing Rule Scope SoundRules Terms)

/-! ## Rows without ids -/

/-- The booking without its id. -/
def Booking.withoutId (b : Booking) : Booking := { b with id := 0 }

/-- The rule without its id. -/
def Capacity.Rule.withoutId (r : Rule) : Rule := { r with id := 0 }

/-- What governs, without the id of a stored rule. -/
def Capacity.Governing.withoutId (g : Governing) : Governing :=
  match g.origin with
  | .standard _ => g
  | .stored _ scope => ⟨g.terms, .stored 0 scope⟩

/-- The bookings of a company, without their ids. -/
def bookingShare (company : Int) (rows : List Booking) : List Booking :=
  (rows.filter fun b => decide (b.company = company)).map Booking.withoutId

/-- The rules of a company, without their ids. -/
def ruleShare (company : Int) (rules : List Rule) : List Rule :=
  (rules.filter fun r => decide (r.scope.company = company)).map Rule.withoutId

theorem bookingShare_concat (company : Int) (rows : List Booking) (b : Booking) :
    bookingShare company (rows ++ [b]) =
      bookingShare company rows ++ if b.company = company then [b.withoutId] else [] := by
  unfold bookingShare
  rw [List.filter_append, List.map_append]
  by_cases h : b.company = company <;> simp [h]

theorem ruleShare_concat (company : Int) (rules : List Rule) (r : Rule) :
    ruleShare company (rules ++ [r]) =
      ruleShare company rules ++ if r.scope.company = company then [r.withoutId] else [] := by
  unfold ruleShare
  rw [List.filter_append, List.map_append]
  by_cases h : r.scope.company = company <;> simp [h]

theorem mem_ruleShare {company : Int} {rules : List Rule} {r : Rule}
    (h : r ∈ ruleShare company rules) : r.scope.company = company := by
  obtain ⟨a, ha, rfl⟩ := List.mem_map.mp h
  exact of_decide_eq_true (List.mem_filter.mp ha).2

/-! ## What is read of a share -/

/-- The index has no order of ids that the table does not have. -/
theorem Filter.found_withoutId (f : Filter) (shown : List Booking) :
    f.found (shown.map Booking.withoutId) = (f.found shown).map Booking.withoutId := by
  have hindexed : (shown.map Booking.withoutId).mergeSort Booking.isIndexedNoLater =
      (shown.mergeSort Booking.isIndexedNoLater).map Booking.withoutId :=
    (List.map_mergeSort (f := Booking.withoutId) fun _ _ _ _ => rfl).symm
  unfold found
  rw [hindexed]
  split
  · exact List.map_reverse.symm
  · rfl

/-- A listing of a company shows the rows of its share. -/
theorem Filter.list_share (f : Filter) (rows : List Booking) :
    f.list (bookingShare f.company rows) = (f.list rows).map Booking.withoutId := by
  have hfilter : (bookingShare f.company rows).filter (fun b => decide (f.Admits b)) =
      (rows.filter fun b => decide (f.Admits b)).map Booking.withoutId := by
    unfold bookingShare
    rw [List.filter_map, List.filter_filter]
    refine congrArg _ (List.filter_congr fun b _ => ?_)
    have hsame : f.Admits b.withoutId ↔ f.Admits b := Iff.rfl
    by_cases h : f.Admits b
    · simp [hsame, h, h.1]
    · simp [hsame, h]
  unfold Filter.list
  rw [hfilter, f.found_withoutId]
  refine (List.map_mergeSort fun a _ b _ => ?_).symm
  split <;> rfl

/-- Counting does not read ids. -/
theorem Admission.countTaken_withoutId (w : Window) (bs : List Booking) :
    countTaken w (bs.map Booking.withoutId) = countTaken w bs := by
  unfold countTaken
  rw [List.map_map]
  rfl

namespace Capacity

variable {rules : List Rule} {q scope : Scope} {r : Rule}

theorem ruleFor?_share (rules : List Rule) (scope : Scope) :
    ruleFor? (ruleShare scope.company rules) scope = (ruleFor? rules scope).map Rule.withoutId := by
  unfold ruleFor? ruleShare
  rw [List.find?_map, List.find?_filter]
  refine congrArg (Option.map _ <| rules.find? ·) (funext fun r => ?_)
  by_cases h : r.scope = scope <;> simp [Rule.withoutId, h]

/-- The rule that governs is one of the company. -/
theorem resolve?_share (rules : List Rule) (q : Scope) :
    resolve? (ruleShare q.company rules) q = (resolve? rules q).map Rule.withoutId := by
  have hcompany : ∀ s ∈ q.candidates, s.company = q.company := fun s hs =>
    (Scope.mem_candidates.mp hs).1
  unfold resolve?
  generalize q.candidates = scopes at hcompany
  induction scopes with
  | nil => rfl
  | cons s scopes ih =>
    obtain ⟨hs, hscopes⟩ := List.forall_mem_cons.mp hcompany
    rw [List.findSome?_cons, List.findSome?_cons, ← hs, ruleFor?_share, hs]
    cases ruleFor? rules s with
    | none => exact ih hscopes
    | some r => rfl

theorem governing_share (rules : List Rule) (q : Scope) :
    governing (ruleShare q.company rules) q = (governing rules q).withoutId := by
  unfold governing
  rw [resolve?_share]
  cases resolve? rules q <;> rfl

/-- Without the rule of an id, the share is without that of its scope. -/
theorem SoundRules.erase_share (h : SoundRules rules) (hr : r ∈ rules) (company : Int) :
    ruleShare company (rules.filter fun a => decide (a.id ≠ r.id)) =
      (ruleShare company rules).filter fun a => decide (a.scope ≠ r.scope) := by
  have hsame : rules.filter (fun a => decide (a.id ≠ r.id)) =
      rules.filter fun a => decide (a.scope ≠ r.scope) := by
    refine List.filter_congr fun a ha => ?_
    have hiff : a.id = r.id ↔ a.scope = r.scope := by
      constructor
      · exact fun hid => congrArg Rule.scope (List.inj_on_of_nodup_map h.ids ha hr hid)
      · exact fun hs => congrArg Rule.id (h.scopes.eq_of_scope_eq ha hr hs)
    simp [hiff]
  unfold ruleShare
  rw [hsame, List.filter_map, List.filter_filter, List.filter_filter]
  exact congrArg _ (List.filter_congr fun a _ => Bool.and_comm ..)

end Capacity

/-! ## Stores with one share -/

/-- The stores have the same rows of a company, but for ids, and sound tables of rules. -/
structure Store.SameShare (company : Int) (s s' : Store) : Prop where
  bookings : ∃ rows rows', s.bookings = some rows ∧ s'.bookings = some rows' ∧
    bookingShare company rows = bookingShare company rows'
  rules : ∃ rules rules', s.rules = some rules ∧ s'.rules = some rules' ∧ SoundRules rules ∧
    SoundRules rules' ∧ ruleShare company rules = ruleShare company rules'

/-- The same values once `f` has forgotten something, and stores with the same rows of a company. -/
def SameEnd {α β : Type} (f : α → β) (company : Int) (p p' : α × Store) : Prop :=
  f p.1 = f p'.1 ∧ p.2.SameShare company p'.2

namespace Store.SameShare

variable {company : Int} {s s' : Store} {scope : Scope}

theorem refl {rows : List Booking} {rules : List Rule} (hb : s.bookings = some rows)
    (hr : s.rules = some rules) (hs : SoundRules rules) : s.SameShare company s :=
  ⟨⟨rows, rows, hb, hb, rfl⟩, ⟨rules, rules, hr, hr, hs, hs, rfl⟩⟩

theorem list (h : s.SameShare company s') {f : Filter} (hf : f.company = company) :
    EndsAlike (fun bs bs' => bs.map Booking.withoutId = bs'.map Booking.withoutId)
      (s.list f) (s'.list f) := by
  obtain ⟨rows, rows', hr, hr', hshare⟩ := h.bookings
  unfold Store.list
  rw [hr, hr']
  refine .bind_same fun _ _ => .ok ?_
  rw [← Filter.list_share, ← Filter.list_share, hf, hshare]

/-- What a look-up by scope finds in the share, it finds in the table, but for ids. -/
theorem byScope {β : Type} (h : s.SameShare company s') {find : List Rule → β} {f : β → β}
    (hfind : ∀ rules, find (ruleShare company rules) = f (find rules)) :
    EndsAlike (fun a a' => f a = f a')
      (do
        let rules ← Store.rows .ruleByScope s.rules
        Store.requireStorable scope.ids
        return find rules)
      (do
        let rules ← Store.rows .ruleByScope s'.rules
        Store.requireStorable scope.ids
        return find rules) := by
  obtain ⟨rules, rules', hr, hr', -, -, hshare⟩ := h.rules
  rw [hr, hr']
  refine .bind_same fun _ _ => .ok ?_
  rw [← hfind, ← hfind, hshare]

theorem ruleFor? (h : s.SameShare company s') (hc : scope.company = company) :
    EndsAlike (fun r r' => r.map Rule.withoutId = r'.map Rule.withoutId)
      (s.ruleFor? scope) (s'.ruleFor? scope) :=
  h.byScope fun rules => hc ▸ Capacity.ruleFor?_share rules scope

theorem resolve? (h : s.SameShare company s') (hc : scope.company = company) :
    EndsAlike (fun r r' => r.map Rule.withoutId = r'.map Rule.withoutId)
      (s.resolve? scope) (s'.resolve? scope) :=
  h.byScope fun rules => hc ▸ Capacity.resolve?_share rules scope

theorem governing (h : s.SameShare company s') (hc : scope.company = company) :
    EndsAlike (fun g g' => g.withoutId = g'.withoutId) (s.governing scope)
      (s'.governing scope) :=
  h.byScope fun rules => hc ▸ Capacity.governing_share rules scope

theorem addBooking (h : s.SameShare company s') (b : Booking) :
    EndsAlike (SameEnd Booking.withoutId company) (s.addBooking b) (s'.addBooking b) := by
  obtain ⟨rows, rows', hr, hr', hshare⟩ := h.bookings
  unfold Store.addBooking
  rw [hr, hr']
  refine .bind_same fun _ _ => .bind_same fun _ _ => .ite (fun _ => .error _) fun _ => ?_
  refine .ok ⟨rfl, ⟨_, _, rfl, rfl, ?_⟩, h.rules⟩
  rw [bookingShare_concat, bookingShare_concat, hshare]
  rfl

/-- A rule for a scope that has none. -/
theorem addRule (h : s.SameShare company s') {terms : Terms} (ht : terms.Permitted)
    (hn : s.ruleFor? scope = .ok none) (hn' : s'.ruleFor? scope = .ok none) :
    EndsAlike (SameEnd Capacity.Rule.withoutId company)
      (s.addRule scope (.ofTerms terms)) (s'.addRule scope (.ofTerms terms)) := by
  obtain ⟨rules, rules', hr, hr', hs, hs', hshare⟩ := h.rules
  obtain ⟨_, hr₁, -, hn⟩ := ruleFor?_eq_ok.mp hn
  obtain ⟨_, hr₁', -, hn'⟩ := ruleFor?_eq_ok.mp hn'
  cases hr.symm.trans hr₁
  cases hr'.symm.trans hr₁'
  unfold Store.addRule
  rw [hr, hr']
  simp only [Store.rows, ok_bind, Capacity.Draft.filled_ofTerms, Capacity.Draft.terms?_ofTerms,
    ← hn, ← hn', Option.isSome_none, Bool.false_eq_true, and_false, if_false]
  refine .bind_same fun _ _ => .ok ⟨rfl, h.bookings, ⟨_, _, rfl, rfl, ?_, ?_, ?_⟩⟩
  · exact hs.concat hn.symm ht
  · exact hs'.concat hn'.symm ht
  · rw [ruleShare_concat, ruleShare_concat, hshare]
    rfl

/-- In both stores the rule of one scope is erased. -/
theorem eraseRule (h : s.SameShare company s') {r r' : Rule} {rules rules' : List Rule}
    (hr : s.rules = some rules) (hr' : s'.rules = some rules') (hmem : r ∈ rules)
    (hmem' : r' ∈ rules') (hscope : r.scope = r'.scope) :
    (s.eraseRule r.id).SameShare company (s'.eraseRule r'.id) := by
  obtain ⟨_, _, hr₁, hr₁', hs, hs', hshare⟩ := h.rules
  cases hr.symm.trans hr₁
  cases hr'.symm.trans hr₁'
  refine ⟨h.bookings, _, _, eraseRule_rules hr _, eraseRule_rules hr' _, hs.filter _,
    hs'.filter _, ?_⟩
  rw [hs.erase_share hmem, hs'.erase_share hmem', hshare, hscope]

end Store.SameShare

/-! ## Operations on the share -/

section Operations

variable {company : Int} {s s' : Store} {now : Instant}

theorem Capacity.Governing.terms_eq {g g' : Governing} (h : g.withoutId = g'.withoutId) :
    g.terms = g'.terms := by
  have hterms (g : Governing) : g.withoutId.terms = g.terms := by
    unfold withoutId
    split <;> rfl
  rw [← hterms g, h, hterms]

/-- An admission depends on the share of its company. -/
theorem Admission.admit_alike (h : s.SameShare company s') (hl : s.writeLocked = s'.writeLocked)
    {o : Order} (ho : o.company = company) (c : Directory.Company) (v : Directory.Service)
    (w : Directory.Vehicle) :
    EndsAlike (SameEnd Booking.withoutId company)
      ( o.admit s now c v w) ( o.admit s' now c v w) := by
  unfold Order.admit Store.begin
  rw [hl]
  refine .bind_same fun _ _ => (h.governing ho).bind fun g g' hg => ?_
  rw [Capacity.Governing.terms_eq hg]
  refine .bind_same fun _ _ => .ite (fun _ => .error _) fun _ => .bind_same fun _ _ => ?_
  refine (h.list ho).bind fun bs bs' hbs => ?_
  rw [← countTaken_withoutId _ bs, hbs, countTaken_withoutId]
  exact .bind_same fun _ _ => .ite (fun _ => .error _) fun _ => h.addBooking _

/-- The day without the id of a stored rule. -/
def DayAvailability.withoutId (d : DayAvailability) : DayAvailability :=
  { d with governing := d.governing.withoutId }

/-- The slots of a day depend on the share of its company. -/
theorem Availability.day_alike (h : s.SameShare company s') (c : Directory.Company)
    (address service : Int) (date : Date) :
    EndsAlike (fun d d' => d.withoutId = d'.withoutId)
      (day s now c company address service date) (day s' now c company address service date) := by
  have hslots (terms : Terms) (d : DaySchedule) :
      slots s now company address date d terms = slots s' now company address date d terms := by
    refine EndsAlike.eq ?_
    unfold slots
    refine .ite (fun _ => .bind_same fun starts _ => .ite (fun _ => .ok rfl) fun _ => ?_)
      fun _ => .ok rfl
    refine (h.list rfl).bind fun bs bs' hbs => .of_eq (congrArg (List.mapM · starts) ?_)
    funext start
    have hcount (v : Window) : Admission.countTaken v bs = Admission.countTaken v bs' := by
      rw [← Admission.countTaken_withoutId v bs, hbs, Admission.countTaken_withoutId]
    unfold slotFrom slotAt
    simp only [hcount]
  unfold day
  refine (h.governing rfl).bind fun g g' hg => ?_
  rw [Capacity.Governing.terms_eq hg, hslots]
  refine .bind_same fun _ _ => .bind_same fun _ _ => .ok ?_
  unfold DayAvailability.withoutId
  rw [hg]

namespace Capacity.Management

variable {scope : Scope}

theorem commitCreate_alike (h : s.SameShare company s') (hl : s.writeLocked = s'.writeLocked)
    (hc : scope.company = company) {terms : Terms} (ht : terms.Permitted) :
    EndsAlike (SameEnd Capacity.Rule.withoutId company)
      (commitCreate s scope terms) (commitCreate s' scope terms) := by
  unfold commitCreate Store.begin
  rw [hl]
  refine .bind_same fun _ _ => (h.ruleFor? hc).known.bind fun r r' ⟨hr, hfor, hfor'⟩ => ?_
  cases r with
  | none =>
    cases r' with
    | none => exact h.addRule ht hfor hfor'
    | some r' => cases hr
  | some r =>
    cases r' with
    | none => cases hr
    | some r' => exact .error _

theorem commitDeleteFor_alike (h : s.SameShare company s') (hl : s.writeLocked = s'.writeLocked)
    (hc : scope.company = company) :
    EndsAlike (Store.SameShare company) (commitDeleteFor s scope) (commitDeleteFor s' scope) := by
  unfold commitDeleteFor Store.begin
  rw [hl]
  refine .bind_same fun _ _ => (h.ruleFor? hc).known.bind fun r r' ⟨hr, hfor, hfor'⟩ => ?_
  cases r with
  | none =>
    cases r' with
    | none => exact .error _
    | some r' => cases hr
  | some r =>
    cases r' with
    | none => cases hr
    | some r' =>
      obtain ⟨rules, hrules, -, hfind⟩ := Store.ruleFor?_eq_ok.mp hfor
      obtain ⟨rules', hrules', -, hfind'⟩ := Store.ruleFor?_eq_ok.mp hfor'
      obtain ⟨hmem, hscope⟩ := ruleFor?_eq_some hfind.symm
      obtain ⟨hmem', hscope'⟩ := ruleFor?_eq_some hfind'.symm
      exact .ok (h.eraseRule hrules hrules' hmem hmem' (hscope.trans hscope'.symm))

end Capacity.Management

end Operations

end SlotBooking
