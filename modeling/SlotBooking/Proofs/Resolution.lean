import Mathlib.Data.List.Nodup
import SlotBooking.Proofs.Store

/-!
# The rule that governs a look-up

A look-up probes scopes one after the other and stops at the first that has a rule. Here its answer
is described without the probes: a rule applies to a look-up or not, and of those that apply the
most specific one governs.

* `Capacity.Scope.AppliesTo`: a rule of this scope applies to a look-up.
* `Capacity.Scope.mem_candidates`, `Capacity.Scope.candidates_pairwise`: what is probed are the
  scopes that apply, the more specific first.
* `Capacity.resolve?_eq_none_iff`, `Capacity.resolve?_eq_some_iff`: what is found.
* `Store.resolves_most_specific`: the same of the store, with the terms that govern.
-/

namespace SlotBooking

namespace Capacity

/-! ## Scopes that apply -/

/-- How specific a level is. An address weighs more than a service. -/
def Level.rank : Level → Nat
  | serviceAtAddress => 3
  | address => 2
  | service => 1
  | global => 0

namespace Scope

/-- A rule of the scope `s` applies to the look-up `q`: it is of the same company, and each id to
which it is narrowed is the one of the look-up. -/
def AppliesTo (s q : Scope) : Prop :=
  s.company = q.company ∧ (s.address = none ∨ s.address = q.address) ∧
    (s.service = none ∨ s.service = q.service)

instance (s q : Scope) : Decidable (s.AppliesTo q) := inferInstanceAs (Decidable (_ ∧ _ ∧ _))

theorem mem_candidates {s q : Scope} : s ∈ q.candidates ↔ s.AppliesTo q := by
  obtain ⟨c, a, v⟩ := s
  obtain ⟨c', a', v'⟩ := q
  cases a' <;> cases v' <;> cases a <;> cases v <;> simp [candidates, AppliesTo]

theorem candidates_pairwise (q : Scope) :
    q.candidates.Pairwise fun s t => t.level.rank < s.level.rank := by
  obtain ⟨c, a, v⟩ := q
  cases a <;> cases v <;> simp [candidates, level, Level.rank]

/-- A level says which ids a scope gives. -/
theorem level_names (s : Scope) :
    (s.level = .serviceAtAddress ↔ s.address.isSome ∧ s.service.isSome) ∧
      (s.level = .address ↔ s.address.isSome ∧ s.service = none) ∧
      (s.level = .service ↔ s.address = none ∧ s.service.isSome) ∧
      (s.level = .global ↔ s.address = none ∧ s.service = none) := by
  obtain ⟨c, a, v⟩ := s
  cases a <;> cases v <;> simp [level]

end Scope

/-! ## What is found -/

/-- No two rules are stored under one scope. -/
def OnePerScope (rules : List Rule) : Prop := (rules.map (·.scope)).Nodup

instance (rules : List Rule) : Decidable (OnePerScope rules) :=
  inferInstanceAs (Decidable (List.Nodup _))

variable {rules : List Rule} {q s : Scope} {r : Rule}

theorem OnePerScope.eq_of_scope_eq (h : OnePerScope rules) {a b : Rule} (ha : a ∈ rules)
    (hb : b ∈ rules) (hs : a.scope = b.scope) : a = b :=
  List.inj_on_of_nodup_map h ha hb hs

theorem ruleFor?_eq_none_iff : ruleFor? rules s = none ↔ ∀ r ∈ rules, r.scope ≠ s := by
  simp [ruleFor?]

theorem ruleFor?_eq_some (h : ruleFor? rules s = some r) : r ∈ rules ∧ r.scope = s := by
  unfold ruleFor? at h
  exact ⟨List.mem_of_find?_eq_some h, by simpa using List.find?_some h⟩

/-- A rule for a scope that has none keeps it at one per scope. -/
theorem OnePerScope.concat (h : OnePerScope rules) (hn : ruleFor? rules r.scope = none) :
    OnePerScope (rules ++ [r]) := by
  unfold OnePerScope
  rw [List.map_append, List.nodup_append]
  refine ⟨h, List.nodup_singleton _, fun s hs s' hs' hss => ?_⟩
  obtain ⟨a, ha, rfl⟩ := List.mem_map.mp hs
  rw [List.mem_singleton.mp hs'] at hss
  exact ruleFor?_eq_none_iff.mp hn a ha hss

/-- Nothing is found exactly if no rule applies. -/
theorem resolve?_eq_none_iff :
    resolve? rules q = none ↔ ∀ r ∈ rules, ¬ r.scope.AppliesTo q := by
  simp only [resolve?, List.findSome?_eq_none_iff, ruleFor?_eq_none_iff, Scope.mem_candidates]
  exact ⟨fun h r hr ha => h r.scope ha r hr rfl, fun h s hs r hr he => h r hr (he ▸ hs)⟩

/-- The rule `r` applies to a look-up, and every other rule that does is less specific. -/
structure Governs (rules : List Rule) (q : Scope) (r : Rule) : Prop where
  mem : r ∈ rules
  applies : r.scope.AppliesTo q
  most_specific : ∀ a ∈ rules, a.scope.AppliesTo q → a ≠ r →
    a.scope.level.rank < r.scope.level.rank

theorem Governs.unique {a b : Rule} (ha : Governs rules q a) (hb : Governs rules q b) : a = b := by
  apply Decidable.byContradiction
  intro hne
  have hlt := hb.most_specific a ha.mem ha.applies hne
  have hgt := ha.most_specific b hb.mem hb.applies fun h => hne h.symm
  omega

theorem governs_of_resolve? (hu : OnePerScope rules) (h : resolve? rules q = some r) :
    Governs rules q r := by
  obtain ⟨before, s, after, hq, hs, hbefore⟩ := List.findSome?_eq_some_iff.mp h
  obtain ⟨hr, rfl⟩ := ruleFor?_eq_some hs
  have hsplit : ∀ t, t.AppliesTo q ↔ t ∈ before ++ r.scope :: after := by
    intro t
    rw [← hq, Scope.mem_candidates]
  refine ⟨hr, (hsplit _).mpr (by simp), fun a ha happ hne => ?_⟩
  have hpair := q.candidates_pairwise
  rw [hq, List.pairwise_append, List.pairwise_cons] at hpair
  obtain ⟨-, ⟨hlower, -⟩, -⟩ := hpair
  -- A scope that was probed before has no rule, and the scope that stopped the probes only one.
  rcases List.mem_append.mp ((hsplit _).mp happ) with hmem | hmem
  · exact absurd rfl (ruleFor?_eq_none_iff.mp (hbefore _ hmem) a ha)
  · rcases List.mem_cons.mp hmem with heq | hmem
    · exact absurd (hu.eq_of_scope_eq ha hr heq) hne
    · exact hlower _ hmem

/-- A rule is found exactly if it applies and is more specific than every other rule that does. -/
theorem resolve?_eq_some_iff (hu : OnePerScope rules) :
    resolve? rules q = some r ↔ Governs rules q r := by
  refine ⟨governs_of_resolve? hu, fun h => ?_⟩
  cases hfound : resolve? rules q with
  | none => exact absurd h.applies (resolve?_eq_none_iff.mp hfound r h.mem)
  | some a => rw [(governs_of_resolve? hu hfound).unique h]

end Capacity

/-! ## The store -/

namespace Store

open Capacity (Governing Governs OnePerScope Rule Scope)

variable {s : Store}

theorem resolve?_eq_ok {q : Scope} {found : Option Rule} :
    s.resolve? q = .ok found ↔ ∃ rules, s.rules = some rules ∧ (∀ n ∈ q.ids, Storable n) ∧
      found = Capacity.resolve? rules q := by
  unfold resolve?
  simp only [bind_eq_ok, rows_eq_ok, requireStorable_eq_ok]
  constructor
  · rintro ⟨rules, hr, u, hs, h⟩
    cases h
    exact ⟨rules, hr, hs, rfl⟩
  · rintro ⟨rules, hr, hs, rfl⟩
    exact ⟨rules, hr, (), hs, rfl⟩

/-- **Resolution.** With at most one rule per scope, a look-up whose ids fit their columns finds no
rule exactly if none applies, and otherwise the one rule that applies and is more specific than all
others that do; the level of that rule says which ids it gives. It governs the look-up, and where
there is none the standard terms do, for the company and without a stored rule. -/
theorem resolves_most_specific {rules : List Rule} (hr : s.rules = some rules)
    (hu : OnePerScope rules) {q : Scope} (hq : ∀ n ∈ q.ids, Storable n) :
    ∃ found g, s.resolve? q = .ok found ∧ s.governing q = .ok g ∧
      (found = none ↔ ∀ r ∈ rules, ¬ r.scope.AppliesTo q) ∧
      (∀ r, found = some r ↔ Governs rules q r) ∧
      (∀ r, found = some r → g = .ofRule r ∧
        (g.level = .serviceAtAddress ↔ r.scope.address.isSome ∧ r.scope.service.isSome) ∧
        (g.level = .address ↔ r.scope.address.isSome ∧ r.scope.service = none) ∧
        (g.level = .service ↔ r.scope.address = none ∧ r.scope.service.isSome) ∧
        (g.level = .global ↔ r.scope.address = none ∧ r.scope.service = none)) ∧
      (found = none → g.terms = ⟨30, 1, 0, 60⟩ ∧ g.company? = some q.company ∧ g.id? = none ∧
        g.address? = none ∧ g.service? = none) := by
  refine ⟨_, _, resolve?_eq_ok.mpr ⟨rules, hr, hq, rfl⟩, governing_eq_ok.mpr ⟨rules, hr, hq, rfl⟩,
    Capacity.resolve?_eq_none_iff, fun r => Capacity.resolve?_eq_some_iff hu, fun r hfound => ?_,
    fun hfound => ?_⟩
  · have hg : Capacity.governing rules q = .ofRule r := by
      unfold Capacity.governing
      rw [hfound]
    rw [hg]
    exact ⟨rfl, r.scope.level_names⟩
  · have hg : Capacity.governing rules q = .standard (some q.company) := by
      unfold Capacity.governing
      rw [hfound]
    rw [hg]
    exact ⟨rfl, rfl, rfl, rfl, rfl⟩

/-- Rules of all levels for one company; 0 is an id like others. -/
def sampleRules : List Rule :=
  [⟨1, ⟨1, none, some 0⟩, .standard⟩, ⟨2, ⟨1, some 0, none⟩, .standard⟩,
    ⟨3, ⟨1, none, none⟩, .standard⟩, ⟨4, ⟨1, some 0, some 5⟩, .standard⟩]

/-- A rule for the address is preferred to one for the service. -/
theorem resolves_most_specific_sample : OnePerScope sampleRules ∧
    Store.resolve? ⟨none, some sampleRules, false⟩ ⟨1, some 0, some 0⟩ =
      .ok (some ⟨2, ⟨1, some 0, none⟩, .standard⟩) := by
  refine ⟨by decide, ?_⟩
  obtain ⟨found, -, hfound, -, -, hsome, -⟩ :=
    resolves_most_specific (s := ⟨none, some sampleRules, false⟩) rfl (by decide)
      (q := ⟨1, some 0, some 0⟩) (by decide)
  rw [hfound, (hsome ⟨2, ⟨1, some 0, none⟩, .standard⟩).mpr ⟨by decide, by decide, by decide⟩]

/-- A look-up whose id does not fit a column fails, although no rule applies to it. -/
theorem resolve_beyond_columns :
    Store.empty.rules = some [] ∧ OnePerScope [] ∧
      (∀ r ∈ ([] : List Rule), ¬ r.scope.AppliesTo ⟨0x8000000000000000, none, none⟩) ∧
      Store.empty.resolve? ⟨0x8000000000000000, none, none⟩ = .error .integerRange ∧
      Store.empty.governing ⟨0x8000000000000000, none, none⟩ = .error .integerRange :=
  ⟨rfl, by decide, by decide, rfl, rfl⟩

end Store

end SlotBooking
