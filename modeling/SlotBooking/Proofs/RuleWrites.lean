import SlotBooking.Proofs.Admission
import SlotBooking.Proofs.RuleTable

/-!
# What a change of the rules does to look-ups

A new rule takes over the look-ups to which it applies and for which only a less specific rule was
found, or none; all others stay as they are. Deleting it again gives them back. A change of the
terms of a rule is seen by the look-ups that find it, and by no others.

* `Capacity.TakesOver`: the look-ups that a new rule takes over.
* `Capacity.resolve?_concat`, `Capacity.resolve?_map`: what is found after a rule was added, and
  after rules were changed in place.
* `Effect.created`, `Effect.deleted`: what is left of the table.
* `rule_writes_effect`: the main statement.
-/

namespace SlotBooking

namespace Capacity

variable {rules : List Rule} {q s t : Scope} {r : Rule}

/-! ## What is found -/

/-- Of the scopes that apply to one look-up no two are of one rank. -/
theorem Scope.AppliesTo.eq_of_rank_eq (hs : s.AppliesTo q) (ht : t.AppliesTo q)
    (h : s.level.rank = t.level.rank) : s = t := by
  have hranks : (q.candidates.map (·.level.rank)).Nodup :=
    List.pairwise_map.mpr (q.candidates_pairwise.imp fun hlt => Nat.ne_of_gt hlt)
  exact List.inj_on_of_nodup_map hranks (mem_candidates.mpr hs) (mem_candidates.mpr ht) h

/-- A rule of this scope would take over a look-up: it is probed, and what is found so far, if
anything, is at a level that is less specific. -/
def TakesOver (rules : List Rule) (s q : Scope) : Prop :=
  s ∈ q.candidates ∧ ∀ a, resolve? rules q = some a → a.scope.level.rank < s.level.rank

instance (rules : List Rule) (s q : Scope) : Decidable (TakesOver rules s q) :=
  match h : resolve? rules q with
  | none => decidable_of_iff (s ∈ q.candidates) (by simp [TakesOver, h])
  | some a => decidable_of_iff (s ∈ q.candidates ∧ a.scope.level.rank < s.level.rank)
      (by simp [TakesOver, h])

/-- A rule for a scope that had none is found by the look-ups that it takes over, and by no
others. -/
theorem resolve?_concat (hu : OnePerScope rules) (hn : ruleFor? rules r.scope = none) :
    resolve? (rules ++ [r]) q =
      if TakesOver rules r.scope q then some r else resolve? rules q := by
  have hu' := hu.concat hn
  split
  · rename_i h
    refine (resolve?_eq_some_iff hu').mpr ⟨by simp, Scope.mem_candidates.mp h.1, ?_⟩
    intro a ha happ hne
    have ha : a ∈ rules := (List.mem_append.mp ha).resolve_right fun h =>
      hne (List.mem_singleton.mp h)
    cases hfound : resolve? rules q with
    | none => exact absurd happ (resolve?_eq_none_iff.mp hfound a ha)
    | some b =>
      have hb := governs_of_resolve? hu hfound
      have hlt := h.2 b hfound
      by_cases hab : a = b
      · rwa [hab]
      · have hlt' := hb.most_specific a ha happ hab
        omega
  · rename_i h
    cases hfound : resolve? rules q with
    | none =>
      have hout : ¬ r.scope.AppliesTo q := fun happ =>
        h ⟨Scope.mem_candidates.mpr happ, by simp [hfound]⟩
      refine resolve?_eq_none_iff.mpr fun a ha => ?_
      rcases List.mem_append.mp ha with ha | ha
      · exact resolve?_eq_none_iff.mp hfound a ha
      · rwa [List.mem_singleton.mp ha]
    | some b =>
      have hb := governs_of_resolve? hu hfound
      refine (resolve?_eq_some_iff hu').mpr ⟨by simp [hb.mem], hb.applies, fun a ha happ hne => ?_⟩
      rcases List.mem_append.mp ha with ha | ha
      · exact hb.most_specific a ha happ hne
      · -- Another rule that applies is not as specific, so it is less specific or takes over.
        rw [List.mem_singleton.mp ha] at happ ⊢
        apply Decidable.byContradiction
        intro hnot
        have hrank : b.scope.level.rank ≠ r.scope.level.rank := fun hrank =>
          ruleFor?_eq_none_iff.mp hn b hb.mem (hb.applies.eq_of_rank_eq happ hrank)
        refine h ⟨Scope.mem_candidates.mpr happ, fun c hc => ?_⟩
        cases hfound.symm.trans hc
        omega

/-- Rules that are changed in place, each under its scope, are found as before. -/
theorem resolve?_map {f : Rule → Rule} (hf : ∀ a, (f a).scope = a.scope) :
    resolve? (rules.map f) q = (resolve? rules q).map f := by
  have hfor : ruleFor? (rules.map f) = fun s => (ruleFor? rules s).map f := by
    funext s
    unfold ruleFor?
    rw [List.find?_map]
    simp only [Function.comp_def, hf]
  unfold resolve?
  rw [hfor, List.map_findSome?]
  rfl

end Capacity

/-! ## What is left of the table -/

open Capacity (OnePerScope Rule Scope TakesOver)
open Capacity.Management (Changes changeOf?)

namespace Effect

variable {s s' : Store} {now : Instant} {k : Directory.Collaborators} {op : Operation}
  {out : Outcome} {rules : List Rule} {user : Int} {scope : Scope}

/-- A new rule is added under a new id, for a scope that had none. -/
theorem created {d : Capacity.Draft} (h : Effect s now k (.createRule user scope d) out s')
    (hr : s.rules = some rules) : ∃ t, d = .ofTerms t ∧ Capacity.ruleFor? rules scope = none ∧
      out = .rule ⟨Store.nextId (rules.map (·.id)), scope, t⟩ ∧
      s'.rules = some (rules ++ [⟨Store.nextId (rules.map (·.id)), scope, t⟩]) := by
  cases h with
  | read h => cases h
  | cancelled _ _ _ hop => cases hop
  | ruleAdded _ _ hd _ hr' hn =>
    cases hr.symm.trans hr'
    exact ⟨_, hd, hn, rfl, rfl⟩

/-- Deleting the rule that was added last, by its scope or by its id, leaves the rules that there
were before. -/
theorem deleted {r : Rule} (h : Effect s now k op out s') (hr : s.rules = some (rules ++ [r]))
    (hu : OnePerScope (rules ++ [r])) (hid : r.id = Store.nextId (rules.map (·.id)))
    (hop : op = .deleteRuleFor r.scope user ∨ op = .deleteRule r.id user) :
    s'.rules = some rules := by
  have herase (i : Int) (hi : i = r.id) : (s.eraseRule i).rules = some rules := by
    have hkeep : rules.filter (fun a => decide (a.id ≠ i)) = rules := by
      refine List.filter_eq_self.mpr fun a ha => decide_eq_true ?_
      have := Store.lt_nextId (List.mem_map_of_mem (f := (·.id)) ha)
      omega
    rw [Store.eraseRule_rules hr, List.filter_append, hkeep, List.filter_cons_of_neg (by simp [hi]),
      List.filter_nil, List.append_nil]
  cases h with
  | read h => rcases hop with rfl | rfl <;> cases h
  | cancelled _ _ _ hcancels => rcases hop with rfl | rfl <;> cases hcancels
  | admitted | statusSet | ruleAdded | ruleChanged => rcases hop with h | h <;> cases h
  | @ruleErased id user' r' _ hrule =>
    rcases hop with h | h <;> cases h
    obtain ⟨rules', -, -, hfind⟩ := Store.rule_eq_ok.mp hrule
    exact herase r'.id (by simpa using List.find?_some hfind)
  | @ruleErasedFor user' scope r' rules' _ _ hr' hfor =>
    rcases hop with h | h <;> cases h
    cases hr.symm.trans hr'
    obtain ⟨hmem, hscope⟩ := Capacity.ruleFor?_eq_some hfor
    exact herase r'.id (congrArg Rule.id (hu.eq_of_scope_eq hmem (by simp) hscope))

end Effect

/-! ## What the store answers -/

namespace Store

variable {s s' : Store} {rules : List Rule} {q : Scope} {r : Rule}

theorem governing_eq_of_rules (hr : s.rules = some rules) (q : Scope) : s.governing q =
    if ∀ n ∈ q.ids, Storable n then .ok (Capacity.governing rules q) else .error .integerRange := by
  unfold governing requireStorable
  rw [hr]
  split <;> rfl

/-- After a rule was added, exactly the look-ups that it takes over are answered by it, and all
others as before. -/
theorem governing_concat (hr : s.rules = some rules) (hr' : s'.rules = some (rules ++ [r]))
    (hu : OnePerScope rules) (hn : Capacity.ruleFor? rules r.scope = none) (q : Scope) :
    s'.governing q = if (∀ n ∈ q.ids, Storable n) ∧ TakesOver rules r.scope q then .ok (.ofRule r)
      else s.governing q := by
  rw [governing_eq_of_rules hr, governing_eq_of_rules hr']
  unfold Capacity.governing
  rw [Capacity.resolve?_concat hu hn]
  by_cases hids : ∀ n ∈ q.ids, Storable n
  · by_cases hover : TakesOver rules r.scope q
    · rw [if_pos hids, if_pos hover, if_pos ⟨hids, hover⟩]
    · rw [if_pos hids, if_neg hover, if_neg fun h => hover h.2, if_pos hids]
  · rw [if_neg hids, if_neg fun h => hids h.1, if_neg hids]

/-- What a look-up found so far is not the rule that takes it over. -/
theorem governing_ne_ofRule (hr : s.rules = some rules) (hover : TakesOver rules r.scope q) :
    s.governing q ≠ .ok (.ofRule r) := by
  intro hg
  obtain ⟨rules', hr', -, hg⟩ := governing_eq_ok.mp hg
  cases hr.symm.trans hr'
  unfold Capacity.governing at hg
  cases hfound : Capacity.resolve? rules q with
  | none =>
    rw [hfound] at hg
    exact nomatch congrArg (·.origin) hg
  | some a =>
    rw [hfound] at hg
    have hscope : r.scope = a.scope := by
      have horigin := congrArg (·.origin) hg
      injection horigin
    have hlt := hover.2 a hfound
    rw [hscope] at hlt
    exact Nat.lt_irrefl _ hlt

/-- After the terms of a rule were changed, the look-ups that find it are answered with the new
ones, and all others as before. -/
theorem governing_replace {t : Capacity.Terms} (hr : s.rules = some rules)
    (hr' : s'.rules = some (rules.map fun a => if a = r then { r with terms := t } else a))
    (q : Scope) : s'.governing q = if s.resolve? q = .ok (some r)
      then .ok (.ofRule { r with terms := t }) else s.governing q := by
  have hresolve : Capacity.resolve? (rules.map fun a => if a = r then { r with terms := t } else a)
      q = (Capacity.resolve? rules q).map fun a => if a = r then { r with terms := t } else a := by
    refine Capacity.resolve?_map fun a => ?_
    split
    · rename_i h
      rw [h]
    · rfl
  have hfound : s.resolve? q = .ok (some r) ↔
      (∀ n ∈ q.ids, Storable n) ∧ Capacity.resolve? rules q = some r := by
    rw [resolve?_eq_ok]
    constructor
    · rintro ⟨rules', hrules', hids, hq⟩
      cases hr.symm.trans hrules'
      exact ⟨hids, hq.symm⟩
    · rintro ⟨hids, hq⟩
      exact ⟨rules, hr, hids, hq.symm⟩
  rw [governing_eq_of_rules hr, governing_eq_of_rules hr']
  simp only [hfound]
  unfold Capacity.governing
  rw [hresolve]
  by_cases hids : ∀ n ∈ q.ids, Storable n
  · rw [if_pos hids, if_pos hids]
    cases hq : Capacity.resolve? rules q with
    | none => simp
    | some a =>
      by_cases ha : a = r
      · rw [ha, if_pos ⟨hids, rfl⟩]
        simp
      · rw [if_neg fun h => ha (Option.some.inj h.2)]
        simp [ha]
  · rw [if_neg hids, if_neg hids, if_neg fun h => hids h.1]

end Store

/-- A world with these rules, where user 7 manages company 1 with its address 1. -/
def managedWorld (rules : List Rule) : World where
  store := ⟨some [], some rules, false⟩
  now := (Admission.sampleWorld "" false).now
  collaborators := {
    answer := fun _ =>
      .reply 200 (.ok (Directory.Company.toJson ⟨1, "", [⟨1, none, none⟩], {}, [7]⟩))
    cache := { ttl := 0 } }

/-- A rule for the company and one for a service. -/
def companyRules : List Rule := [⟨1, ⟨1, none, none⟩, .standard⟩, ⟨2, ⟨1, none, some 5⟩, .standard⟩]

/-- A rule for the address is created. -/
def creation : Operation := .createRule 7 ⟨1, some 1, none⟩ (.ofTerms .standard)

/-- The rule for the service is changed. -/
def change : Operation := .updateRule 2 7 [("max_concurrent_bookings", some 3)]

theorem creation_done : ((managedWorld companyRules).perform creation).1 =
    .ok (.rule ⟨3, ⟨1, some 1, none⟩, .standard⟩) := rfl

theorem creation_undone :
    (((managedWorld companyRules).perform creation).2.perform (.deleteRule 3 7)).1 =
      .ok .nothing := rfl

theorem change_done : ∃ out, ((managedWorld companyRules).perform change).1 = .ok out := by
  have hok : ((managedWorld companyRules).perform change).1.isOk := by decide +kernel
  cases h : ((managedWorld companyRules).perform change).1 with
  | ok out => exact ⟨out, rfl⟩
  | error f =>
    rw [h] at hok
    cases hok

/-- **What writes to the rules do to look-ups.** In a table without two rules of one id or scope: of
the look-ups whose ids fit, a rule that is created changes the answer of exactly those for which it
is probed and only a less specific rule was found, or none, and they are answered by it; no look-up
of another company is answered otherwise than before. Deleting it, by its scope or by its id, gives
every look-up its former answer. A change of a rule leaves every look-up that does not find it, and
for those that do it sets exactly the terms that it names. -/
theorem rule_writes_effect {w : World} {rules : List Rule} (hr : w.store.rules = some rules)
    (hids : (rules.map (·.id)).Nodup) (hu : OnePerScope rules) :
    (∀ user scope draft out, (w.perform (.createRule user scope draft)).1 = .ok out →
      ∃ r, out = .rule r ∧ r.scope = scope ∧ draft = .ofTerms r.terms ∧
        (∀ q, (∀ n ∈ q.ids, Store.Storable n) →
          ((w.perform (.createRule user scope draft)).2.store.governing q ≠
            w.store.governing q ↔ TakesOver rules scope q) ∧
          (TakesOver rules scope q →
            (w.perform (.createRule user scope draft)).2.store.governing q = .ok (.ofRule r))) ∧
        (∀ q, q.company ≠ scope.company →
          (w.perform (.createRule user scope draft)).2.store.governing q = w.store.governing q) ∧
        ∀ (w' : World) (user' : Int) (op : Operation) (out' : Outcome),
          w'.store.rules = (w.perform (.createRule user scope draft)).2.store.rules →
          op = .deleteRuleFor scope user' ∨ op = .deleteRule r.id user' →
          (w'.perform op).1 = .ok out' →
          ∀ q, (w'.perform op).2.store.governing q = w.store.governing q) ∧
    ∀ id user changes out, (w.perform (.updateRule id user changes)).1 = .ok out →
      ∃ r ∈ rules, ∃ t, r.id = id ∧ out = .rule { r with terms := t } ∧
        (∀ f, some (t.get f) = (changeOf? changes f).getD (some (r.terms.get f))) ∧
        ∀ q, (w.perform (.updateRule id user changes)).2.store.governing q =
          if w.store.resolve? q = .ok (some r) then .ok (.ofRule { r with terms := t })
          else w.store.governing q := by
  refine ⟨fun user scope draft out hout => ?_, fun id user changes out hout => ?_⟩
  · obtain ⟨t, rfl, hn, rfl, hr'⟩ := (World.effect_of_ok hout).created hr
    have hgoverning := Store.governing_concat hr hr' hu hn
    refine ⟨_, rfl, rfl, rfl, fun q hfits => ⟨⟨fun hne => ?_, fun hover => ?_⟩, fun hover => ?_⟩,
      fun q hne => ?_, ?_⟩
    · apply Decidable.byContradiction
      intro hnot
      rw [hgoverning, if_neg fun h => hnot h.2] at hne
      exact hne rfl
    · rw [hgoverning, if_pos ⟨hfits, hover⟩]
      exact (Store.governing_ne_ofRule hr hover).symm
    · rw [hgoverning, if_pos ⟨hfits, hover⟩]
    · rw [hgoverning, if_neg fun h => hne (Scope.mem_candidates.mp h.2.1).1.symm]
    · intro w' user' op out' hw' hop hdone q
      rw [hr'] at hw'
      have hback := (World.effect_of_ok hdone).deleted hw' (hu.concat hn) rfl hop
      rw [Store.governing_congr (hback.trans hr.symm)]
  · obtain ⟨r, hmem, hid, t, -, hterms, hout, hr'⟩ := (World.effect_of_ok hout).updated hr hids
    exact ⟨r, hmem, t, hid, hout, hterms, Store.governing_replace hr hr'⟩

/-- The rule for the address takes over from the one for the service, is deleted again, and instead
of that the rule for the service is changed. -/
theorem rule_writes_effect_sample :
    (managedWorld companyRules).store.governing ⟨1, some 1, some 5⟩ =
      .ok (.ofRule ⟨2, ⟨1, none, some 5⟩, .standard⟩) ∧
    ((managedWorld companyRules).perform creation).2.store.governing ⟨1, some 1, some 5⟩ =
      .ok (.ofRule ⟨3, ⟨1, some 1, none⟩, .standard⟩) ∧
    (((managedWorld companyRules).perform creation).2.perform
      (.deleteRule 3 7)).2.store.governing ⟨1, some 1, some 5⟩ =
      .ok (.ofRule ⟨2, ⟨1, none, some 5⟩, .standard⟩) ∧
    ∃ t, t.maxConcurrent = 3 ∧
      ((managedWorld companyRules).perform change).2.store.governing ⟨1, some 1, some 5⟩ =
        .ok (.ofRule ⟨2, ⟨1, none, some 5⟩, t⟩) := by
  have hq : (managedWorld companyRules).store.governing ⟨1, some 1, some 5⟩ =
      .ok (.ofRule ⟨2, ⟨1, none, some 5⟩, .standard⟩) := rfl
  obtain ⟨hcreate, hchange⟩ := rule_writes_effect (w := managedWorld companyRules) rfl (by decide)
    (by decide)
  obtain ⟨r, hr, -, -, htaken, -, hback⟩ := hcreate 7 _ _ _ creation_done
  cases hr
  obtain ⟨out, hout⟩ := change_done
  obtain ⟨r, hmem, t, hid, -, hterms, hread⟩ := hchange 2 7 _ _ hout
  have hrule : r = ⟨2, ⟨1, none, some 5⟩, .standard⟩ := by
    rcases List.mem_cons.mp hmem with rfl | hmem
    · cases hid
    · exact List.mem_singleton.mp hmem
  subst hrule
  refine ⟨hq, (htaken _ (by decide)).2 (by decide), ?_, t, ?_, ?_⟩
  · exact (hback _ 7 (.deleteRule 3 7) _ rfl (.inr rfl) creation_undone _).trans hq
  · exact Option.some.inj (hterms .maxConcurrent)
  · exact (hread ⟨1, some 1, some 5⟩).trans (if_pos rfl)

/-- A look-up whose id does not fit a column fails before and after, although the new rule is probed
for it and no other rule applies. -/
theorem rule_beyond_columns :
    ((managedWorld []).perform (.createRule 7 ⟨1, none, none⟩ (.ofTerms .standard))).1 =
      .ok (.rule ⟨1, ⟨1, none, none⟩, .standard⟩) ∧
    TakesOver [] ⟨1, none, none⟩ ⟨1, some 0x8000000000000000, none⟩ ∧
    (managedWorld []).store.governing ⟨1, some 0x8000000000000000, none⟩ = .error .integerRange ∧
    ((managedWorld []).perform
      (.createRule 7 ⟨1, none, none⟩ (.ofTerms .standard))).2.store.governing
        ⟨1, some 0x8000000000000000, none⟩ = .error .integerRange :=
  ⟨rfl, by decide, rfl, rfl⟩

end SlotBooking
