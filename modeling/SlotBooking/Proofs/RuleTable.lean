import SlotBooking.Proofs.Contact
import SlotBooking.Proofs.Resolution

/-!
# The table of rules

Rules are added, changed and deleted, and ids of deleted ones are given again. Through all of this
no two rules have one id or one scope, and all terms stay within their ranges: a rule is only added
for a scope that has none, and terms are only stored after they were checked as a whole.

* `Capacity.Management.get_applyChanges`: what changes do to a draft, term by term.
* `Web.Request.ruleChanges_eq_ok`: the changes that a body makes are those that its members name.
* `Capacity.SoundRules`: what holds of the table; `Effect.rulesSound` is its preservation.
* `Store.serve_ruleTable`: the table after any contacts, and what one more contact does to it.
-/

namespace SlotBooking

/-! ## Changes by name -/

namespace Capacity

namespace Field

theorem name_inj {f g : Field} : f.name = g.name ↔ f = g := by
  cases f <;> cases g <;> decide

theorem ofName?_eq_some {s : String} {f : Field} : ofName? s = some f ↔ s = f.name := by
  constructor
  · intro h
    unfold ofName? at h
    have hname := List.find?_some h
    exact (eq_of_beq hname).symm
  · rintro rfl
    cases f <;> decide

end Field

theorem Draft.get_ofTerms (t : Terms) (f : Field) : (Draft.ofTerms t).get f = some (t.get f) := by
  cases f <;> rfl

namespace Management

/-- The value that changes give to a term, if they name it; the last one counts. -/
def changeOf? (changes : Changes) (f : Field) : Option (Option Int) :=
  changes.reverse.lookup f.name

theorem changeOf?_concat (changes : Changes) (name : String) (n : Option Int) (f : Field) :
    changeOf? (changes ++ [(name, n)]) f =
      if f.name = name then some n else changeOf? changes f := by
  unfold changeOf?
  rw [List.reverse_append, List.reverse_singleton, List.singleton_append, List.lookup_cons]
  by_cases h : f.name = name
  · simp [h]
  · rw [beq_eq_false_iff_ne.mpr h, if_neg h]

theorem applyChanges_concat (d : Draft) (changes : Changes) (name : String) (n : Option Int) :
    applyChanges d (changes ++ [(name, n)]) =
      match Field.ofName? name with
      | some f => (applyChanges d changes).set f n
      | none => applyChanges d changes := by
  unfold applyChanges
  rw [List.foldl_append]
  rfl

/-- Each term of a draft becomes what the changes give to it, and stays if they do not name it. -/
theorem get_applyChanges (d : Draft) (changes : Changes) (f : Field) :
    (applyChanges d changes).get f = (changeOf? changes f).getD (d.get f) := by
  induction changes using List.reverseRecOn with
  | nil => rfl
  | append_singleton changes c ih =>
    obtain ⟨name, n⟩ := c
    rw [changeOf?_concat, applyChanges_concat]
    cases hg : Field.ofName? name with
    | none =>
      have hne : f.name ≠ name := by
        intro h
        rw [Field.ofName?_eq_some.mpr h.symm] at hg
        cases hg
      rw [if_neg hne]
      exact ih
    | some g =>
      obtain rfl := Field.ofName?_eq_some.mp hg
      dsimp only
      rw [Draft.get_set]
      by_cases hfg : f = g
      · rw [if_pos hfg, if_pos (congrArg Field.name hfg)]
        rfl
      · rw [if_neg hfg, if_neg (fun h => hfg (Field.name_inj.mp h))]
        exact ih

end Management

end Capacity

namespace Web

open Capacity (Field)
open Capacity.Management (Changes changeOf?)
open Json.Lenient (int? nullable)

theorem Reading.map₂_eq_ok {α β γ : Type} {f : α → β → γ} {a : Reading α} {b : Reading β} {c : γ} :
    Reading.map₂ f a b = .ok c ↔ ∃ x y, a = .ok x ∧ b = .ok y ∧ f x y = c := by
  rcases a with p | x <;> rcases b with q | y <;> simp [Reading.map₂, Reading.both, Except.map]

theorem Reading.map_eq_ok {α β : Type} {f : α → β} {a : Reading α} {b : β} :
    a.map f = .ok b ↔ ∃ x, a = .ok x ∧ f x = b := by
  rcases a with p | x <;> simp [Except.map]

/-- What a body says of a term: nothing, or its value. -/
def Body.change? (b : Body) (f : Field) : Option (Option Int) :=
  match b with
  | .document j => (j.member? f.name).bind (nullable int?)
  | _ => none

namespace Request

theorem termChange_eq_ok {j : Json} {f : Field} {changes : Changes}
    (h : termChange j f = .ok changes) :
    changes = (((j.member? f.name).bind (nullable int?)).map fun n => (f.name, n)).toList := by
  unfold termChange at h
  split at h
  · rename_i hm
    cases h
    rw [hm]
    rfl
  · rename_i v hm
    unfold present at h
    rw [hm, Option.bind_some]
    cases hv : nullable int? v with
    | none =>
      rw [hv] at h
      cases h
    | some n =>
      rw [hv] at h
      cases h
      rfl

theorem foldr_termChange_eq_ok {j : Json} {fs : List Field} {changes : Changes}
    (h : fs.foldr (fun f rest => Reading.map₂ (· ++ ·) (termChange j f) rest) (.ok []) =
      .ok changes) (f : Field) :
    changeOf? changes f = if f ∈ fs then (j.member? f.name).bind (nullable int?) else none := by
  induction fs generalizing changes with
  | nil =>
    cases h
    rfl
  | cons g fs ih =>
    obtain ⟨first, rest, hg, hrest, rfl⟩ := Reading.map₂_eq_ok.mp h
    have hrest := ih hrest
    unfold changeOf? at hrest ⊢
    rw [termChange_eq_ok hg, List.reverse_append, List.lookup_append, hrest]
    by_cases hfg : f = g
    · subst hfg
      cases (j.member? f.name).bind (nullable int?) <;> by_cases hfs : f ∈ fs <;> simp [hfs]
    · have hne : (f.name == g.name) = false := by simpa [Field.name_inj] using hfg
      cases (j.member? g.name).bind (nullable int?) <;> simp [List.lookup_cons, hfg, hne]

/-- The changes that a request makes are those that its body names. -/
theorem ruleChanges_eq_ok {r : Request} {changes : Changes} (h : r.ruleChanges = .ok changes)
    (f : Field) : changeOf? changes f = r.content.change? f := by
  unfold ruleChanges bodyObject at h
  split at h
  · rename_i members hb
    rw [foldr_termChange_eq_ok h f, hb, if_pos (by cases f <;> decide)]
    rfl
  · cases h
  · cases h

theorem readOperation_of_operation {r : Request} {e : Endpoint} {op? : Option Operation}
    (h : r.operation e = .ok op?) : r.readOperation e = .ok op? := by
  unfold operation at h
  split at h
  · split at h
    · cases h
    · exact mapError_eq_ok.mp h
  · exact mapError_eq_ok.mp h

/-- A request that asks for a change of a rule makes the changes that its body names. -/
theorem changeOf?_of_asked {r : Request} {id user : Int} {changes : Changes}
    (h : r.asked? = some (.updateRule id user changes)) (f : Field) :
    changeOf? changes f = r.content.change? f := by
  obtain ⟨e, -, ho⟩ := asked?_eq_some.mp h
  have he := readOperation_of_operation ho
  cases e <;> simp only [readOperation, Reading.map₂_eq_ok, Reading.map_eq_ok] at he
  case updateRule id' =>
    obtain ⟨who, changes', -, hc, hop⟩ := he
    cases hop
    exact ruleChanges_eq_ok hc f
  case resolveRule | rule _ =>
    obtain ⟨x, -, hx⟩ := he
    cases hx
  case health => cases he
  all_goals
    obtain ⟨x, y, -, -, hxy⟩ := he
    cases hxy

end Request

end Web

open Capacity.Management (changeOf?) in
/-- What an inquiry for a change of a rule says of a term: nothing, or its value. -/
def Inquiry.change? (f : Capacity.Field) : Inquiry → Option (Option Int)
  | operation (.updateRule _ _ changes) => changeOf? changes f
  | operation _ => none
  | web r => r.content.change? f

open Capacity.Management (Changes changeOf?) in
theorem Inquiry.changeOf?_of_asked {i : Inquiry} {id user : Int} {changes : Changes}
    (h : i.asked? = some (.updateRule id user changes)) (f : Capacity.Field) :
    changeOf? changes f = i.change? f := by
  cases i with
  | operation op =>
    cases h
    rfl
  | web r => exact Web.Request.changeOf?_of_asked h f

/-! ## What holds of the table -/

namespace Capacity

/-- The rule of an id is the only one of that id. -/
theorem map_replace {rules : List Rule} (h : (rules.map (·.id)).Nodup) {r : Rule} (hr : r ∈ rules)
    (r' : Rule) : (rules.map fun a => if a.id = r.id then r' else a) =
      rules.map fun a => if a = r then r' else a := by
  refine List.map_congr_left fun a ha => ?_
  by_cases hid : a.id = r.id
  · rw [if_pos hid, if_pos (List.inj_on_of_nodup_map h ha hr hid)]
  · rw [if_neg hid, if_neg fun heq => hid (congrArg Rule.id heq)]

/-- No two rules have one id or one scope, and all terms are within their ranges. -/
structure SoundRules (rules : List Rule) : Prop where
  ids : (rules.map (·.id)).Nodup
  scopes : OnePerScope rules
  terms : ∀ r ∈ rules, r.terms.Permitted

namespace SoundRules

variable {rules : List Rule} {r : Rule} {t : Terms}

theorem nil : SoundRules [] := ⟨.nil, .nil, nofun⟩

/-- A rule is added under a new id, for a scope that has none. -/
theorem concat (h : SoundRules rules) {scope : Scope} (hn : ruleFor? rules scope = none)
    (ht : t.Permitted) :
    SoundRules (rules ++ [⟨Store.nextId (rules.map (·.id)), scope, t⟩]) where
  ids := by
    rw [List.map_append, List.nodup_append]
    refine ⟨h.ids, List.nodup_singleton _, fun i hi j hj hij => ?_⟩
    rw [List.mem_singleton.mp hj] at hij
    exact absurd hij (Int.ne_of_lt (Store.lt_nextId hi))
  scopes := h.scopes.concat hn
  terms := by
    intro r hr
    rcases List.mem_append.mp hr with hr | hr
    · exact h.terms r hr
    · rw [List.mem_singleton.mp hr]
      exact ht

/-- What does not depend on the terms is kept when they change. -/
theorem map_replace_terms {α : Type} (g : Rule → α) (hg : g { r with terms := t } = g r) :
    (rules.map fun a => if a = r then { r with terms := t } else a).map g = rules.map g := by
  rw [List.map_map]
  refine List.map_congr_left fun a _ => ?_
  by_cases h : a = r <;> simp [h, hg]

theorem replace (h : SoundRules rules) (ht : t.Permitted) :
    SoundRules (rules.map fun a => if a = r then { r with terms := t } else a) where
  ids := by
    rw [map_replace_terms (·.id) rfl]
    exact h.ids
  scopes := by
    unfold OnePerScope
    rw [map_replace_terms (·.scope) rfl]
    exact h.scopes
  terms := by
    intro b hb
    obtain ⟨a, ha, rfl⟩ := List.mem_map.mp hb
    split
    · exact ht
    · exact h.terms a ha

theorem filter (h : SoundRules rules) (p : Rule → Bool) : SoundRules (rules.filter p) where
  ids := h.ids.sublist (List.filter_sublist.map _)
  scopes := List.Nodup.sublist (List.filter_sublist.map _) h.scopes
  terms := fun r hr => h.terms r (List.mem_filter.mp hr).1

end SoundRules

end Capacity

/-! ## Runs -/

open Capacity (OnePerScope SoundRules)

/-- The table of rules is there, and sound. -/
def Store.RulesSound (s : Store) : Prop := ∃ rules, s.rules = some rules ∧ SoundRules rules

theorem Store.RulesSound.governing {s : Store} (h : s.RulesSound) {scope : Capacity.Scope}
    {g : Capacity.Governing} (hg : s.governing scope = .ok g) : g.terms.Permitted := by
  obtain ⟨rules, hr, hs⟩ := h
  obtain ht | ⟨rules', hr', r, hmem, ht⟩ := governing_terms hg
  · rw [ht]
    exact Capacity.Terms.permitted_standard
  · cases hr.symm.trans hr'
    rw [ht]
    exact hs.terms r hmem

theorem Store.eraseRule_rules {s : Store} {rules : List Capacity.Rule} (h : s.rules = some rules)
    (id : Int) : (s.eraseRule id).rules = some (rules.filter fun a => decide (a.id ≠ id)) := by
  simp [Store.eraseRule, h]

namespace Effect

variable {s s' : Store} {now : Instant} {k : Directory.Collaborators} {op : Operation}
  {out : Outcome}

open Capacity.Management (Changes changeOf?) in
/-- A change of a rule gives its terms the values that are named, and leaves all else. -/
theorem updated {id user : Int} {changes : Changes} {rules : List Capacity.Rule}
    (h : Effect s now k (.updateRule id user changes) out s') (hr : s.rules = some rules)
    (hids : (rules.map (·.id)).Nodup) :
    ∃ r ∈ rules, r.id = id ∧ ∃ t : Capacity.Terms, t.Permitted ∧
      (∀ f, some (t.get f) = (changeOf? changes f).getD (some (r.terms.get f))) ∧
      out = .rule { r with terms := t } ∧
      s'.rules = some (rules.map fun a => if a = r then { r with terms := t } else a) := by
  cases h with
  | read h => cases h
  | cancelled _ _ _ hop => cases hop
  | @ruleChanged _ _ _ r t _ hrule _ happly hp =>
    obtain ⟨rules', hr', -, hfind⟩ := Store.rule_eq_ok.mp hrule
    rw [hr] at hr'
    cases hr'
    have hmem := List.mem_of_find?_eq_some hfind
    have hid : r.id = id := by simpa using List.find?_some hfind
    refine ⟨r, hmem, hid, t, hp, fun f => ?_, rfl, ?_⟩
    · rw [← Capacity.Draft.get_ofTerms, ← Capacity.Draft.get_ofTerms, ← happly,
        Capacity.Management.get_applyChanges]
    · rw [← Capacity.map_replace hids hmem]
      simp [Store.putRule, hr]

theorem rulesSound (h : Effect s now k op out s') (hs : s.RulesSound) : s'.RulesSound := by
  obtain ⟨rules, hr, hsound⟩ := hs
  cases h with
  | read | cancelled | statusSet => exact ⟨rules, hr, hsound⟩
  | admitted _ _ ha =>
    obtain ⟨-, g, -, -, -, -, bs, -, taken, -, -, hadd⟩ := Admission.Order.admit_eq_ok.mp ha
    obtain ⟨rows, -, -, -, rfl⟩ := Store.addBooking_eq_ok.mp hadd
    exact ⟨rules, hr, hsound⟩
  | ruleAdded _ _ _ ht hr' hn =>
    rw [hr] at hr'
    cases hr'
    exact ⟨_, rfl, hsound.concat hn ht⟩
  | ruleChanged hl hrule hm happly hp =>
    have h : Effect s now k _ _ _ := .ruleChanged hl hrule hm happly hp
    obtain ⟨r, -, -, t, ht, -, -, hrules⟩ := h.updated hr hsound.ids
    exact ⟨_, hrules, hsound.replace ht⟩
  | ruleErased | ruleErasedFor =>
    exact ⟨_, Store.eraseRule_rules hr _, hsound.filter _⟩

end Effect

namespace Store

theorem run_rulesSound {s : Store} (hs : s.RulesSound) (es : List Event) :
    (s.run es).RulesSound := by
  induction es using List.reverseRecOn with
  | nil => exact hs
  | append_singleton es e ih =>
    rw [run_concat]
    obtain ⟨f, -, h⟩ | ⟨out, -, h⟩ := e.next_cases (s.run es)
    · rw [h]
      exact ih
    · exact h.rulesSound ih

theorem serve_rulesSound {s : Store} (hs : s.RulesSound) (cs : List Contact) :
    (s.serve cs).RulesSound := by
  obtain ⟨es, locked, h⟩ := s.exists_run_of_serve cs
  rw [h]
  exact run_rulesSound hs es

/-- **Rule table.** Whatever contacts a service has had since its table of rules was empty, no two
rules have one id or one scope, and all terms are within their ranges. One more contact that fails
leaves the table. One that succeeds in changing a rule gives exactly the terms that it names the
values that it names for them, and leaves the other terms of the rule, its id and scope, and all
other rules. -/
theorem serve_ruleTable (bookings : Option (List Booking)) (locked : Bool) (cs : List Contact) :
    ∃ rules, (serve ⟨bookings, some [], locked⟩ cs).rules = some rules ∧
      (rules.map (·.id)).Nodup ∧ (rules.map (·.scope)).Nodup ∧
      (∀ r ∈ rules, (1 ≤ r.terms.slotMinutes ∧ r.terms.slotMinutes ≤ 480) ∧
        (1 ≤ r.terms.maxConcurrent ∧ r.terms.maxConcurrent ≤ 100) ∧
        (0 ≤ r.terms.advanceDays ∧ r.terms.advanceDays ≤ 365) ∧
        (0 ≤ r.terms.noticeMinutes ∧ r.terms.noticeMinutes ≤ 10080)) ∧
      ∀ c : Contact,
        (¬ c.Succeeds (serve ⟨bookings, some [], locked⟩ cs) →
          (c.next (serve ⟨bookings, some [], locked⟩ cs)).rules = some rules) ∧
        ∀ id user changes, c.inquiry.asked? = some (.updateRule id user changes) →
          c.Succeeds (serve ⟨bookings, some [], locked⟩ cs) →
          ∃ r ∈ rules, r.id = id ∧ ∃ t : Capacity.Terms,
            (∀ f, some (t.get f) = (c.inquiry.change? f).getD (some (r.terms.get f))) ∧
            (c.next (serve ⟨bookings, some [], locked⟩ cs)).rules =
              some (rules.map fun a => if a = r then { r with terms := t } else a) := by
  obtain ⟨rules, hr, hs⟩ := serve_rulesSound (s := ⟨bookings, some [], locked⟩) ⟨[], rfl, .nil⟩ cs
  refine ⟨rules, hr, hs.ids, hs.scopes, fun r hmem => ?_, fun c => ⟨fun hc => ?_, ?_⟩⟩
  · have hp := hs.terms r hmem
    exact ⟨hp .slotMinutes, hp .maxConcurrent, hp .advanceDays, hp .noticeMinutes⟩
  · rw [Contact.next_of_not_succeeds hc]
    exact hr
  · intro id user changes hask hc
    obtain ⟨out, hout⟩ := (Contact.succeeds_iff hask).mp hc
    obtain ⟨f, hf, -⟩ | ⟨out, -, heffect⟩ := (c.event _).next_cases (serve _ cs)
    · rw [hout] at hf
      cases hf
    · obtain ⟨r, hmem, hid, t, -, hterms, -, hrules⟩ := heffect.updated hr hs.ids
      refine ⟨r, hmem, hid, t, fun f => ?_, ?_⟩
      · rw [hterms, Inquiry.changeOf?_of_asked hask]
      · rw [Contact.next_of_asked hask]
        exact hrules

/-- A contact at eight on a Monday, when user 7 manages company 1. -/
def managerContact (i : Inquiry) : Contact where
  inquiry := i
  now := (Instant.ofText? "2026-03-02T08:00:00").get (by decide +kernel)
  collaborators := {
    answer := fun _ => .reply 200 (.ok (Directory.Company.toJson ⟨1, "", [], {}, [7]⟩))
    cache := { ttl := 0 } }
  writeLocked := false

/-- A web request changes the one term that it names, and passes over what is no term. -/
example :
    (empty.serve [
      managerContact (.operation (.createRule 7 ⟨1, none, none⟩ (.ofTerms ⟨30, 1, 14, 60⟩))),
      managerContact (.web {
        method := "PATCH"
        path := "/configs/1"
        headers := [("x-user-id", "7")]
        body := .document (.obj [("max_concurrent_bookings", .int 3), ("colour", .null)]) })]).rules =
      some [⟨1, ⟨1, none, none⟩, ⟨30, 3, 14, 60⟩⟩] := by
  decide +kernel

end Store

end SlotBooking
