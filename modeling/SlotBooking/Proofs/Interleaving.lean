import SlotBooking.Proofs.Authority

/-!
# Interleaved writes of rules

A request to write rules is checked first, and its transaction comes later; in between, transactions
of other requests may write. A request to change or to delete a rule names it by its id alone, and
an id may be given again after its rule was deleted. So the transaction may meet another rule than
the check did, and only then may it write for a company whose managers the check did not ask for.

* `Request.check`, `Transaction.run`: the two steps of a request, which together are the operation
  (`Request.run_operation`).
* `Sessions`, `Move`: requests in progress, and what may happen next.
* `Transaction.run_cases`: what a transaction does to the table.
* `Sessions.run_keeps_scope`: under its id a rule keeps its scope, until it is deleted.
* `Sessions.interleaved_authorized`: the main statement.
* `Sessions.writes_for_other_company`: a transaction that meets another rule.
-/

namespace SlotBooking

/-- The store holds a rule of that scope under an id. -/
def Store.HoldsUnder (s : Store) (id : Int) (scope : Capacity.Scope) : Prop :=
  ∃ r, s.HasRule r ∧ r.id = id ∧ r.scope = scope

/-- The store holds no rule under an id. -/
def Store.LacksRule (s : Store) (id : Int) : Prop := ∀ r, s.HasRule r → r.id ≠ id

namespace Capacity.Management

open Directory (Collaborators Lookup)
open Lifecycle (Manages)

/-! ## Two steps -/

/-- A request to write rules. -/
inductive Request where
  | create (scope : Scope) (draft : Draft)
  | update (id : Int) (changes : Changes)
  | delete (id : Int)
  | deleteFor (scope : Scope)

/-- The transaction of a request that was checked. -/
inductive Transaction where
  | create (scope : Scope) (terms : Terms)
  | update (id : Int) (changes : Changes)
  | delete (id : Int)
  | deleteFor (scope : Scope)

/-- The check of a user's request, which ends with its transaction. -/
def Request.check (s : Store) (user : Int) : Request → Lookup Failure Transaction
  | create scope draft => do return .create scope (← checkCreate user scope draft)
  | update id changes => do
    checkUpdate s id user changes
    return .update id changes
  | delete id => do
    checkDelete s id user
    return .delete id
  | deleteFor scope => do
    let _ ← Directory.fetchManaged scope.company user
    return .deleteFor scope

/-- The store after a transaction. -/
def Transaction.run (s : Store) : Transaction → Except Failure Store
  | create scope terms => do return (← commitCreate s scope terms).2
  | update id changes => do return (← commitUpdate s id changes).2
  | delete id => commitDelete s id
  | deleteFor scope => commitDeleteFor s scope

/-- The operation that a user's request is. -/
def Request.operation (user : Int) : Request → Operation
  | create scope draft => .createRule user scope draft
  | update id changes => .updateRule id user changes
  | delete id => .deleteRule id user
  | deleteFor scope => .deleteRuleFor scope user

/-- The rule that a transaction names by its id. -/
def Transaction.id? : Transaction → Option Int
  | update id _ | delete id => some id
  | create .. | deleteFor _ => none

/-- The transaction is for that rule. -/
def Transaction.Names (r : Rule) : Transaction → Prop
  | create .. => False
  | update id _ | delete id => r.id = id
  | deleteFor scope => r.scope = scope

section Steps

variable {s s' : Store} {k : Collaborators} {user : Int} {q : Request} {t : Transaction} {r : Rule}

/-- A request of which the transaction follows the check at once is the operation. -/
theorem Request.run_operation (s : Store) (now : Instant) (k : Collaborators) (user : Int)
    (q : Request) : (((q.operation user).run s now).value k).map (·.2) =
      (q.check s user).value k >>= fun t => t.run s := by
  cases q with
  | create scope draft =>
    simp only [operation, Operation.run, Management.create, check, Lookup.value_bind,
      Lookup.value_lift, Lookup.value_pure]
    cases (checkCreate user scope draft).value k with
    | error f => rfl
    | ok terms =>
      simp only [ok_bind, Transaction.run]
      cases commitCreate s scope terms <;> rfl
  | update id changes =>
    simp only [operation, Operation.run, Management.update, check, Lookup.value_bind,
      Lookup.value_lift, Lookup.value_pure]
    cases (checkUpdate s id user changes).value k with
    | error f => rfl
    | ok =>
      simp only [ok_bind, Transaction.run]
      cases commitUpdate s id changes <;> rfl
  | delete id =>
    simp only [operation, Operation.run, Management.delete, check, Lookup.value_bind,
      Lookup.value_lift, Lookup.value_pure]
    cases (checkDelete s id user).value k with
    | error f => rfl
    | ok =>
      simp only [ok_bind, Transaction.run]
      cases commitDelete s id <;> rfl
  | deleteFor scope =>
    simp only [operation, Operation.run, Management.deleteFor, check, Lookup.value_bind,
      Lookup.value_lift, Lookup.value_pure]
    cases (Directory.fetchManaged scope.company user).value k with
    | error f => rfl
    | ok =>
      simp only [ok_bind, Transaction.run]
      cases commitDeleteFor s scope <;> rfl

/-- What a transaction does to the table: it adds a rule under a new id, or it changes the terms of
a rule that it is for, or deletes one. -/
theorem Transaction.run_cases (hs : s.Keyed) (h : t.run s = .ok s') :
    ∃ rules, s.rules = some rules ∧
      ((∃ scope terms, s' = { s with
          rules := some (rules ++ [⟨Store.nextId (rules.map (·.id)), scope, terms⟩]) }) ∨
        (∃ r ∈ rules, t.Names r ∧ ∃ terms, s' = { s with
          rules := some (rules.map fun a => if a = r then { r with terms } else a) }) ∨
        ∃ r ∈ rules, t.Names r ∧ s' = { s with
          rules := some (rules.filter fun a => decide (a.id ≠ r.id)) }) := by
  have herase {rules : List Rule} (hr : s.rules = some rules) (id : Int) :
      s.eraseRule id = { s with rules := some (rules.filter fun a => decide (a.id ≠ id)) } := by
    simp [Store.eraseRule, hr]
  cases t with
  | create scope terms =>
    obtain ⟨⟨r, s₁⟩, hc, h⟩ := bind_eq_ok.mp h
    cases h
    obtain ⟨-, rules, hr, -, -, rfl, rfl⟩ := commitCreate_ok hc
    exact ⟨rules, hr, .inl ⟨scope, terms, rfl⟩⟩
  | update id changes =>
    obtain ⟨⟨r', s₁⟩, hc, h⟩ := bind_eq_ok.mp h
    cases h
    obtain ⟨-, r, terms, hrule, -, -, rfl, rfl⟩ := commitUpdate_ok hc
    obtain ⟨rules, hr, hmem, hid⟩ := Store.rule_mem hrule
    refine ⟨rules, hr, .inr (.inl ⟨r, hmem, hid, terms, ?_⟩)⟩
    rw [← Effect.putRule_rows hr hs hmem]
    rfl
  | delete id =>
    obtain ⟨-, r, hrule, rfl⟩ := commitDelete_ok h
    obtain ⟨rules, hr, hmem, hid⟩ := Store.rule_mem hrule
    exact ⟨rules, hr, .inr (.inr ⟨r, hmem, hid, herase hr r.id⟩)⟩
  | deleteFor scope =>
    obtain ⟨-, rules, r, hr, hf, rfl⟩ := commitDeleteFor_ok h
    obtain ⟨hmem, hscope⟩ := Capacity.ruleFor?_eq_some hf
    exact ⟨rules, hr, .inr (.inr ⟨r, hmem, hscope, herase hr r.id⟩)⟩

/-- A rule that a transaction names by its id has this id. -/
theorem Transaction.Names.id_eq {id : Int} (hn : t.Names r) (hid : t.id? = some id) :
    r.id = id := by
  cases t with
  | create | deleteFor => cases hid
  | update | delete =>
    cases hid
    exact hn

/-- A transaction keeps ids unique. -/
theorem Transaction.run_keyed (hs : s.Keyed) (h : t.run s = .ok s') : s'.Keyed := by
  obtain ⟨rules, hr, ⟨scope, terms, rfl⟩ | ⟨r, hmem, -, terms, rfl⟩ | ⟨r, hmem, -, rfl⟩⟩ :=
    run_cases hs h
  all_goals
    refine ⟨hs.bookings, ?_⟩
    rintro _ ⟨⟩
  · rw [List.map_append]
    exact Store.nodup_concat_nextId (hs.rules rules hr)
  · rw [SoundRules.map_replace_terms (·.id) rfl]
    exact hs.rules rules hr
  · exact (hs.rules rules hr).sublist (List.filter_sublist.map _)

/-- A rule that is changed or deleted is one that the transaction is for. -/
theorem Transaction.names_of_lost (hs : s.Keyed) (h : t.run s = .ok s') (hr : s.HasRule r)
    (hlost : ¬ s'.HasRule r) : t.Names r := by
  obtain ⟨rules, hrules, ⟨scope, terms, rfl⟩ | ⟨r', hmem, hnames, terms, rfl⟩ |
    ⟨r', hmem, hnames, rfl⟩⟩ := run_cases hs h
  all_goals
    rw [Store.hasRule_iff hrules] at hr
    rw [Store.hasRule_iff rfl] at hlost
  · exact absurd (List.mem_append_left _ hr) hlost
  · by_cases heq : r = r'
    · exact heq ▸ hnames
    · refine absurd (List.mem_map.mpr ⟨r, hr, ?_⟩) hlost
      exact if_neg heq
  · by_cases hid : r.id = r'.id
    · exact List.inj_on_of_nodup_map (hs.rules rules hrules) hr hmem hid ▸ hnames
    · exact absurd (List.mem_filter.mpr ⟨hr, decide_eq_true hid⟩) hlost

/-- Under its id a rule keeps its scope, unless it is deleted. -/
theorem Transaction.run_keeps_scope {id : Int} {scope : Scope} (hs : s.Keyed)
    (h : t.run s = .ok s') (hold : s.HoldsUnder id scope) :
    s'.HoldsUnder id scope ∨ s'.LacksRule id := by
  obtain ⟨r, hr, rfl, rfl⟩ := hold
  obtain ⟨rules, hrules, ⟨scope, terms, rfl⟩ | ⟨r', hmem, -, terms, rfl⟩ | ⟨r', hmem, -, rfl⟩⟩ :=
    run_cases hs h
  all_goals rw [Store.hasRule_iff hrules] at hr
  · exact .inl ⟨r, (Store.hasRule_iff rfl).mpr (List.mem_append_left _ hr), rfl, rfl⟩
  · refine .inl ⟨if r = r' then { r' with terms } else r, ?_, ?_⟩
    · rw [Store.hasRule_iff rfl]
      exact List.mem_map.mpr ⟨r, hr, rfl⟩
    · split
      · rename_i heq
        exact ⟨(congrArg Rule.id heq).symm, (congrArg Rule.scope heq).symm⟩
      · exact ⟨rfl, rfl⟩
  · by_cases hid : r.id = r'.id
    · refine .inr fun a ha => ?_
      rw [hid]
      exact of_decide_eq_true (List.mem_filter.mp ((Store.hasRule_iff rfl).mp ha)).2
    · refine .inl ⟨r, (Store.hasRule_iff rfl).mpr ?_, rfl, rfl⟩
      exact List.mem_filter.mpr ⟨hr, decide_eq_true hid⟩

/-- What a check found before a transaction: the user manages the company that is named, or that of
the rule that the store then holds under the id that is named. -/
def Transaction.Cleared (s : Store) (k : Collaborators) (user : Int) : Transaction → Prop
  | create scope _ | deleteFor scope => Manages k user scope.company
  | update id _ | delete id => ∃ scope, s.HoldsUnder id scope ∧ Manages k user scope.company

theorem Request.check_ok (h : (q.check s user).value k = .ok t) : t.Cleared s k user := by
  have hrule {id : Int} {r : Rule} (hr : s.rule id = .ok r) : s.HoldsUnder id r.scope := by
    obtain ⟨rules, hrules, hmem, hid⟩ := Store.rule_mem hr
    exact ⟨r, (Store.hasRule_iff hrules).mpr hmem, hid, rfl⟩
  cases q with
  | create scope draft =>
    simp only [check, Lookup.value_bind, Lookup.value_pure, bind_eq_ok] at h
    obtain ⟨terms, hc, h⟩ := h
    cases h
    exact (checkCreate_ok hc).1
  | update id changes =>
    simp only [check, Lookup.value_bind, Lookup.value_pure, bind_eq_ok] at h
    obtain ⟨_, hc, h⟩ := h
    cases h
    obtain ⟨r, hr, hm⟩ := checkUpdate_ok hc
    exact ⟨r.scope, hrule hr, hm⟩
  | delete id =>
    simp only [check, Lookup.value_bind, Lookup.value_pure, bind_eq_ok] at h
    obtain ⟨_, hc, h⟩ := h
    cases h
    obtain ⟨r, hr, hm⟩ := checkDelete_ok hc
    exact ⟨r.scope, hrule hr, hm⟩
  | deleteFor scope =>
    simp only [check, Lookup.value_bind, Lookup.value_pure, bind_eq_ok] at h
    obtain ⟨c, hc, h⟩ := h
    cases h
    exact ⟨c, hc⟩

/-- Where a rule that was checked still has its scope, a transaction only writes for a company that
was checked. -/
theorem Transaction.Cleared.manages {s₁ s₂ : Store} (hc : t.Cleared s₁ k user) (hs : s₂.Keyed)
    (hkeeps : ∀ id ∈ t.id?, ∀ scope, s₁.HoldsUnder id scope → s₂.HoldsUnder id scope)
    (hr : s₂.HasRule r) (hn : t.Names r) : Manages k user r.scope.company := by
  have hnamed {id : Int} (hid : id ∈ t.id?) (hrid : r.id = id)
      (hc : ∃ scope, s₁.HoldsUnder id scope ∧ Manages k user scope.company) :
      Manages k user r.scope.company := by
    obtain ⟨scope, hold, hm⟩ := hc
    obtain ⟨a, ha, haid, rfl⟩ := hkeeps id hid scope hold
    obtain ⟨rules, hrules, hmem⟩ := hr
    rw [Store.hasRule_iff hrules] at ha
    have heq : a = r :=
      List.inj_on_of_nodup_map (hs.rules rules hrules) ha hmem (haid.trans hrid.symm)
    exact heq ▸ hm
  cases t with
  | create scope terms => exact hn.elim
  | update id changes => exact hnamed rfl hn hc
  | delete id => exact hnamed rfl hn hc
  | deleteFor scope => exact (hn : r.scope = scope) ▸ hc

end Steps

/-! ## Requests in progress -/

/-- A request whose check has passed and whose transaction is still to come. -/
structure Checked where
  user : Int
  request : Request
  /-- The collaborators as the check met them. -/
  collaborators : Collaborators
  transaction : Transaction

/-- A store, and the requests in progress on it. -/
structure Sessions where
  store : Store
  waiting : List Checked

/-- What may happen next: a user's request is checked, or a waiting one has its transaction. -/
inductive Move where
  | check (user : Int) (request : Request) (k : Collaborators)
  | commit (position : Nat)

namespace Sessions

/-- Two empty tables and no requests. -/
def start : Sessions := ⟨.empty, []⟩

/-- The sessions after a move. A request that fails in a step is over and leaves the tables. -/
def next (d : Sessions) : Move → Sessions
  | .check user request k =>
    match (request.check d.store user).value k with
    | .ok t => { d with waiting := d.waiting ++ [⟨user, request, k, t⟩] }
    | .error _ => d
  | .commit i =>
    match d.waiting[i]? with
    | some c => ⟨(c.transaction.run d.store).toOption.getD d.store, d.waiting.eraseIdx i⟩
    | none => d

/-- The sessions after a list of moves. -/
def run (d : Sessions) (ms : List Move) : Sessions := ms.foldl next d

@[simp] theorem run_concat (d : Sessions) (ms : List Move) (m : Move) :
    d.run (ms ++ [m]) = (d.run ms).next m := by
  simp [run]

theorem run_append (d : Sessions) (ms ms' : List Move) :
    d.run (ms ++ ms') = (d.run ms).run ms' := by
  simp [run]

/-- A check leaves the store. -/
theorem next_check_store (d : Sessions) (user : Int) (q : Request) (k : Collaborators) :
    (d.next (.check user q k)).store = d.store := by
  unfold next
  dsimp only
  split <;> rfl

/-- A move leaves the store, or runs a transaction. -/
theorem next_store (d : Sessions) (m : Move) :
    (d.next m).store = d.store ∨ ∃ t : Transaction, t.run d.store = .ok (d.next m).store := by
  unfold next
  split
  · split <;> exact .inl rfl
  · split
    · rename_i c _
      cases h : c.transaction.run d.store with
      | ok s => exact .inr ⟨c.transaction, h⟩
      | error f => exact .inl rfl
    · exact .inl rfl

theorem run_keyed {d : Sessions} (hd : d.store.Keyed) (ms : List Move) :
    (d.run ms).store.Keyed := by
  induction ms using List.reverseRecOn with
  | nil => exact hd
  | append_singleton ms m ih =>
    rw [run_concat]
    obtain h | ⟨t, h⟩ := (d.run ms).next_store m
    · rw [h]
      exact ih
    · exact Transaction.run_keyed ih h

/-- Under its id a rule keeps its scope in every run, until it is deleted. -/
theorem run_keeps_scope {d : Sessions} (hd : d.store.Keyed) {id : Int} {scope : Scope}
    (hold : d.store.HoldsUnder id scope) (ms : List Move) :
    (d.run ms).store.HoldsUnder id scope ∨ ∃ first, first <+: ms ∧
      (d.run first).store.LacksRule id := by
  induction ms using List.reverseRecOn with
  | nil => exact .inl hold
  | append_singleton ms m ih =>
    rw [run_concat]
    obtain hold | ⟨first, hfirst, hlacks⟩ := ih
    · obtain h | ⟨t, h⟩ := (d.run ms).next_store m
      · rw [h]
        exact .inl hold
      · refine (Transaction.run_keeps_scope (run_keyed hd ms) h hold).imp_right fun hlacks => ?_
        exact ⟨ms ++ [m], List.prefix_rfl, by rwa [run_concat]⟩
    · exact .inr ⟨first, hfirst.trans (List.prefix_append ms [m]), hlacks⟩

/-- A waiting request was checked at some time before. -/
theorem checked_of_waiting {d : Sessions} (hd : d.waiting = []) (ms : List Move) {c : Checked}
    (hc : c ∈ (d.run ms).waiting) :
    ∃ before after, ms = before ++ .check c.user c.request c.collaborators :: after ∧
      (c.request.check (d.run before).store c.user).value c.collaborators = .ok c.transaction := by
  induction ms using List.reverseRecOn with
  | nil =>
    rw [show (d.run []).waiting = [] from hd] at hc
    cases hc
  | append_singleton ms m ih =>
    -- Either the request waited before, or this is its check.
    have hcases : c ∈ (d.run ms).waiting ∨ m = .check c.user c.request c.collaborators ∧
        (c.request.check (d.run ms).store c.user).value c.collaborators = .ok c.transaction := by
      rw [run_concat] at hc
      unfold next at hc
      split at hc
      · split at hc
        · rename_i t ht
          rcases List.mem_append.mp hc with hc | hc
          · exact .inl hc
          · rw [List.mem_singleton.mp hc]
            exact .inr ⟨rfl, ht⟩
        · exact .inl hc
      · split at hc
        · exact .inl (List.mem_of_mem_eraseIdx hc)
        · exact .inl hc
    obtain hwaited | ⟨rfl, hcheck⟩ := hcases
    · obtain ⟨before, after, rfl, hcheck⟩ := ih hwaited
      exact ⟨before, after ++ [m], by simp, hcheck⟩
    · exact ⟨ms, [], rfl, hcheck⟩

/-- Only the transaction of a waiting request changes or deletes a rule. -/
theorem next_lost {d : Sessions} {m : Move} {r : Rule} (hr : d.store.HasRule r)
    (hlost : ¬ (d.next m).store.HasRule r) : ∃ i c, m = .commit i ∧ d.waiting[i]? = some c ∧
      c.transaction.run d.store = .ok (d.next m).store := by
  cases m with
  | check user request k =>
    rw [next_check_store] at hlost
    exact absurd hr hlost
  | commit i =>
    unfold next at hlost ⊢
    dsimp only at hlost ⊢
    split at hlost
    · rename_i c hc
      refine ⟨i, c, rfl, hc, ?_⟩
      dsimp only at hlost ⊢
      cases h : c.transaction.run d.store with
      | ok s => rfl
      | error f =>
        rw [h] at hlost
        exact absurd hr hlost
    · exact absurd hr hlost

/-- Between a check, with the moves before it, and the end of the moves after it, the rule under an
id was deleted. -/
def DeletedSince (before : List Move) (check : Move) (after : List Move) (id : Int) : Prop :=
  ¬ (start.run before).store.LacksRule id ∧
    ∃ first, first <+: after ∧ (start.run (before ++ check :: first)).store.LacksRule id

/-- **Interleaved writes.** Whatever requests are in progress at once since the table of rules was
empty: a rule is changed or deleted only in the transaction of a request that was checked before,
for a user who managed the company of the rule by what the collaborators said in this check; or else
the request names the rule by its id, and the rule that it was checked for, under the same id, has
been deleted since. -/
theorem interleaved_authorized (ms : List Move) (m : Move) (r : Rule)
    (hr : (start.run ms).store.HasRule r) (hlost : ¬ (start.run (ms ++ [m])).store.HasRule r) :
    ∃ i c, m = .commit i ∧ (start.run ms).waiting[i]? = some c ∧ ∃ before after,
      ms = before ++ .check c.user c.request c.collaborators :: after ∧
      (c.request.check (start.run before).store c.user).value c.collaborators = .ok c.transaction ∧
      (Manages c.collaborators c.user r.scope.company ∨ c.transaction.id? = some r.id ∧
        DeletedSince before (.check c.user c.request c.collaborators) after r.id) := by
  rw [run_concat] at hlost
  obtain ⟨i, c, rfl, hc, hrun⟩ := next_lost hr hlost
  obtain ⟨before, after, hms, hcheck⟩ :=
    checked_of_waiting (d := start) rfl ms (List.mem_of_getElem? hc)
  refine ⟨i, c, rfl, hc, before, after, hms, hcheck, ?_⟩
  have hkeyed (ms : List Move) : (start.run ms).store.Keyed := run_keyed Store.empty_keyed ms
  have hnames := Transaction.names_of_lost (hkeyed ms) hrun hr hlost
  by_cases hkeeps : ∀ id ∈ c.transaction.id?, ∀ scope,
      (start.run before).store.HoldsUnder id scope → (start.run ms).store.HoldsUnder id scope
  · exact .inl ((Request.check_ok hcheck).manages (hkeyed ms) hkeeps hr hnames)
  · right
    push Not at hkeeps
    obtain ⟨id, hid, scope, hold, hgone⟩ := hkeeps
    obtain rfl := hnames.id_eq hid
    refine ⟨hid, fun hlacks => ?_, ?_⟩
    · obtain ⟨a, ha, haid, -⟩ := hold
      exact hlacks a ha haid
    · -- The check itself leaves the store, so that the deletion comes after it.
      have hdone := run_keeps_scope (d := start.run (before ++ [.check c.user c.request
        c.collaborators])) (hkeyed _) (by rwa [run_concat, next_check_store]) after
      rw [← run_append, List.append_assoc, List.singleton_append, ← hms] at hdone
      obtain ⟨first, hfirst, hlacks⟩ := hdone.resolve_left hgone
      refine ⟨first, hfirst, ?_⟩
      rwa [← run_append, List.append_assoc, List.singleton_append] at hlacks

/-! ## Samples -/

/-- User 7 manages company 1, and user 8 company 2. -/
def twoManagers : Collaborators where
  answer := fun path =>
    if path = Directory.companyPath 1 then
      .reply 200 (.ok (Directory.Company.toJson ⟨1, "", [], {}, [7]⟩))
    else if path = Directory.companyPath 2 then
      .reply 200 (.ok (Directory.Company.toJson ⟨2, "", [], {}, [8]⟩))
    else .unknown
  cache := { ttl := 0 }

/-- A change of the places. -/
def sampleChanges : Changes := [(Field.maxConcurrent.name, some 9)]

/-- User 7 creates a rule for company 1, and has a change of it checked. -/
def sampleMoves : List Move :=
  [.check 7 (.create ⟨1, none, none⟩ (.ofTerms ⟨30, 1, 14, 60⟩)) twoManagers, .commit 0,
    .check 7 (.update 1 sampleChanges) twoManagers]

/-- The rule of company 1 is deleted, and user 8 creates one for company 2, which gets the same id.
-/
def sampleReplacement : List Move :=
  [.check 7 (.delete 1) twoManagers, .commit 1,
    .check 8 (.create ⟨2, none, none⟩ (.ofTerms ⟨30, 1, 14, 60⟩)) twoManagers, .commit 1]

/-- The waiting change. -/
def sampleChecked : Checked :=
  ⟨7, .update 1 sampleChanges, twoManagers, .update 1 sampleChanges⟩

theorem sample_waiting : (start.run sampleMoves).waiting = [sampleChecked] := by
  with_unfolding_all rfl

/-- The change of the rule of company 1, which comes next, is that of user 7, who manages company 1.
-/
theorem interleaved_authorized_sample :
    (start.run sampleMoves).store.HasRule ⟨1, ⟨1, none, none⟩, ⟨30, 1, 14, 60⟩⟩ ∧
    ¬ (start.run (sampleMoves ++ [.commit 0])).store.HasRule
      ⟨1, ⟨1, none, none⟩, ⟨30, 1, 14, 60⟩⟩ ∧ Manages twoManagers 7 1 := by
  have hrules : (start.run sampleMoves).store.rules =
      some [⟨1, ⟨1, none, none⟩, ⟨30, 1, 14, 60⟩⟩] := by decide +kernel
  have hrules' : (start.run (sampleMoves ++ [.commit 0])).store.rules =
      some [⟨1, ⟨1, none, none⟩, ⟨30, 9, 14, 60⟩⟩] := by decide +kernel
  have hbefore := (Store.hasRule_iff hrules).mpr List.mem_cons_self
  have hafter : ¬ (start.run (sampleMoves ++ [.commit 0])).store.HasRule
      ⟨1, ⟨1, none, none⟩, ⟨30, 1, 14, 60⟩⟩ := by
    rw [Store.hasRule_iff hrules']
    decide
  refine ⟨hbefore, hafter, ?_⟩
  obtain ⟨i, c, hi, hc, before, after, hms, -, h⟩ :=
    interleaved_authorized sampleMoves (.commit 0) _ hbefore hafter
  cases hi
  rw [sample_waiting] at hc
  cases hc
  obtain hm | ⟨-, -, first, hfirst, hlacks⟩ := h
  · exact hm
  · -- The check was the last move, so that nothing was deleted after it.
    have hlast : after = [] := by
      rcases before with _ | ⟨x, _ | ⟨y, _ | ⟨z, before⟩⟩⟩ <;>
        simp [sampleMoves, sampleChecked] at hms
      exact hms.2.2
    rw [hlast] at hfirst hms
    rw [List.prefix_nil.mp hfirst, ← hms] at hlacks
    exact absurd rfl (hlacks _ hbefore)

/-- The change that user 7 had checked for the rule of company 1 is made to the rule of company 2,
which user 7 does not manage. -/
theorem writes_for_other_company :
    (start.run (sampleMoves ++ sampleReplacement)).waiting = [sampleChecked] ∧
    (start.run (sampleMoves ++ sampleReplacement)).store.rules =
      some [⟨1, ⟨2, none, none⟩, ⟨30, 1, 14, 60⟩⟩] ∧
    (start.run (sampleMoves ++ sampleReplacement ++ [.commit 0])).store.rules =
      some [⟨1, ⟨2, none, none⟩, ⟨30, 9, 14, 60⟩⟩] ∧
    ¬ Manages twoManagers 7 2 := by
  refine ⟨by with_unfolding_all rfl, by decide +kernel, by decide +kernel, ?_⟩
  rintro ⟨c, hc⟩
  have hnone : ((Directory.fetchManaged 2 7).value twoManagers).toOption.isNone = true := by
    decide +kernel
  rw [hc] at hnone
  cases hnone

end Sessions

end Capacity.Management

end SlotBooking
