import Mathlib.Data.List.Induction
import SlotBooking.Proofs.Admission
import SlotBooking.Proofs.Run
import SlotBooking.Proofs.Script

/-!
# The cache is transparent

Companies and services are read through a cache. Between any two reads of a run, also inside an
operation, the collaborators may answer differently, either command of the cache may begin or cease
to fail, and entries may go or be overwritten with what describes nothing.

* `Access`: one read of a run, with `Access.Stores` for the reads whose answer the cache stored.
* `LastStored`: the answer that was stored last for a source.
* `Collaborators.Disturbs`: what may happen before a read.
* `CachedRun`: runs of reads and operations over a cache that is empty at first.
* `Remembers`: the invariant. What the cache holds for a source is what was stored last for it.
* `cached_transparent`: a read gives the current answer or the one stored last; if answers stay as
  they are, all operations end as without a cache.
-/

namespace SlotBooking

open Directory (Cache Call Collaborators Error Lookup Source)

/-! ## Reads of a run -/

/-- A read: its source, and the collaborators that it meets. -/
structure Access where
  source : Source
  met : Collaborators

namespace Access

variable (a : Access)

/-- What the read gives. -/
def value : Except Error a.source.Model := a.source.read.value a.met

/-- What the collaborators themselves answer at that time. -/
def answered : Except Error a.source.Model := a.source.answered a.met

/-- The commands of the read. -/
def commands : List Call := (a.source.read.after a.met).calls.drop a.met.calls.length

/-- The read has an answer stored, and storing works. -/
def Stores : Prop :=
  (∃ key, .cacheSet key a.met.cache.ttl ∈ a.commands) ∧ a.met.cache.failsSet = false

/-- The read should store its answer, but the answer holds a text that cannot be encoded. -/
def Unencodable (u : Text.Unencodable) : Prop :=
  0 < a.met.cache.ttl ∧ a.source.key? ≠ none ∧
    ∃ v, a.answered = .ok v ∧ (a.source.snapshot v).unencodable? = some u

end Access

/-- Among the reads of a list, `v` is the answer that was stored last for a source. -/
def LastStored (trace : List Access) (s : Source) (v : s.Model) : Prop :=
  ∃ before k after, trace = before ++ ⟨s, k⟩ :: after ∧ Access.Stores ⟨s, k⟩ ∧
    s.answered k = .ok v ∧ ∀ a ∈ after, a.source = s → ¬ a.Stores

/-- What may happen before a read: answers and failures change in any way, and entries of the cache
go or are overwritten with what describes nothing. -/
structure Directory.Collaborators.Disturbs (k k' : Collaborators) : Prop where
  ttl : k'.cache.ttl = k.cache.ttl
  held : ∀ s : Source, s.held? k'.cache = s.held? k.cache ∨ s.held? k'.cache = none

/-- A script runs, with something happening before each of its reads. -/
inductive Script.Runs {ε α : Type} :
    Script ε α → Collaborators → List Access → Except ε α → Collaborators → Prop
  | done {r : Except ε α} {k : Collaborators} : Runs (.done r) k [] r k
  | read {s : Source} {next : Except Error s.Model → Script ε α} {k k₁ k₂ : Collaborators}
    {as : List Access} {r : Except ε α} (hd : k.Disturbs k₁)
    (hnext : (next (s.read.value k₁)).Runs (s.read.after k₁) as r k₂) :
    Runs (.read s next) k (⟨s, k₁⟩ :: as) r k₂

/-! ## Runs -/

/-- One step of a run. -/
inductive Turn where
  | read (a : Access)
  /-- An operation, with the reads it made and what it ended with. The collaborators of the event
  are those of the same operation without a cache; the run does not ask them. -/
  | operation (e : Event) (accesses : List Access) (outcome : Except Failure Outcome)

namespace Turn

/-- The reads of a step. -/
def accesses : Turn → List Access
  | read a => [a]
  | operation _ as _ => as

/-- The operation of a step. -/
def event? : Turn → Option Event
  | read _ => none
  | operation e _ _ => some e

/-- The reads of a run, in order. -/
def trace (turns : List Turn) : List Access := turns.flatMap accesses

/-- The operations of a run, in order. -/
def events (turns : List Turn) : List Event := turns.filterMap event?

variable (turns : List Turn)

@[simp] theorem trace_concat_read (a : Access) :
    trace (turns ++ [.read a]) = trace turns ++ [a] := by
  simp [trace, accesses]

@[simp] theorem trace_concat_operation (e : Event) (as : List Access)
    (out : Except Failure Outcome) :
    trace (turns ++ [.operation e as out]) = trace turns ++ as := by
  simp [trace, accesses]

@[simp] theorem events_concat_read (a : Access) : events (turns ++ [.read a]) = events turns := by
  simp [events, List.filterMap_append, event?]

@[simp] theorem events_concat_operation (e : Event) (as : List Access)
    (out : Except Failure Outcome) :
    events (turns ++ [.operation e as out]) = events turns ++ [e] := by
  simp [events, List.filterMap_append, event?]

end Turn

/-- The store after an operation with that result. -/
def Store.afterResult (s : Store) : Except Failure (Outcome × Store) → Store
  | .ok (_, s') => s'
  | .error _ => s

/-- Runs of reads and operations over a cache that is empty at first, with the store and the
collaborators after them. -/
inductive CachedRun (start : Store) : List Turn → Store → Collaborators → Prop
  | start {k : Collaborators} (hempty : k.cache.entries = []) : CachedRun start [] start k
  | read {turns : List Turn} {s : Store} {k k₁ : Collaborators} (h : CachedRun start turns s k)
    (source : Source) (hd : k.Disturbs k₁) :
    CachedRun start (turns ++ [.read ⟨source, k₁⟩]) s (source.read.after k₁)
  | operation {turns : List Turn} {s : Store} {k k' : Collaborators} {as : List Access}
    {r : Except Failure (Outcome × Store)} {p : Script Failure (Outcome × Store)}
    (h : CachedRun start turns s k) (e : Event)
    (hp : p.run = e.operation.run (e.world s).store e.now) (hruns : p.Runs k as r k') :
    CachedRun start (turns ++ [.operation e as (r.map (·.1))])
      ((e.world s).store.afterResult r) k'

/-! ## What the cache holds -/

namespace Access

variable {s : Source} {k : Collaborators}

theorem stores_iff {calls : List Call}
    (h : (s.read.after k).calls = k.calls ++ calls) :
    Stores ⟨s, k⟩ ↔ (∃ key, .cacheSet key k.cache.ttl ∈ calls) ∧ k.cache.failsSet = false := by
  unfold Stores commands
  rw [h, List.drop_left]

/-- A read stores its answer, and then the cache holds what it kept of it, or leaves the cache. -/
theorem stores_or (s : Source) (k : Collaborators) :
    (Stores ⟨s, k⟩ ∧ ∃ v, s.answered k = .ok v ∧
      s.held? (s.read.after k).cache = some (s.kept v) ∧
      ∀ s' : Source, s' ≠ s → s'.held? (s.read.after k).cache = s'.held? k.cache) ∨
    (¬ Stores ⟨s, k⟩ ∧ (s.read.after k).cache = k.cache) := by
  obtain ⟨r, c, calls, hr, -, hafter⟩ := s.reads k
  rw [stores_iff (congrArg (·.calls) hafter), hafter]
  cases hr with
  | direct | hit | failed | unwritable => exact .inr ⟨by simp, rfl⟩
  | @fetched key v httl hkey hmiss hv hu =>
    by_cases hset : k.cache.failsSet = true
    · exact .inr ⟨by simp [hset], Cache.store_of_fails hset _⟩
    have hset : k.cache.failsSet = false := eq_false_of_ne_true hset
    exact .inl ⟨⟨⟨key, by simp⟩, hset⟩, v, hv, Source.held?_store hkey hset hu,
      fun s' hne => Source.held?_store_of_ne hkey hne _⟩

end Access

/-- An element of a list with one more at its end is that one, or stands before it. -/
theorem split_concat {α : Type} {xs before after : List α} {x a : α}
    (h : xs ++ [x] = before ++ a :: after) :
    (xs = before ∧ x = a) ∨ ∃ rest, xs = before ++ a :: rest := by
  rcases after.eq_nil_or_concat with rfl | ⟨rest, b, rfl⟩
  · obtain ⟨hxs, hx⟩ := List.append_inj' h rfl
    exact .inl ⟨hxs, List.singleton_inj.mp hx⟩
  · rw [List.concat_eq_append, ← List.cons_append, ← List.append_assoc] at h
    exact .inr ⟨rest, (List.append_inj' h rfl).1⟩

/-- What the cache holds for a source is what was kept of the answer that was stored last for it. -/
def Remembers (trace : List Access) (k : Collaborators) : Prop :=
  ∀ (s : Source) (v : s.Model), s.held? k.cache = some v →
    ∃ w, LastStored trace s w ∧ v = s.kept w

section Invariant

variable {trace : List Access} {s : Source} {k k' : Collaborators}

theorem LastStored.concat {v : s.Model} (h : LastStored trace s v) {a : Access}
    (ha : a.source = s → ¬ a.Stores) : LastStored (trace ++ [a]) s v := by
  obtain ⟨before, k, after, rfl, hstores, hv, hquiet⟩ := h
  refine ⟨before, k, after ++ [a], by simp, hstores, hv, fun b hb => ?_⟩
  rcases List.mem_append.mp hb with hb | hb
  · exact hquiet b hb
  · rw [List.mem_singleton.mp hb]
    exact ha

theorem Remembers.of_empty (h : k.cache.entries = []) : Remembers [] k := by
  intro s v hv
  have hnone : s.held? k.cache = none := by
    unfold Source.held? Cache.entry?
    rw [h]
    cases s.key? <;> rfl
  rw [hnone] at hv
  cases hv

theorem Remembers.disturbed (h : Remembers trace k) (hd : k.Disturbs k') : Remembers trace k' := by
  intro s v hv
  rcases hd.held s with hs | hs
  · exact h s v (hs ▸ hv)
  · rw [hs] at hv
    cases hv

theorem Remembers.read (h : Remembers trace k) (s : Source) :
    Remembers (trace ++ [⟨s, k⟩]) (s.read.after k) := by
  intro s' v hv
  rcases Access.stores_or s k with ⟨hstores, w, hw, hheld, hother⟩ | ⟨hquiet, hcache⟩
  · by_cases hs : s' = s
    · subst hs
      rw [hheld] at hv
      cases hv
      exact ⟨w, ⟨trace, k, [], rfl, hstores, hw, nofun⟩, rfl⟩
    · rw [hother s' hs] at hv
      obtain ⟨w, hw, rfl⟩ := h s' v hv
      exact ⟨w, hw.concat fun hsource => absurd hsource.symm hs, rfl⟩
  · rw [hcache] at hv
    obtain ⟨w, hw, rfl⟩ := h s' v hv
    exact ⟨w, hw.concat fun _ => hquiet, rfl⟩

/-- Before each read of a list, the cache remembered the reads before it. -/
def Remembered (trace : List Access) : Prop :=
  ∀ before a after, trace = before ++ a :: after → Remembers before a.met

theorem Remembered.nil : Remembered [] := by
  intro before a after h
  simp at h

theorem Remembered.concat (ht : Remembered trace) (hk : Remembers trace k) :
    Remembered (trace ++ [⟨s, k⟩]) := by
  intro before a after hsplit
  rcases split_concat hsplit with ⟨rfl, rfl⟩ | ⟨rest, rfl⟩
  · exact hk
  · exact ht before a rest rfl

theorem Script.Runs.remembered {ε α : Type} {p : Script ε α} {as : List Access} {r : Except ε α}
    (h : p.Runs k as r k') (ht : Remembered trace) (hk : Remembers trace k) :
    Remembered (trace ++ as) ∧ Remembers (trace ++ as) k' := by
  induction h generalizing trace with
  | done =>
    rw [List.append_nil]
    exact ⟨ht, hk⟩
  | read hd hnext ih =>
    have hk := hk.disturbed hd
    rw [List.append_cons]
    exact ih (ht.concat hk) (hk.read _)

theorem CachedRun.remembered {start s : Store} {turns : List Turn}
    (h : CachedRun start turns s k) :
    Remembered (Turn.trace turns) ∧ Remembers (Turn.trace turns) k := by
  induction h with
  | start hempty => exact ⟨.nil, .of_empty hempty⟩
  | read h source hd ih =>
    obtain ⟨ht, hk⟩ := ih
    have hk := hk.disturbed hd
    rw [Turn.trace_concat_read]
    exact ⟨ht.concat hk, hk.read _⟩
  | operation h e hp hruns ih =>
    obtain ⟨ht, hk⟩ := ih
    rw [Turn.trace_concat_operation]
    exact hruns.remembered ht hk

/-- A read gives the current answer or what was kept of the one stored last. -/
theorem Remembers.value_eq_ok (h : Remembers trace k) {v : s.Model} (hv : s.read.value k = .ok v) :
    s.answered k = .ok v ∨ ∃ w, LastStored trace s w ∧ v = s.kept w := by
  obtain ⟨r, c, calls, hr, hvalue, -⟩ := s.reads k
  rw [hvalue] at hv
  cases hr with
  | direct => exact .inl hv
  | hit _ _ hfound =>
    cases hv
    exact .inr (h s v (Source.held?_of_found? hfound))
  | failed | unwritable => cases hv
  | fetched _ _ _ hanswered =>
    cases hv
    exact .inl hanswered

/-- A read fails with the current error, or because the answer cannot be stored. -/
theorem Access.value_eq_error {e : Error} (he : s.read.value k = .error e) :
    s.answered k = .error e ∨ ∃ u, Access.Unencodable ⟨s, k⟩ u ∧ e = .unwritable u := by
  obtain ⟨r, c, calls, hr, hvalue, -⟩ := s.reads k
  rw [hvalue] at he
  cases hr with
  | direct => exact .inl he
  | hit | fetched => cases he
  | failed _ _ _ hanswered =>
    cases he
    exact .inl hanswered
  | unwritable httl hkey _ hv hu =>
    cases he
    exact .inr ⟨_, ⟨httl, by simp [hkey], _, hv, hu⟩, rfl⟩

end Invariant

/-! ## Without a cache -/

/-- The collaborators of an event have no cache and answer as those that the reads met. -/
structure Event.IsDirectOf (e : Event) (as : List Access) : Prop where
  ttl : e.collaborators.cache.ttl ≤ 0
  answered : ∀ a ∈ as, a.source.answered e.collaborators = a.answered

/-- Whenever a company or service is read, the answer is the same. -/
def AnswersStay (trace : List Access) : Prop :=
  ∀ (s : Source) (k k' : Collaborators), s.key? ≠ none → ⟨s, k⟩ ∈ trace → ⟨s, k'⟩ ∈ trace →
    s.answered k = s.answered k'

theorem AnswersStay.of_answer_eq {trace : List Access} {answer : String → Directory.Answer}
    (h : ∀ a ∈ trace, a.met.answer = answer) : AnswersStay trace :=
  fun _ _ _ _ hk hk' => Source.answered_congr ((h _ hk).trans (h _ hk').symm)

/-- A script whose reads give what the collaborators answer ends as it would without a cache. -/
theorem Script.Runs.direct {ε α : Type} {p : Script ε α} {as : List Access} {r : Except ε α}
    {k k' d : Collaborators} (h : p.Runs k as r k') (httl : d.cache.ttl ≤ 0)
    (has : ∀ a ∈ as, a.source.answered d = a.value) : p.run.value d = r := by
  induction h generalizing d with
  | done => rfl
  | @read s next k k₁ k₂ as r hd hnext ih =>
    have hread : s.read.value d = s.read.value k₁ := by
      rw [Source.read_value, if_pos (.inl httl)]
      exact has ⟨s, k₁⟩ List.mem_cons_self
    rw [Script.value_read, hread]
    refine ih (by rwa [Source.ttl_read]) fun a ha => ?_
    rw [Source.answered_congr (s.answer_read d)]
    exact has a (List.mem_cons_of_mem _ ha)

theorem Event.outcome_of_value {e : Event} {s : Store} {r : Except Failure (Outcome × Store)}
    (h : (e.operation.run (e.world s).store e.now).value e.collaborators = r) :
    e.outcome s = r.map (·.1) ∧ e.next s = (e.world s).store.afterResult r := by
  subst h
  unfold outcome next
  rw [World.perform_fst, World.perform_store]
  refine ⟨rfl, ?_⟩
  show (match (e.operation.run (e.world s).store e.now).value e.collaborators with
    | .ok (_, s') => s'
    | .error _ => (e.world s).store) = _
  cases (e.operation.run (e.world s).store e.now).value e.collaborators <;> rfl

/-- If every read gives what the collaborators answer, a run ends as it would without a cache. -/
theorem CachedRun.direct {start s : Store} {turns : List Turn} {k : Collaborators}
    (h : CachedRun start turns s k)
    (hvalue : ∀ a ∈ Turn.trace turns, a.value = a.answered)
    (hdirect : ∀ e as out, .operation e as out ∈ turns → e.IsDirectOf as) :
    s = start.run (Turn.events turns) ∧
      ∀ before e as out after, turns = before ++ .operation e as out :: after →
        out = e.outcome (start.run (Turn.events before)) := by
  induction h with
  | start => exact ⟨rfl, by simp⟩
  | read h source hd ih =>
    obtain ⟨hs, hout⟩ := ih (fun a ha => hvalue a (by simp [ha]))
      fun e as out hmem => hdirect e as out (by simp [hmem])
    refine ⟨by rwa [Turn.events_concat_read], fun before e as out after hsplit => ?_⟩
    rcases split_concat hsplit with ⟨-, hturn⟩ | ⟨rest, rfl⟩
    · cases hturn
    · exact hout before e as out rest rfl
  | @operation turns s k k' as r p h e hp hruns ih =>
    obtain ⟨hs, hout⟩ := ih (fun a ha => hvalue a (by simp [ha]))
      fun e as out hmem => hdirect e as out (by simp [hmem])
    have hd : e.IsDirectOf as := hdirect e as _ (List.mem_append_right _ List.mem_cons_self)
    have hresult : p.run.value e.collaborators = r := by
      refine hruns.direct hd.ttl fun a ha => ?_
      rw [hd.answered a ha]
      exact (hvalue a (by simp [ha])).symm
    rw [hp] at hresult
    obtain ⟨houtcome, hnext⟩ := Event.outcome_of_value hresult
    refine ⟨?_, fun before e' as' out after hsplit => ?_⟩
    · rw [Turn.events_concat_operation, Store.run_concat, ← hs, hnext]
    · rcases split_concat hsplit with ⟨rfl, hturn⟩ | ⟨rest, rfl⟩
      · cases hturn
        rw [← hs, houtcome]
      · exact hout before e' as' out rest rfl

/-! ## Transparency -/

/-- Every service that is answered has no price or a finite one. -/
def PricesFinite (trace : List Access) : Prop :=
  ∀ (c id : Int) (k : Collaborators) (v : Directory.Service), ⟨.service c id, k⟩ ∈ trace →
    (Source.service c id).answered k = .ok v → ∀ p ∈ v.price, p.IsFinite

section Transparency

variable {trace : List Access} {s : Source} {k : Collaborators} {a : Access}

theorem LastStored.mono {v : s.Model} (h : LastStored trace s v) (more : List Access) :
    ∃ k, ⟨s, k⟩ ∈ trace ++ more ∧ s.answered k = .ok v := by
  obtain ⟨before, k, after, rfl, -, hv, -⟩ := h
  exact ⟨k, by simp, hv⟩

theorem LastStored.kept_eq {v : s.Model} (h : LastStored trace s v) {more : List Access}
    (hp : PricesFinite (trace ++ more)) : s.kept v = v := by
  obtain ⟨k, hmem, hv⟩ := h.mono more
  cases s with
  | company | vehicle => rfl
  | service c id => exact Directory.Service.kept_eq_self (hp c id k v hmem hv)

/-- A read gives the current answer or the one that was stored last, and fails as the collaborators
do, or because their answer cannot be stored. -/
theorem Remembered.value (ht : Remembered trace) (hp : PricesFinite trace)
    {before after : List Access} (hsplit : trace = before ++ a :: after) :
    (∀ v, a.value = .ok v → a.answered = .ok v ∨ LastStored before a.source v) ∧
      ∀ e, a.value = .error e →
        a.answered = .error e ∨ ∃ u, a.Unencodable u ∧ e = .unwritable u := by
  refine ⟨fun v hv => ?_, fun e he => Access.value_eq_error he⟩
  rcases (ht before a after hsplit).value_eq_ok hv with hv | ⟨w, hw, rfl⟩
  · exact .inl hv
  · rw [hw.kept_eq (hsplit ▸ hp)]
    exact .inr hw

/-- If answers stay as they are, a read gives what the collaborators answer, unless that cannot be
stored. -/
theorem Remembered.value_eq_answered (ht : Remembered trace) (hp : PricesFinite trace)
    (hstay : AnswersStay trace) (ha : a ∈ trace) (hu : ∀ u, ¬ a.Unencodable u) :
    a.value = a.answered := by
  obtain ⟨before, after, hsplit⟩ := List.append_of_mem ha
  obtain ⟨hok, herror⟩ := ht.value hp hsplit
  cases hvalue : a.value with
  | error e =>
    rcases herror e hvalue with he | ⟨u, hau, -⟩
    · exact he.symm
    · exact absurd hau (hu u)
  | ok v =>
    rcases hok v hvalue with hv | hlast
    · exact hv.symm
    · by_cases hkey : a.source.key? = none
      · rw [← hvalue]
        unfold Access.value
        rw [Source.read_of_no_key hkey]
        rfl
      · obtain ⟨k, hmem, hv⟩ := hlast.mono (a :: after)
        rw [← hsplit] at hmem
        exact hv.symm.trans (hstay a.source k a.met hkey hmem ha)

end Transparency

/-! ## Sample runs -/

/-- The collaborators give the same company, of that name, whatever they are asked for; with a cache
of that time to live. -/
def oneCompany (name : Text) (ttl : Int) : Collaborators where
  answer := fun _ => .reply 200 (.ok (Directory.Company.toJson ⟨1, name, [], {}, [7]⟩))
  cache := { ttl }

section Sample

variable {name : Text} {trace : List Access}

/-- What they give is no service, so that no service has a price. -/
theorem oneCompany_pricesFinite (h : ∀ a ∈ trace, a.met.answer = (oneCompany name 0).answer) :
    PricesFinite trace := by
  intro c id k v hmem hv
  have herror : (Source.service c id).answered k = .error (.unusable .service) :=
    Source.answered_congr (h _ hmem)
  rw [herror] at hv
  cases hv

theorem oneCompany_encodable (h : ∀ a ∈ trace, a.met.answer = (oneCompany "" 0).answer) {a : Access}
    (ha : a ∈ trace) (u : Text.Unencodable) : ¬ a.Unencodable u := by
  rintro ⟨-, hkey, v, hv, hu⟩
  obtain ⟨s, k⟩ := a
  have hv : s.answered (oneCompany "" 0) = .ok v := (Source.answered_congr (h _ ha)).symm.trans hv
  cases s with
  | company id =>
    cases hv
    cases hu
  | service c id => cases hv
  | vehicle user => exact hkey rfl

end Sample

/-- The manager asks for the rules of the company, and there is no cache. -/
def rulesAsked : Event where
  operation := .companyRules 1 7
  now := (Admission.sampleWorld "" false).now
  collaborators := oneCompany "" 0
  writeLocked := false

/-- A script can run without anything happening. -/
theorem Script.exists_runs {ε α : Type} (p : Script ε α) (k : Collaborators) : ∃ as,
    p.Runs k as (p.run.value k) (p.run.after k) ∧ ∀ a ∈ as, a.met.answer = k.answer := by
  induction p generalizing k with
  | done r => exact ⟨[], .done, nofun⟩
  | read s next ih =>
    obtain ⟨as, hruns, has⟩ := ih (s.read.value k) (s.read.after k)
    refine ⟨⟨s, k⟩ :: as, .read ⟨rfl, fun _ => .inl rfl⟩ hruns, ?_⟩
    rintro a (_ | ⟨_, ha⟩)
    · rfl
    · rw [has a ha, Source.answer_read]

/-- A run reads the company and asks for its rules through a cache. -/
theorem exists_sample_run : ∃ (a : Access) (as : List Access) (out : Except Failure Outcome)
    (s : Store) (k : Collaborators),
    CachedRun .empty [.read a, .operation rulesAsked as out] s k ∧
      ∀ b ∈ a :: as, b.met.answer = (oneCompany "" 0).answer := by
  have hread : CachedRun .empty [.read ⟨.company 1, oneCompany "" 60⟩] .empty _ :=
    .read (.start rfl) _ ⟨rfl, fun _ => .inl rfl⟩
  obtain ⟨p, hp⟩ := rulesAsked.operation.scripted (rulesAsked.world .empty).store rulesAsked.now
  obtain ⟨as, hruns, has⟩ := p.exists_runs ((Source.company 1).read.after (oneCompany "" 60))
  refine ⟨_, as, _, _, _, hread.operation rulesAsked hp hruns, ?_⟩
  rintro b (_ | ⟨_, hb⟩)
  · rfl
  · rw [has b hb, Source.answer_read]
    rfl

/-! ## The main statement -/

/-- The cache is transparent. In a run over a cache that is empty at first, with whatever failures
and changes between its reads, a read gives the answer of that time or the one that was stored last
for the very same source, and fails as the collaborators do or because the cache cannot keep their
answer. If moreover the answers for companies and services stay as they are, and all of them can be
kept, then every read gives what the collaborators answer, and every operation and the tables end as
in the run without a cache. -/
theorem cached_transparent {start s : Store} {turns : List Turn} {k : Collaborators}
    (h : CachedRun start turns s k) (hprice : PricesFinite (Turn.trace turns)) :
    (∀ before a after, Turn.trace turns = before ++ a :: after →
      (∀ v, a.value = .ok v → a.answered = .ok v ∨ LastStored before a.source v) ∧
      ∀ e, a.value = .error e →
        a.answered = .error e ∨ ∃ u, a.Unencodable u ∧ e = .unwritable u) ∧
    (AnswersStay (Turn.trace turns) → (∀ a ∈ Turn.trace turns, ∀ u, ¬ a.Unencodable u) →
      (∀ a ∈ Turn.trace turns, a.value = a.answered) ∧
      ((∀ e as out, .operation e as out ∈ turns → e.IsDirectOf as) →
        s = start.run (Turn.events turns) ∧
        ∀ before e as out after, turns = before ++ .operation e as out :: after →
          out = e.outcome (start.run (Turn.events before)))) := by
  have ht := h.remembered.1
  refine ⟨fun before a after hsplit => ht.value hprice hsplit, fun hstay hu => ?_⟩
  have hvalue : ∀ a ∈ Turn.trace turns, a.value = a.answered := fun a ha =>
    ht.value_eq_answered hprice hstay ha (hu a ha)
  exact ⟨hvalue, fun hdirect => h.direct hvalue hdirect⟩

/-- In the sample run the rules are asked for as without a cache. -/
theorem cached_transparent_sample : ∃ (a : Access) (as : List Access)
    (out : Except Failure Outcome) (s : Store) (k : Collaborators),
    CachedRun .empty [.read a, .operation rulesAsked as out] s k ∧
      out = rulesAsked.outcome .empty ∧ s = Store.empty.run [rulesAsked] := by
  obtain ⟨a, as, out, s, k, hrun, has⟩ := exists_sample_run
  have htrace : Turn.trace [.read a, .operation rulesAsked as out] = a :: as := by
    simp [Turn.trace, Turn.accesses]
  obtain ⟨-, hstay⟩ := cached_transparent hrun (htrace ▸ oneCompany_pricesFinite has)
  rw [htrace] at hstay
  obtain ⟨-, hdirect⟩ := hstay (.of_answer_eq has) fun _ hb => oneCompany_encodable has hb
  obtain ⟨hs, hout⟩ := hdirect (by
    rintro e bs o (_ | ⟨_, _ | ⟨_, ⟨⟩⟩⟩)
    exact ⟨by decide, fun b hb => Source.answered_congr (has b (List.mem_cons_of_mem _ hb)).symm⟩)
  exact ⟨a, as, out, s, k, hrun, hout [.read a] rulesAsked as out [] rfl, hs⟩

/-- A company whose name cannot be encoded is there for those who ask without a cache, and never
for those who ask through one, though the collaborators always give the same answer. -/
theorem cached_read_unwritable : ∃ (k k' : Collaborators) (c : Directory.Company)
    (u : Text.Unencodable),
    CachedRun .empty [.read ⟨.company 1, k⟩] .empty k' ∧
      AnswersStay [⟨.company 1, k⟩] ∧ PricesFinite [⟨.company 1, k⟩] ∧
      (Source.company 1).answered k = .ok c ∧
      (Source.company 1).read.value k = .error (.unwritable u) := by
  have hanswer : ∀ a ∈ [(⟨.company 1, oneCompany ⟨[.lone 0]⟩ 60⟩ : Access)],
      a.met.answer = (oneCompany ⟨[.lone 0]⟩ 0).answer := by
    simp [oneCompany]
  exact ⟨oneCompany ⟨[.lone 0]⟩ 60, _, ⟨1, ⟨[.lone 0]⟩, [], {}, [7]⟩, _,
    .read (.start rfl) (.company 1) ⟨rfl, fun _ => .inl rfl⟩, .of_answer_eq hanswer,
    oneCompany_pricesFinite hanswer, rfl, rfl⟩

end SlotBooking
