import SlotBooking.Proofs.Directory
import SlotBooking.Proofs.Snapshot

/-!
# What the collaborators are asked for

A company, a service or the vehicle of a user. Each has a path of its own; companies and services
also have keys of their own, under which the cache keeps their snapshots.

* `Source`: what can be asked for, with `Source.ask` past the cache and `Source.read` through it.
* `Source.reads`: the five ways in which a read can go; what follows about reads are case analyses
  over them.
* `Source.held?_store`, `Source.held?_store_of_ne`: what the cache holds for each source once it has
  kept a model.
* `Collaborators.Echoes`: what is read is the same as before, or what the cache kept of it.
-/

namespace SlotBooking.Directory

/-! ## Through the cache, command by command -/

section ReadThrough

theorem Lookup.run_bind_ok {ε α β : Type} {x : Lookup ε α} {f : α → Lookup ε β} {a : α}
    {k k' : Collaborators} (h : x.run k = (.ok a, k')) : (x >>= f).run k = (f a).run k' := by
  rw [ExceptT.run_bind]
  simp only [bind, StateT.bind, h]

theorem Lookup.run_bind_error {ε α β : Type} {x : Lookup ε α} {f : α → Lookup ε β} {e : ε}
    {k k' : Collaborators} (h : x.run k = (.error e, k')) :
    (x >>= f).run k = (.error e, k') := by
  rw [ExceptT.run_bind]
  simp only [bind, StateT.bind, h]
  rfl

variable {α : Type} {k : Collaborators} {key : String} {ofSnapshot? : Json → Option α}
  {snapshot : α → Json} {l : Lookup Error α} {j : Json}

theorem readThrough_run_of_ttl (httl : k.cache.ttl ≤ 0) :
    (readThrough key ofSnapshot? snapshot l).run k = l.run k := by
  show (if k.cache.ttl ≤ 0 then l else _ : Lookup Error α).run k = _
  rw [if_pos httl]

theorem readThrough_run_of_hit {v : α} (httl : 0 < k.cache.ttl)
    (hv : (k.cache.load? key).bind ofSnapshot? = some v) :
    (readThrough key ofSnapshot? snapshot l).run k =
      (.ok v, { k with calls := k.calls ++ [.cacheGet key] }) := by
  show (if k.cache.ttl ≤ 0 then l else _ : Lookup Error α).run k = _
  rw [if_neg (by omega), hv]
  rfl

theorem readThrough_run_of_miss (httl : 0 < k.cache.ttl)
    (hv : (k.cache.load? key).bind ofSnapshot? = none) :
    (readThrough key ofSnapshot? snapshot l).run k =
      (do let v ← l; keep key (snapshot v); return v : Lookup Error α).run
        { k with calls := k.calls ++ [.cacheGet key] } := by
  show (if k.cache.ttl ≤ 0 then l else _ : Lookup Error α).run k = _
  rw [if_neg (by omega), hv]
  rfl

theorem keep_run_of_unencodable {u : Text.Unencodable} (hu : j.unencodable? = some u) :
    (keep key j).run k = (.error (.unwritable u), k) := by
  unfold keep
  rw [hu]
  rfl

theorem keep_run_of_encodable (hu : j.unencodable? = none) :
    (keep key j).run k = (.ok (), { k with
      cache := k.cache.store key j, calls := k.calls ++ [.cacheSet key k.cache.ttl] }) := by
  unfold keep
  rw [hu]
  rfl

end ReadThrough

/-- What the collaborators can be asked for. -/
inductive Source where
  | company (id : Int)
  | service (company id : Int)
  /-- The vehicle that a user has selected. -/
  | vehicle (user : Int)
deriving DecidableEq

namespace Source

/-- What describes a source. -/
@[reducible] def Model : Source → Type
  | company _ => Company
  | service _ _ => Service
  | vehicle _ => Vehicle

/-- Asks for a source through the cache. -/
def read : (s : Source) → Lookup Error s.Model
  | company id => Directory.company id
  | service c id => Directory.service c id
  | vehicle user => Directory.vehicle user

/-- Asks for a source past the cache. -/
def ask : (s : Source) → Lookup Error s.Model
  | company id => Directory.ask (companyPath id) .company (.companyNotFound id) Company.ofJson?
  | service c id =>
    Directory.ask (servicePath c id) .service (.serviceNotFound id c) Service.ofJson?
  | vehicle user => Directory.vehicle user

/-- The path of a source. -/
def path : Source → String
  | company id => companyPath id
  | service c id => servicePath c id
  | vehicle user => vehiclePath user

/-- The key of a source; vehicles are not cached. -/
def key? : Source → Option String
  | company id => some (companyKey id)
  | service c id => some (serviceKey c id)
  | vehicle _ => none

/-- What a cached document describes. -/
def ofSnapshot? : (s : Source) → Json → Option s.Model
  | company _ => Company.ofJson?
  | service _ _ => Service.ofSnapshot?
  | vehicle _ => fun _ => none

/-- What the cache keeps. -/
def snapshot : (s : Source) → s.Model → Json
  | company _ => Company.snapshot
  | service _ _ => Service.snapshot
  | vehicle _ => Vehicle.toJson

/-- What is read back of what the cache keeps. -/
def kept : (s : Source) → s.Model → s.Model
  | service _ _ => Service.kept
  | company _ | vehicle _ => id

/-- The model that the cache holds for a source, whether or not it can be read now. -/
def held? (s : Source) (c : Cache) : Option s.Model :=
  s.key?.bind fun key => c.entry? key |>.bind fun e => e.snapshot?.bind s.ofSnapshot?

/-- The model that the cache gives for a source; none while reading fails. -/
def found? (s : Source) (c : Cache) : Option s.Model := if c.failsGet then none else s.held? c

/-- What the collaborators themselves answer. -/
def answered (s : Source) (k : Collaborators) : Except Error s.Model := s.ask.value k

variable {s s' : Source} {k k' : Collaborators} {key : String}

theorem key?_inj (h : s.key? = some key) (h' : s'.key? = some key) : s = s' := by
  cases s with
  | company id =>
    cases h
    cases s' with
    | company id' => rw [companyKey_inj.mp (Option.some.inj h')]
    | service c v => exact absurd (Option.some.inj h') (serviceKey_ne_companyKey c v id)
    | vehicle user => cases h'
  | service c v =>
    cases h
    cases s' with
    | company id' => exact absurd (Option.some.inj h').symm (serviceKey_ne_companyKey c v id')
    | service c' v' =>
      obtain ⟨rfl, rfl⟩ := serviceKey_inj.mp (Option.some.inj h')
      rfl
    | vehicle user => cases h'
  | vehicle user => cases h

theorem kept_kept (v : s.Model) : s.kept (s.kept v) = s.kept v := by
  cases s with
  | company | vehicle => rfl
  | service => exact Service.kept_kept v

/-- A snapshot that can be encoded reads back. -/
theorem snapshot?_document (hkey : s.key? = some key) {v : s.Model}
    (hu : (s.snapshot v).unencodable? = none) (ttl : Option Int) :
    (Entry.document (s.snapshot v) ttl).snapshot?.bind s.ofSnapshot? = some (s.kept v) := by
  have hflat : (s.snapshot v).nesting ≤ maxSnapshotNesting := by
    cases s with
    | company => exact Nat.le_trans (Company.nesting_snapshot v) (by decide)
    | service => exact Nat.le_trans (Service.nesting_snapshot v) (by decide)
    | vehicle => cases hkey
  have hsnapshot : (Entry.document (s.snapshot v) ttl).snapshot? = some (s.snapshot v) :=
    if_pos ⟨hflat, hu⟩
  rw [hsnapshot, Option.bind_some]
  cases s with
  | company => exact Company.ofJson?_snapshot v
  | service => exact Service.ofSnapshot?_snapshot v
  | vehicle => cases hkey

/-! ## How a read goes -/

theorem held?_of_found? {c : Cache} {v : s.Model} (h : s.found? c = some v) :
    s.held? c = some v := by
  unfold found? at h
  split at h
  · cases h
  · exact h

theorem ask_run : s.ask.run k = (s.answered k, { k with calls := k.calls ++ [.get s.path] }) := by
  cases s <;> rfl

theorem answered_congr (h : k'.answer = k.answer) : s.answered k' = s.answered k := by
  cases s <;>
  · unfold answered ask
    simp only [Directory.vehicle, ask_value, h]

theorem read_of_key (hkey : s.key? = some key) :
    s.read = readThrough key s.ofSnapshot? s.snapshot s.ask := by
  cases s with
  | company | service =>
    cases hkey
    rfl
  | vehicle => cases hkey

theorem read_of_no_key (hkey : s.key? = none) : s.read = s.ask := by
  cases s with
  | company | service => cases hkey
  | vehicle => rfl

theorem load?_bind (hkey : s.key? = some key) (c : Cache) :
    (c.load? key).bind s.ofSnapshot? = s.found? c := by
  unfold Cache.load? found? held?
  rw [hkey]
  split
  · rfl
  · exact Option.bind_assoc ..

/-- The ways in which a read can go: what it gives, the cache after it and the commands it takes. -/
inductive Reads (s : Source) (k : Collaborators) :
    Except Error s.Model → Cache → List Call → Prop
  /-- There is no cache, or none for this source. -/
  | direct (h : k.cache.ttl ≤ 0 ∨ s.key? = none) :
    Reads s k (s.answered k) k.cache [.get s.path]
  /-- The cache has it. -/
  | hit {key : String} {v : s.Model} (httl : 0 < k.cache.ttl) (hkey : s.key? = some key)
    (hv : s.found? k.cache = some v) : Reads s k (.ok v) k.cache [.cacheGet key]
  /-- The cache does not have it, nor do the collaborators. -/
  | failed {key : String} {e : Error} (httl : 0 < k.cache.ttl) (hkey : s.key? = some key)
    (hmiss : s.found? k.cache = none) (he : s.answered k = .error e) :
    Reads s k (.error e) k.cache [.cacheGet key, .get s.path]
  /-- The collaborators have it, but the cache cannot keep it. -/
  | unwritable {key : String} {v : s.Model} {u : Text.Unencodable} (httl : 0 < k.cache.ttl)
    (hkey : s.key? = some key) (hmiss : s.found? k.cache = none) (hv : s.answered k = .ok v)
    (hu : (s.snapshot v).unencodable? = some u) :
    Reads s k (.error (.unwritable u)) k.cache [.cacheGet key, .get s.path]
  /-- The collaborators have it, and the cache is asked to keep it. -/
  | fetched {key : String} {v : s.Model} (httl : 0 < k.cache.ttl) (hkey : s.key? = some key)
    (hmiss : s.found? k.cache = none) (hv : s.answered k = .ok v)
    (hu : (s.snapshot v).unencodable? = none) :
    Reads s k (.ok v) (k.cache.store key (s.snapshot v))
      [.cacheGet key, .get s.path, .cacheSet key k.cache.ttl]

theorem reads_run (s : Source) (k : Collaborators) : ∃ r c calls, Reads s k r c calls ∧
    s.read.run k = (r, { k with cache := c, calls := k.calls ++ calls }) := by
  cases hkey : s.key? with
  | none =>
    rw [read_of_no_key hkey, ask_run]
    exact ⟨_, _, _, .direct (.inr hkey), rfl⟩
  | some key =>
    rw [read_of_key hkey]
    by_cases httl : k.cache.ttl ≤ 0
    · rw [readThrough_run_of_ttl httl, ask_run]
      exact ⟨_, _, _, .direct (.inl httl), rfl⟩
    have httl : 0 < k.cache.ttl := Int.not_le.mp httl
    cases hload : (k.cache.load? key).bind s.ofSnapshot? with
    | some v =>
      rw [readThrough_run_of_hit httl hload]
      exact ⟨_, _, _, .hit httl hkey (load?_bind hkey _ ▸ hload), rfl⟩
    | none =>
      rw [readThrough_run_of_miss httl hload]
      have hmiss : s.found? k.cache = none := load?_bind hkey _ ▸ hload
      have hask : s.ask.run { k with calls := k.calls ++ [.cacheGet key] } =
          (s.answered k, { k with calls := k.calls ++ [.cacheGet key, .get s.path] }) := by
        have hsame : s.answered { k with calls := k.calls ++ [.cacheGet key] } = s.answered k :=
          answered_congr rfl
        rw [ask_run, hsame, List.append_assoc]
        rfl
      cases hv : s.answered k with
      | error e =>
        rw [hv] at hask
        rw [Lookup.run_bind_error hask]
        exact ⟨_, _, _, .failed httl hkey hmiss hv, rfl⟩
      | ok v =>
        rw [hv] at hask
        rw [Lookup.run_bind_ok hask]
        cases hu : (s.snapshot v).unencodable? with
        | some u =>
          rw [Lookup.run_bind_error (keep_run_of_unencodable hu)]
          exact ⟨_, _, _, .unwritable httl hkey hmiss hv hu, rfl⟩
        | none =>
          rw [Lookup.run_bind_ok (keep_run_of_encodable hu)]
          exact ⟨_, _, _, .fetched httl hkey hmiss hv hu, by rw [List.append_assoc]; rfl⟩

/-- Every read goes in one of these ways. -/
theorem reads (s : Source) (k : Collaborators) : ∃ r c calls, Reads s k r c calls ∧
    s.read.value k = r ∧
    s.read.after k = { k with cache := c, calls := k.calls ++ calls } := by
  obtain ⟨r, c, calls, hr, hrun⟩ := s.reads_run k
  exact ⟨r, c, calls, hr, congrArg Prod.fst hrun, congrArg Prod.snd hrun⟩

theorem not_uncached (httl : 0 < k.cache.ttl) (hkey : s.key? = some key) :
    ¬ (k.cache.ttl ≤ 0 ∨ s.key? = none) := by
  simp [hkey, Int.not_le.mpr httl]

/-- What a read gives, in one formula. -/
theorem read_value (s : Source) (k : Collaborators) : s.read.value k =
    if k.cache.ttl ≤ 0 ∨ s.key? = none then s.answered k
    else
      match s.found? k.cache with
      | some v => .ok v
      | none => s.answered k >>= fun v =>
        match (s.snapshot v).unencodable? with
        | some u => .error (.unwritable u)
        | none => .ok v := by
  obtain ⟨r, c, calls, hr, hvalue, -⟩ := s.reads k
  rw [hvalue]
  cases hr with
  | direct h => rw [if_pos h]
  | hit httl hkey hv => rw [if_neg (not_uncached httl hkey), hv]
  | failed httl hkey hmiss he =>
    rw [if_neg (not_uncached httl hkey), hmiss, he]
    rfl
  | unwritable httl hkey hmiss hv hu =>
    rw [if_neg (not_uncached httl hkey), hmiss, hv]
    simp only [ok_bind, hu]
  | fetched httl hkey hmiss hv hu =>
    rw [if_neg (not_uncached httl hkey), hmiss, hv]
    simp only [ok_bind, hu]

/-- A source of which the cache holds what it kept of the answer gives the answer, or that. -/
theorem read_value_of_kept {v : s.Model} (httl : 0 < k.cache.ttl) (hkey : s.key? = some key)
    (hheld : s.held? k.cache = some (s.kept v)) (hv : s.answered k = .ok v)
    (hu : (s.snapshot v).unencodable? = none) :
    s.read.value k = .ok v ∨ s.read.value k = .ok (s.kept v) := by
  rw [read_value, if_neg (not_uncached httl hkey)]
  unfold found?
  by_cases hget : k.cache.failsGet = true
  · rw [if_pos hget, hv]
    exact .inl (by simp only [ok_bind, hu])
  · rw [if_neg hget, hheld]
    exact .inr rfl

/-- A read notices nothing but the answers, how the cache can be read and what it holds for the
source. -/
theorem read_value_congr (hanswer : k'.answer = k.answer) (httl : k'.cache.ttl = k.cache.ttl)
    (hget : k'.cache.failsGet = k.cache.failsGet) (hheld : s.held? k'.cache = s.held? k.cache) :
    s.read.value k' = s.read.value k := by
  have hfound : s.found? k'.cache = s.found? k.cache := by
    unfold found?
    rw [hget, hheld]
  rw [read_value, read_value, answered_congr hanswer, httl, hfound]

end Source

/-! ## What a read leaves behind -/

namespace Cache

variable {c : Cache} {key : String} {e : Entry}

theorem entry?_insert : Cache.entry? (c.insert key e) key = some e := by
  have hgone : (c.entries.filter (·.1 != key)).find? (·.1 == key) = none := by
    simp
  unfold entry? insert erase
  rw [List.find?_append, hgone]
  simp

theorem store_of_fails (h : c.failsSet = true) (j : Json) : c.store key j = c := if_pos h

theorem store_of_works (h : c.failsSet = false) (j : Json) :
    c.store key j = c.insert key (.document j (some c.ttl)) := by
  unfold store
  rw [h]
  rfl

end Cache

namespace Source

variable {s s' : Source} {k k' : Collaborators} {c : Cache} {key : String} {v : s.Model}

theorem held?_store_of_ne (hkey : s.key? = some key) (hne : s' ≠ s) (j : Json) :
    s'.held? (c.store key j) = s'.held? c := by
  unfold held?
  cases hkey' : s'.key? with
  | none => rfl
  | some key' =>
    have hother : key' ≠ key := by
      rintro rfl
      exact hne (key?_inj hkey' hkey)
    rw [Option.bind_some, Option.bind_some, Cache.entry?_store_of_ne hother]

theorem held?_store (hkey : s.key? = some key) (hset : c.failsSet = false)
    (hu : (s.snapshot v).unencodable? = none) :
    s.held? (c.store key (s.snapshot v)) = some (s.kept v) := by
  unfold held?
  rw [Cache.store_of_works hset, hkey, Option.bind_some, Cache.entry?_insert, Option.bind_some]
  exact snapshot?_document hkey hu _

@[simp] theorem answer_read (s : Source) (k : Collaborators) :
    (s.read.after k).answer = k.answer := by
  obtain ⟨r, c, calls, -, -, hafter⟩ := s.reads k
  rw [hafter]

@[simp] theorem ttl_read (s : Source) (k : Collaborators) :
    (s.read.after k).cache.ttl = k.cache.ttl := by
  obtain ⟨r, c, calls, hr, -, hafter⟩ := s.reads k
  rw [hafter]
  cases hr with
  | direct | hit | failed | unwritable => rfl
  | fetched => exact Cache.ttl_store ..

end Source

/-! ## Asking again -/

namespace Collaborators

/-- What is read is the same as before. -/
def SaysSame (k k' : Collaborators) : Prop := ∀ s : Source, s.read.value k' = s.read.value k

/-- What is read is the same as before, or what the cache kept of it. -/
def Echoes (k k' : Collaborators) : Prop :=
  ∀ s : Source, s.read.value k' = s.read.value k ∨
    s.read.value k' = (s.read.value k).map s.kept

variable {k k' k'' : Collaborators}

theorem SaysSame.echoes (h : k.SaysSame k') : k.Echoes k' := fun s => .inl (h s)

theorem Echoes.refl (k : Collaborators) : k.Echoes k := fun _ => .inl rfl

theorem Echoes.trans (h : k.Echoes k') (h' : k'.Echoes k'') : k.Echoes k'' := by
  intro s
  have hkept (x : Except Error s.Model) : (x.map s.kept).map s.kept = x.map s.kept := by
    cases x with
    | error e => rfl
    | ok v => exact congrArg Except.ok (Source.kept_kept v)
  rcases h s with h | h <;> rcases h' s with h' | h' <;> rw [h', h]
  · exact .inl rfl
  · exact .inr rfl
  · exact .inr rfl
  · exact .inr (hkept _)

/-- Of a service whose price is none or finite the cache keeps all, so that nothing changes. -/
theorem Echoes.saysSame (h : k.Echoes k')
    (hprice : ∀ c id v, (service c id).value k = .ok v → ∀ p ∈ v.price, p.IsFinite) :
    k.SaysSame k' := by
  intro s
  rcases h s with h | h
  · exact h
  rw [h]
  cases hv : s.read.value k with
  | error e => rfl
  | ok v =>
    refine congrArg Except.ok ?_
    cases s with
    | company | vehicle => rfl
    | service c id => exact Service.kept_eq_self (hprice c id v hv)

/-- After a read the collaborators say the same, or what the cache kept. -/
theorem echoes_read (s : Source) (k : Collaborators) : k.Echoes (s.read.after k) := by
  intro s'
  obtain ⟨r, c, calls, hr, hvalue, hafter⟩ := s.reads k
  rw [hafter]
  have hquiet (hheld : s'.held? c = s'.held? k.cache) (httl : c.ttl = k.cache.ttl)
      (hget : c.failsGet = k.cache.failsGet) :
      s'.read.value { k with cache := c, calls := k.calls ++ calls } = s'.read.value k :=
    Source.read_value_congr rfl httl hget hheld
  cases hr with
  | direct | hit | failed | unwritable => exact .inl (hquiet rfl rfl rfl)
  | @fetched key v httl hkey hmiss hv hu =>
    have hquiet (hheld : s'.held? (k.cache.store key (s.snapshot v)) = s'.held? k.cache) :=
      hquiet hheld (Cache.ttl_store ..) (Cache.failsGet_store ..)
    by_cases hset : k.cache.failsSet = true
    · exact .inl (hquiet (by rw [Cache.store_of_fails hset]))
    by_cases hs : s' = s
    · subst hs
      have hanswered : s'.answered (s'.read.after k) = .ok v :=
        (Source.answered_congr (s'.answer_read k)).trans hv
      rw [hafter] at hanswered
      rw [hvalue]
      exact Source.read_value_of_kept (by rwa [Cache.ttl_store]) hkey
        (Source.held?_store hkey (eq_false_of_ne_true hset) hu) hanswered hu
    · exact .inl (hquiet (Source.held?_store_of_ne hkey hs _))

/-! What an operation looks up, with its errors as refusals. -/

theorem Echoes.fetchCompany (h : k.Echoes k') (company : Int) :
    (fetchCompany company).value k' = (fetchCompany company).value k := by
  have hsame : (Source.company company).read.value k' = (Source.company company).read.value k := by
    rcases h (.company company) with h | h <;> rw [h]
    cases (Source.company company).read.value k <;> rfl
  exact congrArg (Except.mapError (·.failure .company)) hsame

theorem Echoes.fetchVehicle (h : k.Echoes k') (user : Int) :
    (fetchVehicle user).value k' = (fetchVehicle user).value k := by
  have hsame : (Source.vehicle user).read.value k' = (Source.vehicle user).read.value k := by
    rcases h (.vehicle user) with h | h <;> rw [h]
    cases (Source.vehicle user).read.value k <;> rfl
  exact congrArg (Except.mapError (·.failure .vehicle)) hsame

theorem Echoes.fetchService (h : k.Echoes k') (company service : Int) :
    (fetchService company service).value k' = (fetchService company service).value k ∨
      (fetchService company service).value k' =
        ((fetchService company service).value k).map Service.kept := by
  have hmap (x : Except Error Service) : (x.map Service.kept).mapError (Error.failure .service) =
      (x.mapError (Error.failure .service)).map Service.kept := by
    cases x <;> rfl
  rcases h (.service company service) with h | h
  · exact .inl (congrArg (Except.mapError (Error.failure .service)) h)
  · exact .inr ((congrArg (Except.mapError (Error.failure .service)) h).trans (hmap _))

theorem SaysSame.fetchService (h : k.SaysSame k') (company service : Int) :
    (fetchService company service).value k' = (fetchService company service).value k :=
  congrArg (Except.mapError (Error.failure .service)) (h (.service company service))

/-- An order finds the same. -/
theorem SaysSame.lookUp (h : k.SaysSame k') (o : Admission.Order) :
    o.lookUp.value k' = o.lookUp.value k := by
  rw [Admission.Order.lookUp_value, Admission.Order.lookUp_value, h.echoes.fetchCompany,
    h.fetchService, h.echoes.fetchVehicle]

end Collaborators

end SlotBooking.Directory
