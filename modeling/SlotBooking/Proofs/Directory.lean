import SlotBooking.Proofs.Lookup

/-!
# Lookups one after the other

An operation asks about a company, then a service, then a vehicle, and each lookup may leave a
snapshot in the cache. A snapshot is kept under a key of its own, so no lookup of an operation
changes what a later one finds: every value is the one that the collaborators gave when the
operation began.

* `Directory.AgreesBut`: nothing changes but the calls and one entry of the cache.
* `Directory.readThrough_value`, `Directory.agreesBut_readThrough`: a lookup through the cache.
* `Directory.Escapes`: how a lookup fails without a refusal, by `readThrough_eq_error` and
  `readThrough_of_escapes`.
* `Admission.Order.lookUp_value`, `availability_value`: the lookups of the two operations.
-/

namespace SlotBooking

namespace Directory

/-! ## The cache -/

/-- Storing an entry changes no other. -/
theorem Cache.entry?_insert_of_ne {c : Cache} {key other : String} (h : other ≠ key) (e : Entry) :
    Cache.entry? (c.insert key e) other = c.entry? other := by
  have hpass : (fun e : String × Entry => decide (e.1 != key ∧ e.1 == other)) =
      (·.1 == other) := by
    funext e
    by_cases he : e.1 = other
    · simp [he, h]
    · simp [he]
  unfold entry? insert erase
  rw [List.find?_append, List.find?_filter, hpass]
  simp [h.symm]

theorem Cache.entry?_store_of_ne {c : Cache} {key other : String} (h : other ≠ key) (j : Json) :
    Cache.entry? (c.store key j) other = c.entry? other := by
  unfold store
  split
  · rfl
  · exact entry?_insert_of_ne h _

@[simp] theorem Cache.ttl_store (c : Cache) (key : String) (j : Json) :
    (c.store key j).ttl = c.ttl := by
  unfold store
  split <;> rfl

@[simp] theorem Cache.failsGet_store (c : Cache) (key : String) (j : Json) :
    (c.store key j).failsGet = c.failsGet := by
  unfold store
  split <;> rfl

/-- What the cache gives for other keys is not changed by storing a document. -/
theorem Cache.load?_store {c : Cache} {key other : String} (h : other ≠ key) (j : Json) :
    (c.store key j).load? other = c.load? other := by
  unfold load?
  rw [failsGet_store, entry?_store_of_ne h]

/-- Nothing but the calls and what the cache holds under one key differs. -/
structure AgreesBut (key : String) (k k' : Collaborators) : Prop where
  answer : k'.answer = k.answer
  ttl : k'.cache.ttl = k.cache.ttl
  load : ∀ other, other ≠ key → k'.cache.load? other = k.cache.load? other

/-! ## One lookup -/

variable {α : Type} {k k' : Collaborators} {key path : String} {subject : Refusal.Subject}
  {absent : Error} {ofJson? ofSnapshot? : Json → Option α} {snapshot : α → Json}

theorem ask_value : (ask path subject absent ofJson?).value k =
    (k.answer path).read path subject absent ofJson? := rfl

theorem ask_after : (ask path subject absent ofJson?).after k =
    { k with calls := k.calls ++ [.get path] } := rfl

theorem keep_value {j : Json} : (keep key j).value k =
    match j.unencodable? with
    | some u => .error (.unwritable u)
    | none => .ok () := by
  unfold keep
  cases j.unencodable? <;> rfl

theorem agreesBut_keep {j : Json} : AgreesBut key k ((keep key j).after k) := by
  unfold keep
  cases j.unencodable? with
  | some u => exact ⟨rfl, rfl, fun _ _ => rfl⟩
  | none =>
    exact ⟨rfl, k.cache.ttl_store key j, fun other h => Cache.load?_store h j⟩

/-- A lookup through the cache gives the snapshot of the entry, or else what the collaborator
answers, provided that its snapshot can be kept. -/
theorem readThrough_value :
    (readThrough key ofSnapshot? snapshot (ask path subject absent ofJson?)).value k =
      if k.cache.ttl ≤ 0 then (k.answer path).read path subject absent ofJson?
      else
        match (k.cache.load? key).bind ofSnapshot? with
        | some v => .ok v
        | none => (k.answer path).read path subject absent ofJson? >>= fun v =>
          match (snapshot v).unencodable? with
          | some u => .error (.unwritable u)
          | none => .ok v := by
  unfold readThrough
  simp only [Lookup.value_bind, Lookup.value_get, Lookup.after_get, ok_bind, Lookup.value_ite,
    ask_value, Lookup.value_note, Lookup.after_note]
  split
  · rfl
  · cases (k.cache.load? key).bind ofSnapshot? with
    | some v => rfl
    | none =>
      simp only [Lookup.value_bind, ask_value, keep_value, Lookup.value_pure]
      refine congrArg _ (funext fun v => ?_)
      cases (snapshot v).unencodable? <;> rfl

/-- A lookup through the cache changes at most the entry under its key. -/
theorem agreesBut_readThrough : AgreesBut key k
    ((readThrough key ofSnapshot? snapshot (ask path subject absent ofJson?)).after k) := by
  unfold readThrough
  simp only [Lookup.after_bind, Lookup.value_get, Lookup.after_get, Lookup.after_ite]
  split
  · exact ⟨rfl, rfl, fun _ _ => rfl⟩
  · simp only [Lookup.value_note, Lookup.after_note]
    cases (k.cache.load? key).bind ofSnapshot? with
    | some v => exact ⟨rfl, rfl, fun _ _ => rfl⟩
    | none =>
      simp only [Lookup.after_bind, Lookup.after_pure, ask_after]
      split
      · rename_i v _
        have hkeep : AgreesBut key
            { k with calls := k.calls ++ [.cacheGet key] ++ [.get path] } _ :=
          agreesBut_keep (j := snapshot v)
        split <;> exact ⟨hkeep.answer, hkeep.ttl, hkeep.load⟩
      · exact ⟨rfl, rfl, fun _ _ => rfl⟩

/-- A lookup through the cache does not notice what is kept under other keys. -/
theorem readThrough_value_congr {other : String} (h : AgreesBut other k k') (hne : key ≠ other) :
    (readThrough key ofSnapshot? snapshot (ask path subject absent ofJson?)).value k' =
      (readThrough key ofSnapshot? snapshot (ask path subject absent ofJson?)).value k := by
  rw [readThrough_value, readThrough_value, h.answer, h.ttl, h.load key hne]

/-! ## How a lookup fails -/

/-- A lookup through the cache fails without a refusal. The cache has nothing that can be used, and
the reply is nested too deep or, if there is a cache, its snapshot cannot be encoded. -/
inductive Escapes {α : Type} (k : Collaborators) (key path : String)
    (ofSnapshot? ofJson? : Json → Option α) (snapshot : α → Json) : Failure → Prop
  | tooDeep {status : Int} {c : Json.Container}
    (hcache : k.cache.ttl ≤ 0 ∨ (k.cache.load? key).bind ofSnapshot? = none)
    (ha : k.answer path = .reply status (.error (.nesting c)))
    (hs : 200 ≤ status ∧ status ≤ 299) :
    Escapes k key path ofSnapshot? ofJson? snapshot (.tooDeep c)
  | unwritable {status : Int} {j : Json} {v : α} {u : Text.Unencodable}
    (httl : 0 < k.cache.ttl) (hcache : (k.cache.load? key).bind ofSnapshot? = none)
    (ha : k.answer path = .reply status (.ok j)) (hs : 200 ≤ status ∧ status ≤ 299)
    (hv : ofJson? j = some v) (hu : (snapshot v).unencodable? = some u) :
    Escapes k key path ofSnapshot? ofJson? snapshot (.unwritable u)

variable {f : Failure}

theorem Escapes.not_isRefusal (h : Escapes k key path ofSnapshot? ofJson? snapshot f) :
    ¬ f.IsRefusal := by
  cases h <;> exact nofun

theorem Answer.read_reply {status : Int} {body : Except Json.Fault Json}
    (hs : 200 ≤ status ∧ status ≤ 299) :
    (Answer.reply status body).read path subject absent ofJson? =
      match body with
      | .ok j =>
        match ofJson? j with
        | some v => .ok v
        | none => .error (.unusable subject)
      | .error (.nesting c) => .error (.tooDeep c)
      | .error _ => .error (.unusable subject) := by
  have habs : status ≠ 404 := by omega
  unfold read
  exact (if_neg habs).trans (if_pos hs)

/-- What an answer says is refused unless it is nested too deep. -/
theorem Answer.read_eq_error {a : Answer} {e : Error} (habsent : (absent.failure subject).IsRefusal)
    (h : a.read path subject absent ofJson? = .error e) :
    (e.failure subject).IsRefusal ∨ ∃ status c, a = .reply status (.error (.nesting c)) ∧
      (200 ≤ status ∧ status ≤ 299) ∧ e = .tooDeep c := by
  cases a with
  | refused | timedOut =>
    cases h
    exact .inl ⟨_, rfl⟩
  | reply status body =>
    by_cases habs : status = 404
    · unfold read at h
      dsimp only at h
      rw [if_pos habs] at h
      cases h
      exact .inl habsent
    by_cases hs : 200 ≤ status ∧ status ≤ 299
    · rw [read_reply hs] at h
      split at h
      · split at h
        · cases h
        · cases h
          exact .inl ⟨_, rfl⟩
      · cases h
        exact .inr ⟨status, _, rfl, hs, rfl⟩
      · cases h
        exact .inl ⟨_, rfl⟩
    · unfold read at h
      dsimp only at h
      rw [if_neg habs, if_neg hs] at h
      cases h
      exact .inl ⟨_, rfl⟩

theorem Answer.read_eq_ok {a : Answer} {v : α} (h : a.read path subject absent ofJson? = .ok v) :
    ∃ status j, a = .reply status (.ok j) ∧ (200 ≤ status ∧ status ≤ 299) ∧ ofJson? j = some v := by
  cases a with
  | refused | timedOut => cases h
  | reply status body =>
    by_cases hs : 200 ≤ status ∧ status ≤ 299
    · rw [read_reply hs] at h
      split at h
      · split at h
        · rename_i hv
          cases h
          exact ⟨status, _, rfl, hs, hv⟩
        · cases h
      · cases h
      · cases h
    · unfold read at h
      dsimp only at h
      rw [if_neg hs] at h
      split at h <;> cases h

theorem readThrough_eq_error (habsent : (absent.failure subject).IsRefusal)
    (h : (refusing subject (readThrough key ofSnapshot? snapshot
      (ask path subject absent ofJson?))).value k = .error f) :
    f.IsRefusal ∨ Escapes k key path ofSnapshot? ofJson? snapshot f := by
  rw [Lookup.value_refusing, mapError_eq_error] at h
  obtain ⟨e, he, rfl⟩ := h
  rw [readThrough_value] at he
  split at he
  · rename_i httl
    obtain hr | ⟨status, c, ha, hs, rfl⟩ := Answer.read_eq_error habsent he
    · exact .inl hr
    · exact .inr (.tooDeep (.inl httl) ha hs)
  · rename_i httl
    split at he
    · cases he
    · rename_i hcache
      rcases bind_eq_error.mp he with he | ⟨v, hv, he⟩
      · obtain hr | ⟨status, c, ha, hs, rfl⟩ := Answer.read_eq_error habsent he
        · exact .inl hr
        · exact .inr (.tooDeep (.inr hcache) ha hs)
      · obtain ⟨status, j, ha, hs, hj⟩ := Answer.read_eq_ok hv
        split at he
        · rename_i u hu
          cases he
          exact .inr (.unwritable (by omega) hcache ha hs hj hu)
        · cases he

theorem readThrough_of_escapes (h : Escapes k key path ofSnapshot? ofJson? snapshot f) :
    (refusing subject (readThrough key ofSnapshot? snapshot
      (ask path subject absent ofJson?))).value k = .error f := by
  rw [Lookup.value_refusing, readThrough_value]
  cases h with
  | tooDeep hcache ha hs =>
    rw [ha, Answer.read_reply hs]
    split
    · rfl
    · rw [hcache.resolve_left (by assumption)]
      rfl
  | unwritable httl hcache ha hs hv hu =>
    rw [if_neg (by omega), hcache, ha, Answer.read_reply hs]
    simp only [hv, ok_bind, hu]
    rfl

/-! ## The lookups of an operation -/

theorem serviceKey_ne_companyKey (c v c' : Int) : serviceKey c v ≠ companyKey c' := by
  intro h
  -- The keys differ where one goes on with `service` and the other with `company`.
  have h : (serviceKey c v).toList.take 11 = (companyKey c').toList.take 11 := by rw [h]
  unfold serviceKey companyKey at h
  simp only [String.append_assoc, String.toList_append] at h
  rw [List.take_append_of_le_length (by decide), List.take_append_of_le_length (by decide)] at h
  exact absurd h (by decide)

theorem fetchService_value_after {c v c' : Int} :
    (fetchService c v).value ((fetchCompany c').after k) = (fetchService c v).value k := by
  unfold fetchService fetchCompany
  rw [Lookup.value_refusing, Lookup.value_refusing, Lookup.after_refusing]
  exact congrArg _ (readThrough_value_congr agreesBut_readThrough (serviceKey_ne_companyKey _ _ _))

theorem fetchVehicle_value_congr {user : Int} (h : k'.answer = k.answer) :
    (fetchVehicle user).value k' = (fetchVehicle user).value k := by
  unfold fetchVehicle vehicle
  rw [Lookup.value_refusing, Lookup.value_refusing, ask_value, ask_value, h]

theorem fetchCompany_after_answer {c : Int} : ((fetchCompany c).after k).answer = k.answer := by
  unfold fetchCompany
  rw [Lookup.after_refusing]
  exact agreesBut_readThrough.answer

theorem fetchService_after_answer {c v : Int} : ((fetchService c v).after k).answer = k.answer := by
  unfold fetchService
  rw [Lookup.after_refusing]
  exact agreesBut_readThrough.answer

end Directory

open Directory

/-- The lookups of an admission give what the collaborators say when it begins. -/
theorem Admission.Order.lookUp_value (o : Order) (k : Collaborators) :
    o.lookUp.value k = do
      let c ← (fetchCompany o.company).value k
      requireAddress c o.address
      let s ← (fetchService o.company o.service).value k
      requireOffered s o.address
      let v ← (fetchVehicle o.user).value k
      return (c, s, v) := by
  unfold lookUp
  simp only [Lookup.value_bind, Lookup.value_lift, Lookup.after_lift, Lookup.value_pure,
    fetchService_value_after]
  have hv : (fetchVehicle o.user).value
      ((fetchService o.company o.service).after ((fetchCompany o.company).after k)) =
      (fetchVehicle o.user).value k :=
    fetchVehicle_value_congr (fetchService_after_answer.trans fetchCompany_after_answer)
  rw [hv]
  rfl

/-- The lookups of an availability are those of an admission, without the vehicle. -/
theorem availability_value (s : Store) (now : Instant) (company address service : Option Int)
    (date : Date) (k : Collaborators) :
    (availability s now company address service date).value k = (do
      let company ← Admission.requirePositive "company_id" company
      let address ← Admission.requirePositive "address_id" address
      let service ← Admission.requirePositive "service_id" service
      let c ← (fetchCompany company).value k
      requireAddress c address
      let v ← (fetchService company service).value k
      requireOffered v address
      Availability.day s now c company address service date) := by
  unfold availability
  simp only [Lookup.value_bind, Lookup.value_lift, Lookup.after_lift, fetchService_value_after]

end SlotBooking
