import SlotBooking.Directory.Lookup
import Mathlib.Data.List.Basic

/-!
# Snapshots and their keys

What the cache keeps of a company or a service reads back as it was, except that a price that is not
finite is lost; and each company and each service has a key of its own.

* `Directory.Company.ofJson?_snapshot`, `Directory.Service.ofSnapshot?_snapshot`: the round trips.
* `Directory.Company.nesting_snapshot`, `Directory.Service.nesting_snapshot`: a snapshot is flat
  enough to be read.
* `Directory.companyKey_inj`, `Directory.serviceKey_inj`: a key tells what is kept under it.
-/

namespace SlotBooking

/-! ## Reading what was written -/

namespace Json.Lenient

variable {α : Type} {j v : Json} {name : String} {a : α} {read? : Json → Option α} {f : α → Json}

theorem defaulted_eq_some {default : α} (hv : j.member? name = some v) (hr : read? v = some a) :
    defaulted j name default read? = some a := by
  unfold defaulted
  rw [hv]
  exact hr

/-- A value that may be missing is read back, if its written form is never `null`. -/
theorem nullable_ofOption (hne : ∀ a, f a ≠ .null) (hf : ∀ a, read? (f a) = some a)
    (o : Option α) : nullable read? (.ofOption f o) = some o := by
  cases o with
  | none => rfl
  | some a =>
    have hvalue : nullable read? (f a) = (read? (f a)).map some := by
      cases hj : f a with
      | null => exact absurd hj (hne a)
      | _ => rfl
    rw [Json.ofOption_some, hvalue, hf]
    rfl

theorem optional_eq_some {o : Option α} (hv : j.member? name = some (.ofOption f o))
    (hne : ∀ a, f a ≠ .null) (hf : ∀ a, read? (f a) = some a) :
    Lenient.optional j name read? = some o :=
  defaulted_eq_some hv (nullable_ofOption hne hf o)

theorem optional_text {o : Option Text} (hv : j.member? name = some (.ofOption .str o)) :
    Lenient.optional j name text? = some o :=
  optional_eq_some hv nofun fun _ => rfl

theorem optional_int {o : Option Int} (hv : j.member? name = some (.ofOption .int o)) :
    Lenient.optional j name int? = some o :=
  optional_eq_some hv nofun fun _ => rfl

theorem optional_float {o : Option Binary64} (hv : j.member? name = some (.ofOption .float o)) :
    Lenient.optional j name extendedFloat? = some o :=
  optional_eq_some hv nofun fun _ => rfl

theorem list?_map (hf : ∀ a, read? (f a) = some a) (as : List α) :
    list? read? (.arr (as.map f)) = some as := by
  show (as.map f).mapM read? = some as
  induction as with
  | nil => rfl
  | cons a as ih =>
    rw [List.map_cons, List.mapM_cons, hf, ih]
    rfl

theorem list?_int (ns : List Int) : list? int? (.arr (ns.map .int)) = some ns :=
  list?_map (f := .int) (fun _ => rfl) ns

end Json.Lenient

open Json.Lenient

theorem DaySchedule.ofJson?_toJson (d : DaySchedule) : ofJson? d.toJson = some d := by
  have hisOpen : defaulted d.toJson "is_open" false bool? = some d.isOpen := rfl
  have hopens : optional d.toJson "open_time" text? = some d.openTime := optional_text rfl
  have hcloses : optional d.toJson "close_time" text? = some d.closeTime := optional_text rfl
  unfold ofJson?
  rw [hisOpen, hopens, hcloses]
  rfl

theorem WorkingHours.ofJson?_toJson (w : WorkingHours) : ofJson? w.toJson = some w := by
  have hday {name : String} {d : DaySchedule} (h : w.toJson.member? name = some d.toJson) :
      defaulted w.toJson name {} DaySchedule.ofJson? = some d :=
    defaulted_eq_some h d.ofJson?_toJson
  unfold ofJson?
  rw [hday (d := w.monday) rfl, hday (d := w.tuesday) rfl, hday (d := w.wednesday) rfl,
    hday (d := w.thursday) rfl, hday (d := w.friday) rfl, hday (d := w.saturday) rfl,
    hday (d := w.sunday) rfl]
  rfl

namespace Directory

theorem Address.ofJson?_toJson (a : Address) : ofJson? a.toJson = some a := by
  have hid : required a.toJson "id" int? = some a.id := rfl
  have hcity : optional a.toJson "city" text? = some a.city := optional_text rfl
  have hstreet : optional a.toJson "address" text? = some a.street := optional_text rfl
  unfold ofJson?
  rw [hid, hcity, hstreet]
  rfl

/-- A company reads back from its snapshot as it was. -/
theorem Company.ofJson?_snapshot (c : Company) : ofJson? c.snapshot = some c := by
  unfold snapshot
  have hid : required c.toJson "id" int? = some c.id := rfl
  have hname : defaulted c.toJson "name" (.ofString "") text? = some c.name := rfl
  have haddresses : defaulted c.toJson "addresses" [] (list? Address.ofJson?) = some c.addresses :=
    defaulted_eq_some rfl (list?_map Address.ofJson?_toJson c.addresses)
  have hhours :
      defaulted c.toJson "working_hours" {} WorkingHours.ofJson? = some c.workingHours :=
    defaulted_eq_some rfl c.workingHours.ofJson?_toJson
  have hmanagers : defaulted c.toJson "manager_ids" [] (list? int?) = some c.managers :=
    defaulted_eq_some rfl (list?_int c.managers)
  unfold ofJson?
  rw [hid, hname, haddresses, hhours, hmanagers]
  rfl

/-- The service as its snapshot gives it back: without a price that is not finite. -/
def Service.kept (s : Service) : Service :=
  { s with price := s.price.filter fun x => decide x.IsFinite }

theorem Service.kept_kept (s : Service) : s.kept.kept = s.kept := by
  simp [kept, Option.filter_filter]

theorem Service.kept_eq_self {s : Service} (h : ∀ p ∈ s.price, p.IsFinite) : s.kept = s := by
  have hp : s.price.filter (fun x => decide x.IsFinite) = s.price := by
    cases hs : s.price with
    | none => rfl
    | some p => simp [h p hs]
  unfold kept
  rw [hp]

/-- A service reads back from its snapshot, but for a price that is not finite. -/
theorem Service.ofSnapshot?_snapshot (s : Service) : ofSnapshot? s.snapshot = some s.kept := by
  have hid : required s.kept.toJson "id" int? = some s.id := rfl
  have hcompany : required s.kept.toJson "company_id" int? = some s.company := rfl
  have hname : required s.kept.toJson "name" text? = some s.name := rfl
  have hprice : optional s.kept.toJson "price" extendedFloat? = some s.kept.price :=
    optional_float rfl
  have hduration : optional s.kept.toJson "duration_minutes" int? = some s.duration :=
    optional_int rfl
  have haddresses : defaulted s.kept.toJson "address_ids" [] (list? int?) = some s.addresses :=
    defaulted_eq_some rfl (list?_int s.addresses)
  show ofSnapshot? s.kept.toJson = some s.kept
  unfold ofSnapshot? read?
  rw [hid, hcompany, hname, hprice, hduration, haddresses]
  rfl

end Directory

/-! ## How deep a snapshot is nested -/

namespace Json

variable {n : Nat}

theorem nestingOfItems_le {items : List Json} (h : ∀ j ∈ items, j.nesting ≤ n) :
    nestingOfItems items ≤ n := by
  induction items with
  | nil => simp [nestingOfItems]
  | cons j items ih =>
    simp only [List.mem_cons, forall_eq_or_imp] at h
    simp only [nestingOfItems]
    exact Nat.max_le.mpr ⟨h.1, ih h.2⟩

theorem nestingOfMembers_le {members : List (Text × Json)} (h : ∀ m ∈ members, m.2.nesting ≤ n) :
    nestingOfMembers members ≤ n := by
  induction members with
  | nil => simp [nestingOfMembers]
  | cons m members ih =>
    simp only [List.mem_cons, forall_eq_or_imp] at h
    simp only [nestingOfMembers]
    exact Nat.max_le.mpr ⟨h.1, ih h.2⟩

theorem nesting_arr_le {items : List Json} (h : ∀ j ∈ items, j.nesting ≤ n) :
    (arr items).nesting ≤ n + 1 := by
  cases items with
  | nil => simp [nesting]
  | cons j items =>
    have hmax : nestingOfItems (j :: items) ≤ n := nestingOfItems_le h
    simp only [nestingOfItems] at hmax
    simp only [nesting]
    omega

theorem nesting_obj_le {members : List (Text × Json)} (h : ∀ m ∈ members, m.2.nesting ≤ n) :
    (obj members).nesting ≤ n + 1 := by
  cases members with
  | nil => simp [nesting]
  | cons m members =>
    have hmax : nestingOfMembers (m :: members) ≤ n := nestingOfMembers_le h
    simp only [nestingOfMembers] at hmax
    simp only [nesting]
    omega

theorem nesting_ofOption {α : Type} {f : α → Json} (h : ∀ a, (f a).nesting = 0) (o : Option α) :
    (ofOption f o).nesting = 0 := by
  cases o with
  | none => rfl
  | some a => exact h a

theorem nesting_ofText (t : Option Text) : (ofOption str t).nesting = 0 :=
  nesting_ofOption (fun _ => rfl) t

end Json

theorem DaySchedule.nesting_toJson (d : DaySchedule) : d.toJson.nesting ≤ 1 := by
  apply Json.nesting_obj_le
  simp [Json.nesting, Json.nesting_ofText]

theorem WorkingHours.nesting_toJson (w : WorkingHours) : w.toJson.nesting ≤ 2 := by
  apply Json.nesting_obj_le
  simp [DaySchedule.nesting_toJson]

theorem Directory.Address.nesting_toJson (a : Address) : a.toJson.nesting ≤ 1 := by
  apply Json.nesting_obj_le
  simp [Json.nesting, Json.nesting_ofText]

theorem Directory.Company.nesting_snapshot (c : Company) : c.snapshot.nesting ≤ 3 := by
  apply Json.nesting_obj_le
  have haddresses : (Json.arr (c.addresses.map (·.toJson))).nesting ≤ 2 :=
    Json.nesting_arr_le (by simp [Address.nesting_toJson])
  have hmanagers : (Json.arr (c.managers.map .int)).nesting ≤ 1 :=
    Json.nesting_arr_le (by simp [Json.nesting])
  have hhours := c.workingHours.nesting_toJson
  simp only [List.mem_cons, List.not_mem_nil, or_false, forall_eq_or_imp, forall_eq]
  refine ⟨by simp [Json.nesting], by simp [Json.nesting], haddresses, hhours, by omega⟩

theorem Directory.Service.nesting_snapshot (s : Service) : s.snapshot.nesting ≤ 2 := by
  apply Json.nesting_obj_le
  have haddresses : (Json.arr (s.addresses.map .int)).nesting ≤ 1 :=
    Json.nesting_arr_le (by simp [Json.nesting])
  have hprice : (Json.ofOption .float (s.price.filter fun x => decide x.IsFinite)).nesting = 0 :=
    Json.nesting_ofOption (fun _ => rfl) _
  have hduration : (Json.ofOption .int s.duration).nesting = 0 :=
    Json.nesting_ofOption (fun _ => rfl) _
  simp [Json.nesting, hprice, hduration, haddresses]

/-! ## Keys -/

namespace Directory

theorem isDigit_of_mem_repr {n : Nat} {c : Char} (h : c ∈ n.repr.toList) : c.isDigit := by
  rw [Nat.repr_eq_ofList_toDigits, String.toList_ofList] at h
  exact Nat.isDigit_of_mem_toDigits (by decide) (by decide) h

theorem repr_inj {m n : Nat} (h : m.repr = n.repr) : m = n := by
  rw [Nat.repr_eq_ofList_toDigits, Nat.repr_eq_ofList_toDigits, String.ofList_inj] at h
  rw [← Nat.ofDigitChars_ten_toDigits (n := m), h, Nat.ofDigitChars_ten_toDigits]

theorem minus_append_repr_ne {m n : Nat} : "-" ++ m.repr ≠ n.repr := by
  intro h
  have hmem : '-' ∈ n.repr.toList := by rw [← h]; simp
  exact absurd (isDigit_of_mem_repr hmem) (by decide)

theorem toString_inj {a b : Int} : toString a = toString b ↔ a = b := by
  refine ⟨fun h => ?_, congrArg toString⟩
  rw [Int.toString_eq_repr, Int.toString_eq_repr, Int.repr_eq_if, Int.repr_eq_if] at h
  split at h <;> split at h
  · have hn := repr_inj h
    omega
  · exact absurd h.symm minus_append_repr_ne
  · exact absurd h minus_append_repr_ne
  · have hn := repr_inj ((String.append_right_inj _).mp h)
    omega

theorem colon_notMem_toString (n : Int) : ':' ∉ (toString n).toList := by
  have hdigits (m : Nat) : ':' ∉ m.repr.toList := fun h =>
    absurd (isDigit_of_mem_repr h) (by decide)
  rw [Int.toString_eq_repr, Int.repr_eq_if]
  split
  · exact hdigits _
  · rw [String.toList_append, List.mem_append, not_or]
    exact ⟨by decide, hdigits _⟩

theorem companyKey_inj {a b : Int} : companyKey a = companyKey b ↔ a = b := by
  unfold companyKey
  rw [String.append_right_inj, toString_inj]

/-- A service's key tells both ids: they are parted by a colon, which is in neither. -/
theorem serviceKey_inj {c s c' s' : Int} :
    serviceKey c s = serviceKey c' s' ↔ c = c' ∧ s = s' := by
  refine ⟨fun h => ?_, fun ⟨hc, hs⟩ => hc ▸ hs ▸ rfl⟩
  unfold serviceKey at h
  simp only [String.append_assoc, String.append_right_inj] at h
  have hcolon : ":".toList = [':'] := rfl
  have htexts : (toString c).toList ++ ':' :: (toString s).toList =
      (toString c').toList ++ ':' :: (toString s').toList := by
    have h := congrArg String.toList h
    simpa only [String.toList_append, hcolon, List.singleton_append] using h
  obtain ⟨hc, -, hs⟩ := (List.append_cons_inj_of_notMem (colon_notMem_toString c)
    (colon_notMem_toString s)).mp htexts
  exact ⟨toString_inj.mp (String.toList_inj.mp hc), toString_inj.mp (String.toList_inj.mp hs)⟩

end Directory

end SlotBooking
