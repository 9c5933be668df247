import SlotBooking.Calendar.Instant
import SlotBooking.Failure
import SlotBooking.Schedule.WorkingHours

/-!
# The grid of a day

Slots tile a working day from its opening time in steps of the slot length; the last one ends by
closing time. For the current day, slots that start before the notice has passed are left out, and
so is every slot of a past day. Seconds do not count: 10:00:59 is 10:00.

* `gridStarts`: the starts of all slots between two minutes of the day.
* `daySlots`: the starts that can be offered for a date at an instant, as minutes.
* `startTimes`: the same as they are written.
-/

namespace SlotBooking.Schedule

/-- The starts of the slots of the given length, from the first minute on, that end by the last. -/
def gridStarts (first last length : Int) : List Int :=
  if 0 < length ∧ first + length ≤ last then first :: gridStarts (first + length) last length
  else []
termination_by (last - first).toNat

/-- The first minute of the current day that leaves the notice. -/
def earliestStart (now : Instant) (notice : Int) : Int := now.minute + notice

/-- A minute that the opening or closing time of a company writes. -/
def readTime (t : Text) : Except Failure Int := (TimeOfDay.ofText t).mapError .unreadableTime

/-- The minutes of the starts that can be offered for `date` at `now`, in ascending order. -/
def daySlots (day : DaySchedule) (length : Int) (date : Date) (now : Instant) (notice : Int) :
    Except Failure (List Int) :=
  if length ≤ 0 then .error (.slotLength length)
  else if date < now.date then .ok []
  else
    match day.hours? with
    | none => .ok []
    | some (opens, closes) => do
      let first ← readTime opens
      let last ← readTime closes
      let starts := gridStarts first last length
      if date = now.date then
        return starts.filter fun s => decide (earliestStart now notice ≤ s)
      else return starts

/-- The starts that can be offered for `date` at `now`, as they are written. -/
def startTimes (day : DaySchedule) (length : Int) (date : Date) (now : Instant) (notice : Int) :
    Except Failure (List String) :=
  (daySlots day length date now notice).map (·.map TimeOfDay.text)

/-- As many slots as the length divides off are those that end by the last minute. -/
theorem lt_ediv_toNat_iff {first last length : Int} (h : 0 < length) (k : Nat) :
    k < ((last - first) / length).toNat ↔ first + (k + 1) * length ≤ last := by
  have hk : (k : Int) + 1 ≤ (last - first) / length ↔ ((k : Int) + 1) * length ≤ last - first :=
    Int.le_ediv_iff_mul_le h
  omega

/-- With a slot less to come, the length divides off one less. -/
theorem ediv_toNat_succ {first last length : Int} (hlen : 0 < length)
    (h : first + length ≤ last) : ((last - first) / length).toNat =
      ((last - (first + length)) / length).toNat + 1 := by
  have hdiv : (last - (first + length)) / length = (last - first) / length - 1 := by
    rw [← Int.sub_sub, Int.sub_ediv_of_dvd _ (Int.dvd_refl length),
      Int.ediv_self (Int.ne_of_gt hlen)]
  have hpos : 1 ≤ (last - first) / length := (Int.le_ediv_iff_mul_le hlen).mpr (by omega)
  omega

/-- The grid in closed form. -/
theorem gridStarts_eq {first last length : Int} (hlen : 0 < length) :
    gridStarts first last length =
      (List.range ((last - first) / length).toNat).map fun k : Nat => first + k * length := by
  -- The induction is that of the walk: each step takes one slot off the time that is left.
  fun_induction gridStarts first last length with
  | case1 first h ih =>
    rw [ih, ediv_toNat_succ hlen h.2, List.range_succ_eq_map, List.map_cons, List.map_map]
    refine List.cons_eq_cons.mpr ⟨by simp, List.map_congr_left fun k _ => ?_⟩
    simp only [Function.comp_apply, Nat.succ_eq_add_one, Int.natCast_add, Int.natCast_one,
      Int.add_mul, Int.one_mul]
    omega
  | case2 first h =>
    have hnone : ((last - first) / length).toNat = 0 := by
      refine Nat.eq_zero_of_not_pos fun hpos => h ⟨hlen, ?_⟩
      have := (lt_ediv_toNat_iff hlen 0).mp hpos
      omega
    rw [hnone, List.range_zero, List.map_nil]

theorem mem_gridStarts {first last length s : Int} (h : 0 < length) :
    s ∈ gridStarts first last length ↔
      ∃ k : Nat, s = first + k * length ∧ s + length ≤ last := by
  have key : ∀ k : Nat, k < ((last - first) / length).toNat ↔
      first + k * length + length ≤ last := by
    intro k
    rw [lt_ediv_toNat_iff h, Int.add_mul, Int.one_mul, Int.add_assoc]
  simp only [gridStarts_eq h, List.mem_map, List.mem_range]
  constructor
  · rintro ⟨k, hk, rfl⟩
    exact ⟨k, rfl, (key k).1 hk⟩
  · rintro ⟨k, rfl, hk⟩
    exact ⟨k, (key k).2 hk, rfl⟩

end SlotBooking.Schedule
