import SlotBooking.Proofs.Occupancy

/-!
# Overlapping is sharing a minute

Whether windows overlap is found by comparing their ends. Windows that last at least a minute
overlap exactly if some minute is in both; windows that touch, or lie apart, have none. So counting
overlaps counts the active bookings that share a minute with a window, in whatever order they come.

* `Window.Contains`, `Window.overlaps_iff_sharesMinute`: overlapping, by minutes.
* `countOverlaps_append`: counts add up.
* `countOverlaps_eq_error`: counting fails at the first active occupancy that cannot be read.
* `countOverlaps_counts_minutes`: the main statement.
-/

namespace SlotBooking

/-! ## Two windows -/

namespace Window

/-- The minute is in the window. -/
def Contains (w : Window) (m : Int) : Prop := w.start ≤ m ∧ m < w.stop

/-- A minute is in both windows. -/
def SharesMinute (v w : Window) : Prop := ∃ m, v.Contains m ∧ w.Contains m

variable {v w : Window}

/-- If any minute is in both windows, the later of the two starts is. -/
theorem sharesMinute_iff : v.SharesMinute w ↔ max v.start w.start < min v.stop w.stop := by
  constructor
  · rintro ⟨m, ⟨hv, hv'⟩, hw, hw'⟩
    have hstart : max v.start w.start ≤ m := Int.max_le.mpr ⟨hv, hw⟩
    exact Int.lt_of_le_of_lt hstart (Int.lt_min.mpr ⟨hv', hw'⟩)
  · intro h
    obtain ⟨hv, hw⟩ := Int.lt_min.mp h
    exact ⟨max v.start w.start, ⟨Int.le_max_left .., hv⟩, Int.le_max_right .., hw⟩

instance (v w : Window) : Decidable (v.SharesMinute w) := decidable_of_iff _ sharesMinute_iff.symm

/-- Two windows in which there is a minute overlap exactly if some minute is in both. -/
theorem overlaps_iff_sharesMinute (hv : 1 ≤ v.duration) (hw : 1 ≤ w.duration) :
    v.Overlaps w ↔ v.SharesMinute w := by
  rw [sharesMinute_iff]
  unfold Overlaps stop
  omega

end Window

/-! ## Many occupancies -/

/-- A minute of the window is taken up. -/
def Occupancy.SharesMinute (o : Occupancy) (w : Window) : Prop :=
  ∃ v, o.window = .ok v ∧ w.SharesMinute v

instance (o : Occupancy) (w : Window) : Decidable (o.SharesMinute w) := decidableOfOk _ _

section Count

variable {w : Window} {o : Occupancy} {os os' : List Occupancy} {e : TimeOfDay.Error}

theorem Occupancy.meets_iff_sharesMinute (hw : 1 ≤ w.duration) (ho : 1 ≤ o.duration) :
    o.Meets w ↔ o.SharesMinute w := by
  refine exists_congr fun v => and_congr_right fun hv => ?_
  exact Window.overlaps_iff_sharesMinute hw ((window_eq_ok.mp hv).2 ▸ ho)

theorem Occupancy.window_eq_error :
    o.window = .error e ↔ TimeOfDay.parse o.startTime = .error e := by
  unfold window
  rw [bind_eq_error]
  exact or_iff_left fun ⟨_, _, h⟩ => by cases h

theorem Occupancy.not_readable_iff :
    ¬ o.Readable ↔ ∃ e, TimeOfDay.parse o.startTime = .error e := by
  unfold Readable
  simp only [← window_eq_error]
  cases o.window <;> simp

/-- The count of two lists together is the sum of their counts. It fails as the first of them that
fails. -/
theorem countOverlaps_append (w : Window) (os os' : List Occupancy) :
    countOverlaps w (os ++ os') = do
      let m ← countOverlaps w os
      let n ← countOverlaps w os'
      return m + n := by
  induction os with
  | nil =>
    simp only [List.nil_append, countOverlaps, ok_bind, Nat.zero_add]
    cases countOverlaps w os' <;> rfl
  | cons o os ih =>
    rw [List.cons_append, countOverlaps, countOverlaps, ih]
    by_cases ha : o.IsActive
    · rw [if_pos ha, if_pos ha]
      simp only [bind_assoc, pure_bind]
      refine bind_congr fun v => bind_congr fun m => bind_congr fun n => ?_
      split
      · rw [Nat.add_right_comm]
      · rfl
    · rw [if_neg ha, if_neg ha]

/-- Counting fails exactly at the first active occupancy whose start time cannot be read. -/
theorem countOverlaps_eq_error : countOverlaps w os = .error e ↔
    ∃ before o after, os = before ++ o :: after ∧ (∀ p ∈ before, p.IsActive → p.Readable) ∧
      o.IsActive ∧ TimeOfDay.parse o.startTime = .error e := by
  constructor
  · intro h
    induction os with
    | nil => cases h
    | cons o os ih =>
      unfold countOverlaps at h
      by_cases ha : o.IsActive
      · rw [if_pos ha, bind_eq_error] at h
        rcases h with h | ⟨v, hv, h⟩
        · exact ⟨[], o, os, rfl, fun p hp => absurd hp List.not_mem_nil, ha,
            Occupancy.window_eq_error.mp h⟩
        · rcases bind_eq_error.mp h with h | ⟨_, _, h⟩
          · obtain ⟨before, p, after, rfl, hbefore, hp⟩ := ih h
            exact ⟨o :: before, p, after, rfl,
              List.forall_mem_cons.mpr ⟨fun _ => ⟨v, hv⟩, hbefore⟩, hp⟩
          · cases h
      · rw [if_neg ha] at h
        obtain ⟨before, p, after, rfl, hbefore, hp⟩ := ih h
        exact ⟨o :: before, p, after, rfl,
          List.forall_mem_cons.mpr ⟨fun hact => absurd hact ha, hbefore⟩, hp⟩
  · rintro ⟨before, o, after, rfl, hbefore, ha, he⟩
    have hcount : countOverlaps w before = .ok _ := countOverlaps_eq_ok.mpr ⟨hbefore, rfl⟩
    have hfails : countOverlaps w (o :: after) = .error e := by
      unfold countOverlaps
      rw [if_pos ha, Occupancy.window_eq_error.mpr he]
      rfl
    rw [countOverlaps_append, hcount, hfails]
    rfl

end Count

/-- **Overlaps are shared minutes.** For a window and occupancies that last at least a minute, the
count is the number of active ones with a minute in the window, if the start times of the active
ones can be read; the others are not looked at, and the order does not matter. Otherwise it fails at
the first start time of an active one that cannot be read. Overlapping is symmetric, and counts of
two lists add up. -/
theorem countOverlaps_counts_minutes {w : Window} (hw : 1 ≤ w.duration) {os : List Occupancy}
    (hos : ∀ o ∈ os, 1 ≤ o.duration) :
    ((∀ o ∈ os, o.IsActive → o.Readable) → ∀ os', os'.Perm os → countOverlaps w os' =
      .ok (os.countP fun o => decide (o.IsActive ∧ o.SharesMinute w))) ∧
    (¬ (∀ o ∈ os, o.IsActive → o.Readable) → ∃ before o after e, os = before ++ o :: after ∧
      (∀ p ∈ before, p.IsActive → p.Readable) ∧ o.IsActive ∧
      TimeOfDay.parse o.startTime = .error e ∧ countOverlaps w os = .error e) ∧
    (∀ u v : Window, u.Overlaps v ↔ v.Overlaps u) ∧
    ∀ (v : Window) (xs ys : List Occupancy), countOverlaps v (xs ++ ys) = do
      let m ← countOverlaps v xs
      let n ← countOverlaps v ys
      return m + n := by
  refine ⟨fun hread os' hperm => ?_, fun hunread => ?_, fun _ _ => Window.overlaps_comm,
    countOverlaps_append⟩
  · refine countOverlaps_eq_ok.mpr ⟨fun o ho => hread o (hperm.mem_iff.mp ho), ?_⟩
    rw [hperm.countP_eq]
    refine List.countP_congr fun o ho => ?_
    rw [decide_eq_true_eq, decide_eq_true_eq, Occupancy.meets_iff_sharesMinute hw (hos o ho)]
  · cases hcount : countOverlaps w os with
    | ok n => exact absurd (countOverlaps_eq_ok.mp hcount).1 hunread
    | error e =>
      obtain ⟨before, o, after, hsplit, hbefore, ha, hp⟩ := countOverlaps_eq_error.mp hcount
      exact ⟨before, o, after, e, hsplit, hbefore, ha, hp, rfl⟩

/-- A booking in the second half of the slot at 10:00, one that ends as the slot begins, and one
that did not take place, with a start time that nobody can read. -/
def sampleOccupancies : List Occupancy :=
  [⟨"10:15", 30, "confirmed"⟩, ⟨"09:30", 30, "pending"⟩, ⟨"soon", 30, "no_show"⟩]

/-- The first of the sample alone is counted; no count is had if the last is still to take place. -/
theorem countOverlaps_counts_minutes_sample :
    countOverlaps ⟨600, 30⟩ sampleOccupancies = .ok 1 ∧
      ∃ e, countOverlaps ⟨600, 30⟩ [⟨"soon", 30, "confirmed"⟩] = .error e := by
  have hread : ∀ o ∈ sampleOccupancies, o.IsActive → o.Readable := by
    simp only [sampleOccupancies, List.forall_mem_cons]
    exact ⟨fun _ => ⟨⟨615, 30⟩, rfl⟩, fun _ => ⟨⟨570, 30⟩, rfl⟩,
      fun h => absurd h (by decide), nofun⟩
  have hunread : ¬ ∀ o ∈ ([⟨"soon", 30, "confirmed"⟩] : List Occupancy),
      o.IsActive → o.Readable := by
    intro h
    obtain ⟨v, hv⟩ := h _ List.mem_cons_self (by decide)
    cases hv
  have hlasts : 1 ≤ (⟨600, 30⟩ : Window).duration := by decide
  have hsample : ∀ o ∈ sampleOccupancies, 1 ≤ o.duration := by simp [sampleOccupancies]
  have hsoon : ∀ o ∈ ([⟨"soon", 30, "confirmed"⟩] : List Occupancy), 1 ≤ o.duration := by simp
  have hcount := countOverlaps_counts_minutes hlasts hsample
  have hfails := countOverlaps_counts_minutes hlasts hsoon
  obtain ⟨-, -, -, e, -, -, -, -, he⟩ := hfails.2.1 hunread
  exact ⟨hcount.1 hread _ (.refl _), e, he⟩

end SlotBooking
