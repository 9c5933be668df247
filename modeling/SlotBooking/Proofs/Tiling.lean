import SlotBooking.Proofs.Agreement

/-!
# The slots tile the day

The starts of a day are found by a walk from its opening time, one slot length at a time, while the
next slot still ends by closing time. On the current day those before the notice are then dropped;
since starts ascend, only the front of the list can be lost.

* `Schedule.Tiles`: the walk and the starts that it finds, with what it fits and leaves over.
* `Schedule.startTimes_of_hours`: the starts that are offered are those of the walk, less the early.
* `Schedule.daySlots_tile`: every working day of readable hours, at every instant and notice.
-/

namespace SlotBooking

namespace Schedule

/-! ## The walk -/

/-- A walk from a minute on finds the starts of the slots of the given length that end by `last`. -/
inductive Tiles (length last : Int) : Int → List Int → Prop where
  | done {t : Int} (full : last < t + length) : Tiles length last t []
  | next {t : Int} {starts : List Int} (fits : t + length ≤ last)
      (rest : Tiles length last (t + length) starts) : Tiles length last t (t :: starts)

section Walk

variable {first last length : Int}

/-- The walk ends, and has then found the grid. -/
theorem tiles_gridStarts (hlen : 0 < length) :
    Tiles length last first (gridStarts first last length) := by
  fun_induction gridStarts first last length with
  | case1 first h ih => exact .next h.2 ih
  | case2 first h => exact .done (Int.not_le.mp fun hfits => h ⟨hlen, hfits⟩)

variable {t : Int} {starts : List Int}

theorem Tiles.within (hlen : 0 < length) (h : Tiles length last t starts) :
    ∀ s ∈ starts, t ≤ s ∧ s + length ≤ last := by
  induction h with
  | done => exact fun _ hs => absurd hs List.not_mem_nil
  | next fits _ ih =>
    intro s hs
    rcases List.mem_cons.mp hs with rfl | hs
    · exact ⟨Int.le_refl s, fits⟩
    · have := ih s hs
      omega

/-- Every slot has ended when the next one starts. -/
theorem Tiles.apart (hlen : 0 < length) (h : Tiles length last t starts) :
    starts.Pairwise fun a b => a + length ≤ b := by
  induction h with
  | done => exact .nil
  | next _ rest ih => exact .cons (fun s hs => (rest.within hlen s hs).1) ih

/-- After the slots of a walk there is no time for another. -/
theorem Tiles.full (h : Tiles length last t starts) {s : Int} (hs : t ≤ s)
    (hafter : ∀ a ∈ starts, a + length ≤ s) : last < s + length := by
  induction h with
  | done full => omega
  | next _ _ ih =>
    exact ih (hafter _ List.mem_cons_self) fun a ha => hafter a (List.mem_cons_of_mem _ ha)

end Walk

/-! ## What is offered of a walk -/

/-- Where a property holds of all that follows once it holds, the rest of the list is kept. -/
theorem filter_suffix {α : Type} {p : α → Bool} {l : List α}
    (h : l.Pairwise fun a b => p a = true → p b = true) : l.filter p <:+ l := by
  induction l with
  | nil => exact List.suffix_rfl
  | cons a l ih =>
    obtain ⟨ha, hl⟩ := List.pairwise_cons.mp h
    by_cases hp : p a = true
    · have hall : ∀ b ∈ a :: l, p b = true := by
        intro b hb
        rcases List.mem_cons.mp hb with rfl | hb
        · exact hp
        · exact ha b hb hp
      exact ⟨[], List.filter_eq_self.mpr hall⟩
    · rw [List.filter_cons_of_neg hp]
      exact (ih hl).trans (List.suffix_cons a l)

/-- The starts that leave the notice, where a date is the current one. -/
def offered (grid : List Int) (date : Date) (now : Instant) (notice : Int) : List Int :=
  grid.filter fun s => decide (date = now.date → now.minute + notice ≤ s)

section Offered

variable {grid : List Int} {date : Date} {now now' : Instant} {notice notice' : Int}

theorem offered_of_ne (h : date ≠ now.date) : offered grid date now notice = grid :=
  List.filter_eq_self.mpr fun _ _ => decide_eq_true fun htoday => absurd htoday h

theorem offered_suffix (hgrid : grid.Pairwise (· < ·)) : offered grid date now notice <:+ grid := by
  refine filter_suffix (hgrid.imp fun {a b} hab ha => ?_)
  rw [decide_eq_true_eq] at ha ⊢
  exact fun htoday => Int.le_trans (ha htoday) (Int.le_of_lt hab)

/-- As time passes on the current day, or with a longer notice, starts are lost from the front. -/
theorem offered_suffix_offered (hgrid : grid.Pairwise (· < ·)) (hdate : ¬ date < now'.date)
    (hlater : now.date < now'.date ∨ now.date = now'.date ∧ now.minute ≤ now'.minute)
    (hnotice : notice ≤ notice') :
    offered grid date now' notice' <:+ offered grid date now notice := by
  have hstill : ∀ s, (date = now'.date → now'.minute + notice' ≤ s) →
      date = now.date → now.minute + notice ≤ s := by
    intro s hs htoday
    rcases hlater with hbefore | ⟨hsame, hminute⟩
    · exact absurd (htoday ▸ hbefore) hdate
    · have := hs (htoday.trans hsame)
      omega
  have htwice : offered grid date now' notice' =
      offered (offered grid date now notice) date now' notice' := by
    unfold offered
    rw [List.filter_filter]
    refine List.filter_congr fun s _ => ?_
    rw [← Bool.decide_and, decide_eq_decide]
    exact ⟨fun hs => ⟨hs, hstill s hs⟩, fun hs => hs.1⟩
  rw [htwice]
  exact offered_suffix (hgrid.filter _)

end Offered

section Day

variable {day : DaySchedule} {length : Int} {date : Date} {now : Instant} {notice : Int}

theorem startTimes_of_past (hlen : 0 < length) (h : date < now.date) :
    startTimes day length date now notice = .ok [] := by
  unfold startTimes daySlots
  rw [if_neg (Int.not_le.mpr hlen), if_pos h]
  rfl

theorem startTimes_of_closed (hlen : 0 < length) (h : ¬ day.IsWorkingDay) :
    startTimes day length date now notice = .ok [] := by
  have hhours : day.hours? = none := by
    unfold DaySchedule.IsWorkingDay at h
    rwa [Option.not_isSome_iff_eq_none] at h
  unfold startTimes daySlots
  rw [if_neg (Int.not_le.mpr hlen), hhours]
  split <;> rfl

theorem startTimes_of_hours {opens closes : Text} {first last : Int} (hlen : 0 < length)
    (hd : ¬ date < now.date) (hday : day.hours? = some (opens, closes))
    (hfirst : readTime opens = .ok first) (hlast : readTime closes = .ok last) :
    startTimes day length date now notice =
      .ok ((offered (gridStarts first last length) date now notice).map TimeOfDay.text) := by
  unfold startTimes daySlots
  simp only [if_neg (Int.not_le.mpr hlen), if_neg hd, hday, hfirst, hlast, ok_bind]
  by_cases htoday : date = now.date
  · rw [if_pos htoday]
    unfold offered earliestStart
    simp only [htoday, forall_const]
    rfl
  · rw [if_neg htoday, offered_of_ne htoday]
    rfl

theorem hours_of_isWorkingDay {opens closes : Text} (hopens : day.openTime = some opens)
    (hcloses : day.closeTime = some closes) (h : day.IsWorkingDay) :
    day.hours? = some (opens, closes) := by
  obtain ⟨isOpen, openTime, closeTime⟩ := day
  cases hopens
  cases hcloses
  unfold DaySchedule.IsWorkingDay at h
  cases isOpen with
  | false => exact absurd h nofun
  | true =>
    have hhours : DaySchedule.hours? ⟨true, some opens, some closes⟩ =
      if opens.isEmpty || closes.isEmpty then none else some (opens, closes) := rfl
    rw [hhours] at h ⊢
    split at h
    · exact absurd h nofun
    · rename_i hwritten
      rw [if_neg hwritten]

end Day

/-- **Tiling.** Take a day whose opening and closing times are read as `first` and `last`, and a
slot length of at least one minute. On a past date or a day that is not a working day nothing is
offered. Otherwise the starts `first + k * length` of all slots that end by `last` are the grid of
the day, which is what a walk from `first` finds; on the current day those that leave the notice are
offered, on a later day all. What is written of a start is read as its minute, and as texts the
starts ascend. The slots are apart and end by `last`, and after those of the grid no other fits.
What is offered ends as the grid does, and loses from the front as time passes and the notice
grows. -/
theorem daySlots_tile (day : DaySchedule) (opens closes : Text) (first last length : Int)
    (hopens : day.openTime = some opens) (hcloses : day.closeTime = some closes)
    (hfirst : readTime opens = .ok first) (hlast : readTime closes = .ok last) (hlen : 1 ≤ length)
    (date : Date) (now : Instant) (notice : Int) :
    (date < now.date ∨ ¬ day.IsWorkingDay → startTimes day length date now notice = .ok []) ∧
    (¬ date < now.date → day.IsWorkingDay → ∃ (n : Nat) (grid starts : List Int)
        (times : List String),
      (∀ k : Nat, k < n ↔ first + (k + 1) * length ≤ last) ∧
      grid = ((List.range n).map fun k : Nat => first + k * length) ∧
      Tiles length last first grid ∧
      starts = (grid.filter fun s => decide (date = now.date → now.minute + notice ≤ s)) ∧
      times = starts.map TimeOfDay.text ∧
      startTimes day length date now notice = .ok times ∧
      (∀ s ∈ starts, TimeOfDay.parse (TimeOfDay.text s) = .ok s) ∧
      times.Pairwise (· < ·) ∧
      (starts.Pairwise fun a b => ¬ Window.Overlaps ⟨a, length⟩ ⟨b, length⟩) ∧
      (∀ s ∈ starts, Window.stop ⟨s, length⟩ ≤ last) ∧
      (∀ s, first ≤ s → (∀ a ∈ grid, Window.stop ⟨a, length⟩ ≤ s) →
        last < Window.stop ⟨s, length⟩) ∧
      starts <:+ grid ∧
      ∀ (now' : Instant) (notice' : Int),
        (now.date < now'.date ∨ now.date = now'.date ∧ now.minute ≤ now'.minute) →
        notice ≤ notice' →
        ∃ times', startTimes day length date now' notice' = .ok times' ∧ times' <:+ times) := by
  have hpos : 0 < length := hlen
  refine ⟨?_, fun hd hworking => ?_⟩
  · rintro (hpast | hclosed)
    · exact startTimes_of_past hpos hpast
    · exact startTimes_of_closed hpos hclosed
  have hday := hours_of_isWorkingDay hopens hcloses hworking
  have hwalk : Tiles length last first (gridStarts first last length) := tiles_gridStarts hpos
  have hascend : (gridStarts first last length).Pairwise (· < ·) :=
    (hwalk.apart hpos).imp fun hab => by omega
  have hsuffix : offered (gridStarts first last length) date now notice <:+
      gridStarts first last length := offered_suffix hascend
  have hbounds : ∀ s ∈ gridStarts first last length, 0 ≤ s ∧ s < 1440 := by
    intro s hs
    have := hwalk.within hpos s hs
    have := readTime_bounds hfirst
    have := readTime_bounds hlast
    omega
  refine ⟨_, gridStarts first last length, _, _, lt_ediv_toNat_iff hpos, gridStarts_eq hpos, hwalk,
    rfl, rfl, startTimes_of_hours hpos hd hday hfirst hlast, fun s hs => ?_, ?_, ?_,
    fun s hs => ?_, fun s hs hafter => hwalk.full hs hafter, hsuffix,
    fun now' notice' hlater hnotice => ?_⟩
  · have := hbounds s (hsuffix.subset hs)
    exact TimeOfDay.parse_text this.1 this.2
  · refine List.pairwise_map.mpr ((hascend.sublist hsuffix.sublist).imp_of_mem ?_)
    intro a b ha hb hab
    exact (TimeOfDay.text_lt_text (hbounds a (hsuffix.subset ha))
      (hbounds b (hsuffix.subset hb))).mpr hab
  · refine ((hwalk.apart hpos).sublist hsuffix.sublist).imp fun hab hoverlaps => ?_
    exact absurd hoverlaps.2 (Int.not_lt.mpr hab)
  · exact (hwalk.within hpos s (hsuffix.subset hs)).2
  · by_cases hd' : date < now'.date
    · exact ⟨[], startTimes_of_past hpos hd', List.nil_suffix⟩
    · exact ⟨_, startTimes_of_hours hpos hd' hday hfirst hlast,
        (offered_suffix_offered hascend hd' hlater hnotice).map _⟩

/-- A day from 09:00 to 11:00. -/
def sampleDay : DaySchedule := ⟨true, some "09:00", some "11:00"⟩

open Admission (sampleWorld) in
/-- At 08:00, with a notice of 65 minutes, the slot at 09:00 of the current day is lost. -/
theorem daySlots_tile_sample :
    readTime "09:00" = .ok 540 ∧ readTime "11:00" = .ok 660 ∧ sampleDay.IsWorkingDay ∧
      ∃ starts : List Int, startTimes sampleDay 30 (sampleWorld "" false).now.date
        (sampleWorld "" false).now 65 = .ok (starts.map TimeOfDay.text) ∧ 540 ∉ starts ∧
        570 ∈ starts ∧ (starts.map TimeOfDay.text).Pairwise (· < ·) := by
  have hworking : sampleDay.IsWorkingDay := by decide
  have htile := daySlots_tile sampleDay "09:00" "11:00" 540 660 30 rfl rfl rfl rfl (by decide)
    (sampleWorld "" false).now.date (sampleWorld "" false).now 65
  obtain ⟨n, grid, starts, times, hn, rfl, -, rfl, rfl, hslots, -, htexts, -⟩ :=
    htile.2 (by decide) hworking
  refine ⟨rfl, rfl, hworking, _, hslots, fun hs => ?_, List.mem_filter.mpr ⟨?_, by decide⟩, htexts⟩
  · exact absurd (List.mem_filter.mp hs).2 (by decide)
  · exact List.mem_map.mpr ⟨1, List.mem_range.mpr ((hn 1).mpr (by decide)), rfl⟩

end Schedule

end SlotBooking
