import SlotBooking.Proofs.TimeOfDay

/-!
# Written times

Every number of minutes is written as hours and minutes, and only the minutes of a day are written
as a time of day: from the end of the day on the hours are past 23, from 100 hours on they have too
many digits, and below zero they have a sign. The times of day in ASCII are written forms; those in
other scripts are read, but never written.

* `TimeOfDay.parse_text_eq`: what the written form of a number of minutes is read as.
* `TimeOfDay.text_of_parse`: a time in ASCII is the written form of the minute that it is read as.
* `TimeOfDay.times_and_minutes_inverse`: times and minutes are inverse on the day.
-/

namespace SlotBooking.TimeOfDay

/-! ## Written forms that are not read -/

theorem text?_eq_some {m : Int} {s : String} :
    text? m = some s ↔ IsWritable m ∧ s = text m := by
  unfold text?
  rw [Option.ite_none_right_eq_some, Option.some_inj, eq_comm (a := text m)]

/-- Hours of one or two digits can be written. -/
theorem isWritable_of_lt {n : Nat} (h : n < 6000) : IsWritable n := by
  have hdigits : (Nat.toDigits 10 (n / 60)).length ≤ 2 :=
    (Nat.length_toDigits_le_iff (by decide) (by decide)).mpr (by omega)
  have htwo : 2 ≤ Json.maxDigits := by decide
  unfold IsWritable
  rw [Int.fdiv_eq_ediv_of_nonneg _ (by decide)]
  exact Nat.le_trans hdigits htwo

/-- Hours with a sign are no digits. -/
theorem parts?_text_of_neg {m : Int} (h : m < 0) : parts? (text m) = none := by
  have hhours : m.fdiv 60 < 0 := by
    rw [Int.fdiv_eq_ediv_of_nonneg _ (by decide)]
    omega
  obtain ⟨cs, hcs⟩ := Text.toList_padded_of_neg 2 hhours
  refine Option.eq_none_iff_forall_ne_some.mpr fun p hp => ?_
  obtain ⟨a, b, c, d, hs, hdigit, -⟩ := parts?_eq_some.mp hp
  rw [text, String.toList_append, String.toList_append, hcs, List.cons_append, List.cons_append,
    List.cons.injEq] at hs
  have hsign : Text.isDigit '-' = true := hs.1 ▸ hdigit a List.mem_cons_self
  exact absurd hsign (by decide)

theorem length_text (n : Nat) : (text n).length =
    max 2 (Nat.toDigits 10 (n / 60)).length + 1 + max 2 (Nat.toDigits 10 (n % 60)).length := by
  rw [text_natCast, String.length_append, String.length_append, Text.length_padded_natCast,
    Text.length_padded_natCast]
  rfl

/-- Hours of three digits and more leave no time of five characters. -/
theorem parts?_text_of_long {n : Nat} (h : 6000 ≤ n) : parts? (text n) = none := by
  have hdigits : ¬ (Nat.toDigits 10 (n / 60)).length ≤ 2 := by
    rw [Nat.length_toDigits_le_iff (by decide) (by decide)]
    omega
  refine Option.eq_none_iff_forall_ne_some.mpr fun p hp => ?_
  obtain ⟨a, b, c, d, hs, -⟩ := parts?_eq_some.mp hp
  have hlength := length_text n
  rw [← String.length_toList, hs] at hlength
  simp only [List.length_cons, List.length_nil] at hlength
  omega

theorem parse_text_of_range {n : Nat} (h₀ : 1440 ≤ n) (h₁ : n < 6000) :
    parse (text n) = .error (.range (text n)) := by
  rw [parse_of_digits (toList_text h₁) (Text.decimalValue?_digitChar (by omega))
    (Text.decimalValue?_digitChar (by omega)) (Text.decimalValue?_digitChar (by omega))
    (Text.decimalValue?_digitChar (by omega)), if_pos (by omega)]

/-- Exactly the written forms of the minutes of a day are read. -/
theorem parse_text_eq (m : Int) : parse (text m) =
    if 0 ≤ m ∧ m < 1440 then .ok m
    else if 0 ≤ m ∧ m < 6000 then .error (.range (text m))
    else .error (.shape (text m)) := by
  by_cases hday : 0 ≤ m ∧ m < 1440
  · rw [if_pos hday, parse_text hday.1 hday.2]
  rw [if_neg hday]
  by_cases hneg : m < 0
  · rw [if_neg (by omega), parse_of_parts_none (parts?_text_of_neg hneg)]
  obtain ⟨n, rfl⟩ := Int.eq_ofNat_of_zero_le (by omega : 0 ≤ m)
  by_cases htwo : n < 6000
  · rw [if_pos (by omega), parse_text_of_range (by omega) htwo]
  · rw [if_neg (by omega), parse_of_parts_none (parts?_text_of_long (by omega))]

/-! ## Times that are written -/

/-- A time in ASCII is the written form of the minute that it is read as. -/
theorem text_of_parse {s : String} {m : Int} (h : parse s = .ok m)
    (hascii : ∀ c ∈ s.toList, c.toNat < 128) : text m = s := by
  have hm := parse_bounds h
  have hread := parse_text hm.1 hm.2
  -- Two times in the same scripts that are read as one minute are not ordered either way.
  have hscripts := sameScripts_of_ascii hread h (text_ascii hm) hascii
  exact String.le_antisymm ((le_iff_of_sameScripts hread h hscripts).mpr (Int.le_refl m))
    ((le_iff_of_sameScripts h hread hscripts.symm).mpr (Int.le_refl m))

/-! ## Reading back -/

/-- Why a number of minutes is not read back. -/
inductive ReadBackError where
  /-- The hours have more digits than are written. -/
  | unwritable
  /-- The written form is no time of day. -/
  | unreadable (e : Error)
deriving DecidableEq

/-- Writes a number of minutes and reads what was written. -/
def readBack (m : Int) : Except ReadBackError Int :=
  match text? m with
  | some s => (parse s).mapError .unreadable
  | none => .error .unwritable

theorem readBack_of_writable {m : Int} (h : IsWritable m) :
    readBack m = (parse (text m)).mapError .unreadable := by
  unfold readBack
  rw [text?_eq_some.mpr ⟨h, rfl⟩]

theorem readBack_of_not_writable {m : Int} (h : ¬ IsWritable m) :
    readBack m = .error .unwritable := by
  unfold readBack text?
  rw [if_neg h]

theorem isWritable_of_day {m : Int} (h : 0 ≤ m ∧ m < 1440) : IsWritable m := by
  obtain ⟨n, rfl⟩ := Int.eq_ofNat_of_zero_le h.1
  exact isWritable_of_lt (by omega)

/-- **Times and minutes are inverse on the day.** A number of minutes that is written and read again
is found as it was if it is a minute of a day, and fails otherwise: where its hours have too many
digits to be written, where they are past 23, and where they are not two digits. Every text that is
read, in whatever digits, is five characters with a colon in the middle, and is read as a minute of
the day; if it is in ASCII, it is what this minute is written as, and the order of such texts is the
order of their minutes. -/
theorem times_and_minutes_inverse :
    (∀ m : Int, readBack m =
      if 0 ≤ m ∧ m < 1440 then .ok m
      else if ¬ IsWritable m then .error .unwritable
      else if 0 ≤ m ∧ m < 6000 then .error (.unreadable (.range (text m)))
      else .error (.unreadable (.shape (text m)))) ∧
    (∀ (t : Text) (m : Int), ofText t = .ok m → (0 ≤ m ∧ m < 1440) ∧
      ∃ s : String, t = s ∧ s.length = 5 ∧ s.toList[2]? = some ':' ∧
        ((∀ c ∈ s.toList, c.toNat < 128) → text? m = some s)) ∧
    ∀ (s s' : String) (m m' : Int), parse s = .ok m → parse s' = .ok m' →
      (∀ c ∈ s.toList, c.toNat < 128) → (∀ c ∈ s'.toList, c.toNat < 128) →
      (s < s' ↔ m < m') ∧ (s = s' ↔ m = m') := by
  refine ⟨fun m => ?_, fun t m h => ?_, fun s s' m m' hs hs' has has' => ⟨?_, ?_, ?_⟩⟩
  · by_cases hday : 0 ≤ m ∧ m < 1440
    · rw [if_pos hday, readBack_of_writable (isWritable_of_day hday), parse_text hday.1 hday.2]
      rfl
    · rw [if_neg hday]
      by_cases hwritable : IsWritable m
      · rw [if_neg (not_not_intro hwritable), readBack_of_writable hwritable, parse_text_eq,
          if_neg hday]
        split <;> rfl
      · rw [if_pos hwritable, readBack_of_not_writable hwritable]
  · obtain ⟨s, rfl, hs⟩ := ofText_eq_ok.mp h
    obtain ⟨a, b, c, d, hlist, -⟩ := parse_eq_ok.mp hs
    have hday := parse_bounds hs
    refine ⟨hday, s, rfl, ?_, ?_, fun hascii => ?_⟩
    · rw [← String.length_toList, hlist]
      rfl
    · rw [hlist]
      rfl
    · exact text?_eq_some.mpr ⟨isWritable_of_day hday, (text_of_parse hs hascii).symm⟩
  · exact lt_iff_of_sameScripts hs hs' (sameScripts_of_ascii hs hs' has has')
  · rintro rfl
    exact Except.ok.inj (hs.symm.trans hs')
  · rintro rfl
    rw [← text_of_parse hs has, text_of_parse hs' has']

/-- Midnight at the end of a day is written and not read; half past nine is written as it was read,
and comes before ten o'clock as a text and as a minute. -/
theorem times_and_minutes_inverse_sample :
    readBack 1440 = .error (.unreadable (.range "24:00")) ∧ text? 570 = some "09:30" ∧
      ("09:30" < "10:00" ↔ (570 : Int) < 600) := by
  obtain ⟨hback, hread, horder⟩ := times_and_minutes_inverse
  have hnine : parse "09:30" = .ok 570 := rfl
  have hten : parse "10:00" = .ok 600 := rfl
  have hnine_ascii : ∀ c ∈ "09:30".toList, c.toNat < 128 := by simp
  have hten_ascii : ∀ c ∈ "10:00".toList, c.toNat < 128 := by simp
  have hwritable : IsWritable 1440 := isWritable_of_lt (by decide)
  refine ⟨?_, ?_, (horder _ _ _ _ hnine hten hnine_ascii hten_ascii).1⟩
  · rw [hback, if_neg (by decide), if_neg (not_not_intro hwritable), if_pos (by decide)]
    rfl
  · obtain ⟨-, s, hs, -, -, hwritten⟩ := hread "09:30" 570 (ofText_eq_ok.mpr ⟨_, rfl, hnine⟩)
    obtain rfl := Text.ofString_injective hs
    exact hwritten hnine_ascii

end SlotBooking.TimeOfDay
