import SlotBooking.Proofs.Lookup

/-!
# Reading times of day

Slots are offered by the written form of their start, and a request names its start in the same way.
Times are sorted as texts. That is the order of their minutes where the digits at each place are of
one script, as in ASCII and so in all written forms; the digits of one script come after those of
another whatever their values are.

* `TimeOfDay.parse_eq_ok`, `TimeOfDay.ofText_eq_ok`: the texts that are read, and as which minutes.
* `TimeOfDay.parse_bounds`: a minute that is read is a minute of a day.
* `TimeOfDay.parse_text`: the written form of a minute of a day is read as that minute.
* `TimeOfDay.lt_iff_of_sameScripts`, `TimeOfDay.text_lt_text`: the order of texts and of minutes.
-/

namespace SlotBooking

/-! ## Digits -/

namespace Text

/-- The zero of the ten decimal digits to which a character belongs. -/
def decimalZero? (c : Char) : Option Nat :=
  decimalZeros.find? fun z => z ≤ c.toNat && c.toNat ≤ z + 9

/-- A decimal digit is as far from the zero of its script as its value says. -/
theorem decimalValue?_eq_some {c : Char} {d : Nat} : decimalValue? c = some d ↔
    d ≤ 9 ∧ ∃ z, decimalZero? c = some z ∧ c.toNat = z + d := by
  have hmap : decimalValue? c = (decimalZero? c).map fun z => c.toNat - z := rfl
  rw [hmap, Option.map_eq_some_iff]
  constructor
  · rintro ⟨z, hz, rfl⟩
    have hrange := List.find?_some hz
    rw [Bool.and_eq_true, decide_eq_true_eq, decide_eq_true_eq] at hrange
    exact ⟨by omega, z, hz, by omega⟩
  · rintro ⟨-, z, hz, hc⟩
    exact ⟨z, hz, by omega⟩

theorem isDigit_of_decimalValue? {c : Char} {d : Nat} (h : decimalValue? c = some d) :
    isDigit c = true := by
  unfold isDigit
  rw [h]
  rfl

section Order

variable {a a' b b' : Char} {x x' y y' : Nat}

/-- Digits of one script are ordered by their values. -/
theorem digit_lt_digit (ha : decimalValue? a = some x) (ha' : decimalValue? a' = some x')
    (h : decimalZero? a = decimalZero? a') : (a < a' ↔ x < x') ∧ (a = a' ↔ x = x') := by
  obtain ⟨-, z, hz, hax⟩ := decimalValue?_eq_some.mp ha
  obtain ⟨-, z', hz', hax'⟩ := decimalValue?_eq_some.mp ha'
  obtain rfl : z = z' := Option.some.inj (hz.symm.trans (h.trans hz'))
  have hlt : a < a' ↔ a.toNat < a'.toNat := Iff.rfl
  rw [hlt, ← Char.toNat_inj]
  omega

/-- Numbers of two digits come first in the order of texts that begin with them. -/
theorem pair_lt_pair (ha : decimalValue? a = some x) (hb : decimalValue? b = some y)
    (ha' : decimalValue? a' = some x') (hb' : decimalValue? b' = some y')
    (hza : decimalZero? a = decimalZero? a') (hzb : decimalZero? b = decimalZero? b')
    {l l' : List Char} : a :: b :: l < a' :: b' :: l' ↔
      10 * x + y < 10 * x' + y' ∨ 10 * x + y = 10 * x' + y' ∧ l < l' := by
  obtain ⟨halt, haeq⟩ := digit_lt_digit ha ha' hza
  obtain ⟨hblt, hbeq⟩ := digit_lt_digit hb hb' hzb
  have hy := (decimalValue?_eq_some.mp hb).1
  have hy' := (decimalValue?_eq_some.mp hb').1
  rw [List.cons_lt_cons_iff, List.cons_lt_cons_iff, halt, haeq, hblt, hbeq]
  by_cases hl : l < l'
  · simp only [hl, and_true]
    omega
  · simp only [hl, and_false, or_false]
    omega

end Order

theorem decimalValue?_digitChar {d : Nat} (h : d < 10) :
    decimalValue? (Nat.digitChar d) = some d := by
  have hall : ∀ e < 10, decimalValue? (Nat.digitChar e) = some e := by decide
  exact hall d h

/-- The digits of ASCII are of one script. -/
theorem decimalZero?_of_ascii {c : Char} {d : Nat} (hascii : c.toNat < 128)
    (h : decimalValue? c = some d) : decimalZero? c = some 0x30 := by
  obtain ⟨-, z, hz, hc⟩ := decimalValue?_eq_some.mp h
  have hall : ∀ z ∈ decimalZeros, z < 128 → z = 0x30 := by decide
  rw [hz, hall z (List.mem_of_find?_eq_some hz) (by omega)]

theorem digitChar_ascii {d : Nat} (h : d < 10) : (Nat.digitChar d).toNat < 128 := by
  have hall : ∀ e < 10, (Nat.digitChar e).toNat < 128 := by decide
  exact hall d h

theorem decimalNumber?_pair {a b : Char} {n : Nat} : decimalNumber? [a, b] = some n ↔
    ∃ x y, decimalValue? a = some x ∧ decimalValue? b = some y ∧ n = 10 * x + y := by
  cases ha : decimalValue? a with
  | none => simp [decimalNumber?, ha]
  | some x =>
    cases hb : decimalValue? b with
    | none => simp [decimalNumber?, ha, hb]
    | some y => simp [decimalNumber?, ha, hb, eq_comm]

theorem toList_padded_two {n : Nat} (h : n < 100) :
    (padded 2 n).toList = [Nat.digitChar (n / 10), Nat.digitChar (n % 10)] := by
  have hall : ∀ m < 100, (padded 2 (m : Nat)).toList =
      [Nat.digitChar (m / 10), Nat.digitChar (m % 10)] := by decide
  exact hall n h

end Text

namespace TimeOfDay

/-! ## Times that are read -/

theorem number_eq_ok {part : List Char} {n : Nat} :
    number part = .ok n ↔ Text.decimalNumber? part = some n := by
  unfold number
  cases Text.decimalNumber? part <;> simp

theorem parts?_eq_some {s : String} {hours minutes : List Char} :
    parts? s = some (hours, minutes) ↔ ∃ a b c d, s.toList = [a, b, ':', c, d] ∧
      (∀ x ∈ [a, b, c, d], Text.isDigit x = true) ∧ hours = [a, b] ∧ minutes = [c, d] := by
  unfold parts?
  constructor
  · intro h
    split at h
    · rename_i a b c d hs
      split at h
      · rename_i hall
        cases h
        exact ⟨a, b, c, d, hs, List.all_eq_true.mp hall, rfl, rfl⟩
      · cases h
    · cases h
  · rintro ⟨a, b, c, d, hs, hall, rfl, rfl⟩
    rw [hs]
    exact if_pos (List.all_eq_true.mpr hall)

theorem parse_of_parts_none {s : String} (h : parts? s = none) : parse s = .error (.shape s) := by
  unfold parse
  rw [h]

/-- What two digits, a colon and two digits are read as, of whatever scripts. -/
theorem parse_of_digits {s : String} {a b c d : Char} (hs : s.toList = [a, b, ':', c, d])
    {w x y z : Nat} (hw : Text.decimalValue? a = some w) (hx : Text.decimalValue? b = some x)
    (hy : Text.decimalValue? c = some y) (hz : Text.decimalValue? d = some z) :
    parse s = if 23 < 10 * w + x ∨ 59 < 10 * y + z then .error (.range s)
      else .ok ((10 * w + x) * 60 + (10 * y + z)) := by
  have hparts : parts? s = some ([a, b], [c, d]) := by
    refine parts?_eq_some.mpr ⟨a, b, c, d, hs, ?_, rfl, rfl⟩
    simp [Text.isDigit_of_decimalValue? hw, Text.isDigit_of_decimalValue? hx,
      Text.isDigit_of_decimalValue? hy, Text.isDigit_of_decimalValue? hz]
  have hnumber : number [a, b] = .ok (10 * w + x) :=
    number_eq_ok.mpr (Text.decimalNumber?_pair.mpr ⟨w, x, hw, hx, rfl⟩)
  have hnumber' : number [c, d] = .ok (10 * y + z) :=
    number_eq_ok.mpr (Text.decimalNumber?_pair.mpr ⟨y, z, hy, hz, rfl⟩)
  simp only [parse, hparts, hnumber, hnumber', ok_bind]
  push_cast
  rfl

/-- Two digits, a colon and two digits are read, of any scripts, if they write an hour and a
minute. -/
theorem parse_eq_ok {s : String} {m : Int} : parse s = .ok m ↔
    ∃ a b c d, s.toList = [a, b, ':', c, d] ∧
      ∃ w x y z : Nat, Text.decimalValue? a = some w ∧ Text.decimalValue? b = some x ∧
        Text.decimalValue? c = some y ∧ Text.decimalValue? d = some z ∧
        10 * w + x ≤ 23 ∧ 10 * y + z ≤ 59 ∧ m = (10 * w + x) * 60 + (10 * y + z) := by
  constructor
  · intro h
    unfold parse at h
    split at h
    · cases h
    · rename_i hours minutes hparts
      obtain ⟨a, b, c, d, hs, -, rfl, rfl⟩ := parts?_eq_some.mp hparts
      simp only [bind_eq_ok, number_eq_ok, Text.decimalNumber?_pair] at h
      obtain ⟨_, ⟨w, x, hw, hx, rfl⟩, _, ⟨y, z, hy, hz, rfl⟩, h⟩ := h
      split at h
      · cases h
      · cases h
        exact ⟨a, b, c, d, hs, w, x, y, z, hw, hx, hy, hz, by omega, by omega, by omega⟩
  · rintro ⟨a, b, c, d, hs, w, x, y, z, hw, hx, hy, hz, hhour, hminute, rfl⟩
    rw [parse_of_digits hs hw hx hy hz, if_neg (by omega)]

theorem parse_bounds {s : String} {m : Int} (h : parse s = .ok m) : 0 ≤ m ∧ m < 1440 := by
  obtain ⟨a, b, c, d, -, w, x, y, z, -, -, -, -, hhour, hminute, rfl⟩ := parse_eq_ok.mp h
  omega

theorem ofText_eq_ok {t : Text} {m : Int} :
    ofText t = .ok m ↔ ∃ s, t = Text.ofString s ∧ parse s = .ok m := by
  unfold ofText
  cases hs : t.toString? with
  | none =>
    refine iff_of_false nofun ?_
    rintro ⟨s, rfl, -⟩
    rw [Text.toString?_ofString] at hs
    cases hs
  | some s =>
    obtain rfl := Text.toString?_eq_some.mp hs
    constructor
    · exact fun h => ⟨s, rfl, h⟩
    · rintro ⟨s', h, hm⟩
      rwa [Text.ofString_injective h]

/-! ## Written forms -/

theorem text_natCast (n : Nat) :
    text n = Text.padded 2 (n / 60 : Nat) ++ ":" ++ Text.padded 2 (n % 60 : Nat) := by
  unfold text
  rw [Int.fdiv_eq_ediv_of_nonneg _ (by omega), Int.fmod_eq_emod_of_nonneg _ (by omega)]
  rfl

theorem toList_text {n : Nat} (h : n < 6000) : (text n).toList =
    [Nat.digitChar (n / 60 / 10), Nat.digitChar (n / 60 % 10), ':',
      Nat.digitChar (n % 60 / 10), Nat.digitChar (n % 60 % 10)] := by
  rw [text_natCast, String.toList_append, String.toList_append,
    Text.toList_padded_two (by omega), Text.toList_padded_two (by omega)]
  rfl

/-- The written form of a minute of a day is read as that minute. -/
theorem parse_text {m : Int} (h₀ : 0 ≤ m) (h₁ : m < 1440) : parse (text m) = .ok m := by
  obtain ⟨n, rfl⟩ := Int.eq_ofNat_of_zero_le h₀
  exact parse_eq_ok.mpr ⟨_, _, _, _, toList_text (by omega), _, _, _, _,
    Text.decimalValue?_digitChar (by omega), Text.decimalValue?_digitChar (by omega),
    Text.decimalValue?_digitChar (by omega), Text.decimalValue?_digitChar (by omega),
    by omega, by omega, by omega⟩

/-! ## The order of texts -/

/-- At each place both texts have a digit of one script, or neither has a digit. -/
def SameScripts (s t : String) : Prop :=
  s.toList.map Text.decimalZero? = t.toList.map Text.decimalZero?

instance (s t : String) : Decidable (SameScripts s t) := inferInstanceAs (Decidable (_ = _))

/-- Times in digits of the same scripts are ordered as the minutes that they write. -/
theorem lt_iff_of_sameScripts {s t : String} {m n : Int} (hs : parse s = .ok m)
    (ht : parse t = .ok n) (h : SameScripts s t) : s < t ↔ m < n := by
  obtain ⟨a, b, c, d, hsl, w, x, y, z, hw, hx, hy, hz, hhour, hminute, rfl⟩ := parse_eq_ok.mp hs
  obtain ⟨a', b', c', d', htl, w', x', y', z', hw', hx', hy', hz', hhour', hminute', rfl⟩ :=
    parse_eq_ok.mp ht
  unfold SameScripts at h
  simp only [hsl, htl, List.map_cons, List.map_nil, List.cons.injEq, true_and, and_true] at h
  obtain ⟨ha, hb, hc, hd⟩ := h
  have hcolon : ¬ ':' < ':' := by decide
  rw [String.lt_iff, hsl, htl, Text.pair_lt_pair hw hx hw' hx' ha hb, List.cons_lt_cons_iff,
    Text.pair_lt_pair hy hz hy' hz' hc hd]
  simp only [hcolon, List.not_lt_nil, and_false, or_false, false_or, true_and]
  omega

theorem SameScripts.symm {s t : String} (h : SameScripts s t) : SameScripts t s := Eq.symm h

theorem le_iff_of_sameScripts {s t : String} {m n : Int} (hs : parse s = .ok m)
    (ht : parse t = .ok n) (h : SameScripts s t) : s ≤ t ↔ m ≤ n := by
  rw [← String.not_lt, ← Int.not_lt, lt_iff_of_sameScripts ht hs h.symm]

/-- Times in ASCII are written in the same scripts. -/
theorem sameScripts_of_ascii {s t : String} {m n : Int} (hs : parse s = .ok m)
    (ht : parse t = .ok n) (has : ∀ c ∈ s.toList, c.toNat < 128)
    (hat : ∀ c ∈ t.toList, c.toNat < 128) : SameScripts s t := by
  have hscripts {s : String} {m : Int} (hs : parse s = .ok m)
      (has : ∀ c ∈ s.toList, c.toNat < 128) : s.toList.map Text.decimalZero? =
        [some 0x30, some 0x30, none, some 0x30, some 0x30] := by
    obtain ⟨a, b, c, d, hsl, w, x, y, z, hw, hx, hy, hz, -⟩ := parse_eq_ok.mp hs
    have hcolon : Text.decimalZero? ':' = none := by decide
    rw [hsl] at has ⊢
    simp only [List.map_cons, List.map_nil, hcolon,
      Text.decimalZero?_of_ascii (has a (by simp)) hw,
      Text.decimalZero?_of_ascii (has b (by simp)) hx,
      Text.decimalZero?_of_ascii (has c (by simp)) hy,
      Text.decimalZero?_of_ascii (has d (by simp)) hz]
  exact (hscripts hs has).trans (hscripts ht hat).symm

theorem text_ascii {m : Int} (hm : 0 ≤ m ∧ m < 1440) : ∀ c ∈ (text m).toList, c.toNat < 128 := by
  obtain ⟨n, rfl⟩ := Int.eq_ofNat_of_zero_le hm.1
  rw [toList_text (by omega)]
  simp only [List.forall_mem_cons]
  exact ⟨Text.digitChar_ascii (by omega), Text.digitChar_ascii (by omega), by decide,
    Text.digitChar_ascii (by omega), Text.digitChar_ascii (by omega),
    fun c hc => absurd hc List.not_mem_nil⟩

/-- The written forms of the minutes of a day are ordered as these. -/
theorem text_lt_text {m n : Int} (hm : 0 ≤ m ∧ m < 1440) (hn : 0 ≤ n ∧ n < 1440) :
    text m < text n ↔ m < n := by
  have hpm := parse_text hm.1 hm.2
  have hpn := parse_text hn.1 hn.2
  exact lt_iff_of_sameScripts hpm hpn
    (sameScripts_of_ascii hpm hpn (text_ascii hm) (text_ascii hn))

end TimeOfDay

end SlotBooking
