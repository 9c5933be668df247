import SlotBooking.Text.Quoted

/-!
# Binary64 numbers

Prices and occupancy rates are IEEE 754 binary64 numbers, kept as their 64-bit words. Every number
is made by one rounding of an exact quotient of natural numbers (to nearest, ties to even), so no
machine arithmetic is involved.

* `ofQuotient`: the nearest binary64 number to `num / den`, infinite from the overflow bound on.
* `ofDecimal`: the nearest one to `digits · 10 ^ exponent`.
* `dropZeroSign`: the number, without the sign of a zero.
* `scaled`: a number times a quotient, rounded once.
* `value?`: the exact value of a finite number, as an integer multiple of a power of two.
* `toInt?`: the integer that a number equals, if it is one.
* `hex`: the word as sixteen hexadecimal digits.
-/

namespace SlotBooking

/-- A binary64 word: sign in bit 63, biased exponent in bits 52 to 62, fraction below. -/
structure Binary64 where
  bits : UInt64
deriving DecidableEq, Inhabited

namespace Binary64

/-- Positive zero. -/
def zero : Binary64 := ⟨0⟩

/-- What is not a number, with the given sign bit. -/
def notNumber (negative : Bool) : Binary64 :=
  ⟨if negative then 0xFFF8000000000000 else 0x7FF8000000000000⟩

/-- What is not a number, without sign. -/
def nan : Binary64 := notNumber false

/-- The infinity of the given sign. -/
def infinity (negative : Bool) : Binary64 :=
  ⟨if negative then 0xFFF0000000000000 else 0x7FF0000000000000⟩

/-- The biased exponent. -/
def field (x : Binary64) : Nat := x.bits.toNat >>> 52 % 2048

/-- The bits below the exponent. -/
def fraction (x : Binary64) : Nat := x.bits.toNat % 0x10000000000000

/-- Whether the sign bit is set. -/
def isNegative (x : Binary64) : Bool := decide (0x8000000000000000 ≤ x.bits.toNat)

/-- Neither infinite nor NaN. -/
def IsFinite (x : Binary64) : Prop := x.field ≠ 2047

/-- Not a number. -/
def IsNaN (x : Binary64) : Prop := x.field = 2047 ∧ x.fraction ≠ 0

instance (x : Binary64) : Decidable x.IsFinite := inferInstanceAs (Decidable (_ ≠ _))
instance (x : Binary64) : Decidable x.IsNaN := inferInstanceAs (Decidable (_ ∧ _))

theorem not_isNaN_zero : ¬ zero.IsNaN := by decide

/-- The number, with positive zero for negative zero. -/
def dropZeroSign (x : Binary64) : Binary64 := if x.bits = 0x8000000000000000 then zero else x

theorem isNaN_dropZeroSign {x : Binary64} : x.dropZeroSign.IsNaN ↔ x.IsNaN := by
  unfold dropZeroSign
  split
  · next h =>
    obtain ⟨bits⟩ := x
    subst h
    exact iff_of_false not_isNaN_zero (by decide)
  · exact Iff.rfl

/-- The nearest natural number to `num / den`, the even one of two equally near. -/
def roundQuotient (num den : Nat) : Nat :=
  let q := num / den
  let r := num % den
  if 2 * r < den then q else if 2 * r = den then q + q % 2 else q + 1

/-- The greatest `e` with `2 ^ e ≤ num / den`, for positive `num` and `den`. -/
def quotientLog (num den : Nat) : Int :=
  let l : Int := Nat.log2 num - Nat.log2 den
  if den <<< l.toNat ≤ num <<< (-l).toNat then l else l - 1

/-- The nearest binary64 number to the quotient `num / den`, with the given sign. Its last place
is `2 ^ e`; the significand is added to the exponent field, so that a carry moves it up. -/
def ofQuotient (negative : Bool) (num den : Nat) : Binary64 :=
  let sign : Nat := if negative then 0x8000000000000000 else 0
  if num = 0 ∨ den = 0 then ⟨UInt64.ofNat sign⟩
  else
    let e : Int := max (-1074) (quotientLog num den - 52)
    if 972 ≤ e then infinity negative
    else
      let m := roundQuotient (num <<< (-e).toNat) (den <<< e.toNat)
      let w := (e + 1074).toNat <<< 52 + m
      if 2047 <<< 52 ≤ w then infinity negative else ⟨UInt64.ofNat (sign + w)⟩

/-- The nearest binary64 number to an integer. -/
def ofInt (n : Int) : Binary64 := ofQuotient (decide (n < 0)) n.natAbs 1

/-- The nearest binary64 number to `digits · 10 ^ exponent`, with the given sign. Numbers of a
magnitude beyond `10 ^ ±400` are far outside the range and need no power of ten. -/
def ofDecimal (negative : Bool) (digits : Nat) (exponent : Int) : Binary64 :=
  let magnitude : Int := ((Nat.log2 digits * 30103 / 100000 : Nat) : Int) + exponent
  if digits = 0 ∨ magnitude < -400 then ofQuotient negative 0 1
  else if 400 < magnitude then infinity negative
  else ofQuotient negative (digits * Nat.pow 10 exponent.toNat) (Nat.pow 10 (-exponent).toNat)

/-- The value of a finite number as `m · 2 ^ e`. -/
def value? (x : Binary64) : Option (Int × Int) :=
  if x.IsFinite then
    let m : Int := if x.field = 0 then x.fraction else (x.fraction : Int) + 0x10000000000000
    some (if x.isNegative then -m else m, (max x.field 1 : Int) - 1075)
  else none

/-- The nearest binary64 number to `num / den` times a finite one. -/
def scaled (x : Binary64) (num den : Nat) : Binary64 :=
  match x.value? with
  | some (m, e) => ofQuotient x.isNegative (m.natAbs <<< e.toNat * num) (den <<< (-e).toNat)
  | none => x

/-- The whole part, rounded down, and what is left as a quotient of natural numbers. -/
def floor? (x : Binary64) : Option (Int × Nat × Nat) :=
  x.value?.map fun (m, e) =>
    let n := m <<< e.toNat
    let d : Nat := 1 <<< (-e).toNat
    (n.fdiv d, (n.fmod d).toNat, d)

/-- The integer that a number equals. -/
def toInt? (x : Binary64) : Option Int :=
  match x.floor? with
  | some (n, 0, _) => some n
  | _ => none

/-- The nearest integer to a number that is not negative, a half going up. -/
def roundHalfUp? (x : Binary64) : Option Int :=
  x.floor?.map fun (n, r, d) => if d ≤ 2 * r then n + 1 else n

/-- The word as sixteen lower-case hexadecimal digits, which keeps every bit. -/
def hex (x : Binary64) : String := String.ofList (Text.hexDigits 16 x.bits.toNat)

theorem length_hex (x : Binary64) : x.hex.length = 16 := by simp [hex]

end Binary64

end SlotBooking
