/-!
# Padded integers

`padded width n` writes an integer in base ten on at least `width` characters: zeros go between the
sign and the digits.
-/

namespace SlotBooking.Text

/-- An integer on at least `width` characters. -/
def padded (width : Nat) (n : Int) : String :=
  let digits := Nat.toDigits 10 n.natAbs
  let sign := if n < 0 then ['-'] else []
  String.ofList (sign ++ List.replicate (width - sign.length - digits.length) '0' ++ digits)

theorem length_padded_natCast (width n : Nat) :
    (padded width n).length = max width (Nat.toDigits 10 n).length := by
  have hsign : ¬ (n : Int) < 0 := by omega
  simp only [padded, if_neg hsign, Int.natAbs_natCast, String.length_ofList, List.length_append,
    List.length_nil, List.length_replicate]
  omega

/-- An integer below zero begins with a sign. -/
theorem toList_padded_of_neg (width : Nat) {n : Int} (h : n < 0) :
    ∃ cs, (padded width n).toList = '-' :: cs := by
  simp only [padded, if_pos h, String.toList_ofList]
  exact ⟨_, rfl⟩

end SlotBooking.Text
