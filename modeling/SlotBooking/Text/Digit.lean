/-!
# Digits

Two properties of a character decide how a written number is read: being a decimal digit, of any
script, which has a value from 0 to 9; and being a digit at all, which superscripts, subscripts and
circled digits are too, although they have no decimal value.

* `decimalValue?`: the value of a decimal digit (Unicode general category `Nd`).
* `isDigit`: decimal digits and the other characters of Unicode numeric type `Digit`.
* `isDecimal`: decimal digits, also of scripts to whose digits no value is given here.
* `hexValue?`: the value of a hexadecimal digit.
-/

namespace SlotBooking.Text

/-- The zero of every run of ten decimal digits, in ascending order. -/
def decimalZeros : List Nat := [
  0x30, 0x660, 0x6F0, 0x7C0, 0x966, 0x9E6, 0xA66, 0xAE6, 0xB66, 0xBE6, 0xC66, 0xCE6, 0xD66,
  0xDE6, 0xE50, 0xED0, 0xF20, 0x1040, 0x1090, 0x17E0, 0x1810, 0x1946, 0x19D0, 0x1A80, 0x1A90,
  0x1B50, 0x1BB0, 0x1C40, 0x1C50, 0xA620, 0xA8D0, 0xA900, 0xA9D0, 0xA9F0, 0xAA50, 0xABF0, 0xFF10,
  0x104A0, 0x10D30, 0x11066, 0x110F0, 0x11136, 0x111D0, 0x112F0, 0x11450, 0x114D0, 0x11650,
  0x116C0, 0x11730, 0x118E0, 0x11950, 0x11C50, 0x11D50, 0x11DA0, 0x16A60, 0x16AC0, 0x16B50,
  0x1D7CE, 0x1D7D8, 0x1D7E2, 0x1D7EC, 0x1D7F6, 0x1E140, 0x1E2F0, 0x1E950, 0x1FBF0
]

/-- The closed ranges of digits that are not decimal digits. -/
def otherDigits : List (Nat × Nat) := [
  (0xB2, 0xB3), (0xB9, 0xB9), (0x1369, 0x1371), (0x19DA, 0x19DA), (0x2070, 0x2070),
  (0x2074, 0x2079), (0x2080, 0x2089), (0x2460, 0x2468), (0x2474, 0x247C), (0x2488, 0x2490),
  (0x24EA, 0x24EA), (0x24F5, 0x24FD), (0x24FF, 0x24FF), (0x2776, 0x277E), (0x2780, 0x2788),
  (0x278A, 0x2792), (0x10A40, 0x10A43), (0x10E60, 0x10E68), (0x11052, 0x1105A),
  (0x1F100, 0x1F10A)
]

/-- The value of a decimal digit of any script. -/
def decimalValue? (c : Char) : Option Nat :=
  (decimalZeros.find? fun z => z ≤ c.toNat && c.toNat ≤ z + 9).map fun z => c.toNat - z

/-- A digit in the wide sense: decimal, or raised, lowered, circled and the like. -/
def isDigit (c : Char) : Bool :=
  (decimalValue? c).isSome || otherDigits.any fun r => r.1 ≤ c.toNat && c.toNat ≤ r.2

/-- The zero of every run of ten decimal digits whose script is newer than version 14 of Unicode. -/
def recentDecimalZeros : List Nat := [
  0x10D40, 0x116D0, 0x116DA, 0x11BF0, 0x11F50, 0x16130, 0x1CCF0, 0x1E4F0, 0x1E5F1
]

/-- A decimal digit of any script up to version 16 of Unicode. -/
def isDecimal (c : Char) : Bool :=
  (decimalValue? c).isSome || recentDecimalZeros.any fun z => z ≤ c.toNat && c.toNat ≤ z + 9

/-- The value of a hexadecimal digit in ASCII. -/
def hexValue? (c : Char) : Option Nat :=
  if '0' ≤ c ∧ c ≤ '9' then some (c.toNat - 48)
  else if 'a' ≤ c ∧ c ≤ 'f' then some (c.toNat - 87)
  else if 'A' ≤ c ∧ c ≤ 'F' then some (c.toNat - 55)
  else none

/-- The value that a run of decimal digits writes in base ten; `none` if it holds anything else. -/
def decimalNumber? (cs : List Char) : Option Nat :=
  cs.foldl (fun n c => do return 10 * (← n) + (← decimalValue? c)) (some 0)

end SlotBooking.Text
