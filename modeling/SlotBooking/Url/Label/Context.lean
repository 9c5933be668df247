import SlotBooking.Url.Label.Composition
import SlotBooking.Url.Label.Direction

/-!
# Characters that depend on their context

Some characters are permitted in a label of a host name only between certain others (RFC 5892,
appendix A): joiners between letters that join, signs of one script next to its letters, and digits
of Arabic not together with those of its extension.
-/

namespace SlotBooking.Url.Label

/-- The closed ranges of letters that join with a letter after them. -/
def joiningOnRanges : List (Nat × Nat) := [
  (0x620, 0x620), (0x626, 0x626), (0x628, 0x628), (0x62A, 0x62E), (0x633, 0x647), (0x649, 0x64A),
  (0x66E, 0x66F), (0x679, 0x687), (0x69A, 0x6BF), (0x6C1, 0x6C2), (0x6CC, 0x6CC), (0x6CE, 0x6CE),
  (0x6D0, 0x6D1), (0x6FA, 0x6FC), (0x6FF, 0x6FF), (0x712, 0x714), (0x71A, 0x71D), (0x71F, 0x727),
  (0x729, 0x729), (0x72B, 0x72B), (0x72D, 0x72E), (0x74E, 0x758), (0x75C, 0x76A), (0x76D, 0x770),
  (0x772, 0x772), (0x775, 0x777), (0x77A, 0x77F), (0x7CA, 0x7EA), (0x841, 0x845), (0x848, 0x848),
  (0x84A, 0x853), (0x855, 0x855), (0x860, 0x860), (0x862, 0x865), (0x868, 0x868), (0x886, 0x886),
  (0x889, 0x88D), (0x8A0, 0x8A9), (0x8AF, 0x8B0), (0x8B3, 0x8B8), (0x8BA, 0x8C8), (0x1820, 0x1878),
  (0x1887, 0x18A8), (0x18AA, 0x18AA), (0xA840, 0xA872), (0x10AC0, 0x10AC4), (0x10ACD, 0x10ACD),
  (0x10AD3, 0x10ADC), (0x10ADE, 0x10AE0), (0x10B80, 0x10B80), (0x10B82, 0x10B82),
  (0x10B86, 0x10B88), (0x10B8A, 0x10B8B), (0x10B8D, 0x10B8D), (0x10B90, 0x10B90),
  (0x10D00, 0x10D21), (0x10D23, 0x10D23), (0x10F30, 0x10F32), (0x10F34, 0x10F44),
  (0x10F70, 0x10F73), (0x10F76, 0x10F81), (0x10FB0, 0x10FB0), (0x10FB2, 0x10FB3),
  (0x10FB8, 0x10FB8), (0x10FBB, 0x10FBC), (0x10FBE, 0x10FBF), (0x10FC1, 0x10FC1),
  (0x10FC4, 0x10FC4), (0x1E922, 0x1E943)
]

/-- The closed ranges of letters that join with a letter before them. -/
def joiningBackRanges : List (Nat × Nat) := [
  (0x620, 0x620), (0x622, 0x64A), (0x66E, 0x66F), (0x671, 0x673), (0x679, 0x6D5), (0x6EE, 0x6EF),
  (0x6FA, 0x6FC), (0x6FF, 0x710), (0x712, 0x72F), (0x74D, 0x77F), (0x7CA, 0x7EA), (0x840, 0x858),
  (0x860, 0x860), (0x862, 0x865), (0x867, 0x882), (0x886, 0x886), (0x889, 0x88E), (0x8A0, 0x8AC),
  (0x8AE, 0x8C8), (0x1820, 0x1878), (0x1887, 0x18A8), (0x18AA, 0x18AA), (0xA840, 0xA871),
  (0x10AC0, 0x10AC5), (0x10AC7, 0x10ACA), (0x10ACE, 0x10AD6), (0x10AD8, 0x10AE1),
  (0x10AE4, 0x10AE4), (0x10B80, 0x10B91), (0x10D01, 0x10D23), (0x10F30, 0x10F44),
  (0x10F70, 0x10F81), (0x10FB0, 0x10FB0), (0x10FB2, 0x10FB6), (0x10FB8, 0x10FBF),
  (0x10FC1, 0x10FC4), (0x1E922, 0x1E943)
]

/-- The closed ranges of Greek characters. -/
def greekRanges : List (Nat × Nat) := [
  (0x371, 0x3E1), (0x3F3, 0x3FC), (0x1D26, 0x1D2A), (0x1F00, 0x1FF6), (0xAB65, 0xAB65)
]

/-- The closed ranges of Hebrew characters. -/
def hebrewRanges : List (Nat × Nat) := [
  (0x591, 0x5F4), (0xFB1E, 0xFB1E)
]

/-- The closed ranges of Hiragana, Katakana and Han characters. -/
def japaneseRanges : List (Nat × Nat) := [
  (0x3005, 0x3005), (0x3007, 0x3007), (0x3041, 0x3096), (0x309D, 0x30FA), (0x30FD, 0x30FE),
  (0x31F0, 0x9FFF), (0xFA0E, 0xFA29), (0x16FE3, 0x16FE3), (0x16FF0, 0x16FF1), (0x1AFF0, 0x1B167),
  (0x20000, 0x3134A)
]

/-- The combining class of the marks that suppress a vowel. -/
def viramaClass : Nat := 9

/-- The last character before a place has the given property; `before` holds the characters from
there back, and marks without width are skipped. -/
def joins (ranges : List (Nat × Nat)) (cs : List Char) : Bool :=
  ((cs.dropWhile fun c => Direction.of c = .nonspacing).head?).any fun c =>
    inRanges ranges c.toNat

/-- A character is permitted after those in `before`, the last one first, and before those in
`after`. -/
def fitsContext (before : List Char) (c : Char) (after : List Char) : Bool :=
  let followsVirama := before.head?.any fun b => combiningClass b.toNat = viramaClass
  if c = '\u200C' then
    followsVirama || (joins joiningOnRanges before && joins joiningBackRanges after)
  else if c = '\u200D' then followsVirama
  else if c = '\u00B7' then before.head? = some 'l' && after.head? = some 'l'
  else if c = '\u0375' then after.head?.any fun a => inRanges greekRanges a.toNat
  else if c = '\u05F3' ∨ c = '\u05F4' then before.head?.any fun b => inRanges hebrewRanges b.toNat
  else if c = '\u30FB' then (before ++ after).any fun a => inRanges japaneseRanges a.toNat
  else if 0x660 ≤ c.toNat ∧ c.toNat ≤ 0x669 then
    !(before ++ after).any fun a => 0x6F0 ≤ a.toNat && a.toNat ≤ 0x6F9
  else if 0x6F0 ≤ c.toNat ∧ c.toNat ≤ 0x6F9 then
    !(before ++ after).any fun a => 0x660 ≤ a.toNat && a.toNat ≤ 0x669
  else false

/-- Every character of a label is permitted, by itself or where it stands. -/
def allFit (before : List Char) : List Char → Bool
  | [] => true
  | c :: after => (isPermitted c || fitsContext before c after) && allFit (c :: before) after

end SlotBooking.Url.Label
