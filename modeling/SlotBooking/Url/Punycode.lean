import SlotBooking.Text.Basic

/-!
# Punycode

The form in which a label of a host name is written in ASCII (RFC 3492): its ASCII characters, a
hyphen, and for each other character, in ascending order, how far it lies beyond the one before. A
distance is a number of variable length in base 36, whose digits have thresholds that adapt to the
distances so far.

* `Punycode.encode`: the written form of a label.
* `Punycode.decode?`: the label that an ASCII text writes.
-/

namespace SlotBooking.Url.Punycode

/-- The threshold of the digit at a position. -/
def threshold (position bias : Nat) : Nat := min 26 (max 1 (36 * (position + 1) - bias))

theorem threshold_pos (position bias : Nat) : 1 ≤ threshold position bias := by
  unfold threshold; omega

theorem threshold_le (position bias : Nat) : threshold position bias ≤ 26 := by
  unfold threshold; omega

/-- How often a distance is divided by 35 until it is at most 455, and what is left of it. -/
def scaleDown (delta : Nat) : Nat × Nat :=
  if 455 < delta then
    let (times, rest) := scaleDown (delta / 35)
    (times + 1, rest)
  else (0, delta)
termination_by delta
decreasing_by omega

/-- The bias after a distance, which was the first or not, in a text of the given length. -/
def adapt (delta : Nat) (isFirst : Bool) (length : Nat) : Nat :=
  let delta := if isFirst then delta / 700 else delta / 2
  let (times, rest) := scaleDown (delta + delta / length)
  36 * times + 36 * rest / (rest + 38)

/-! ## Writing -/

/-- The character of a digit. -/
def digitChar (d : Nat) : Char := if d < 26 then Char.ofNat (97 + d) else Char.ofNat (22 + d)

/-- The digits of a distance from a position on. -/
def digits (bias position delta : Nat) : List Char :=
  let t := threshold position bias
  if delta < t then [digitChar delta]
  else digitChar (t + (delta - t) % (36 - t)) :: digits bias (position + 1) ((delta - t) / (36 - t))
termination_by delta
decreasing_by
  have := threshold_pos position bias
  have := threshold_le position bias
  exact Nat.lt_of_le_of_lt (Nat.div_le_self _ _) (by omega)

/-- What has been written so far. -/
structure Writing where
  /-- The written characters, the last one first. -/
  done : List Char
  /-- The distance since the last character that was written. -/
  delta : Nat := 0
  bias : Nat := 72
  /-- The number of characters of the label that have been written. -/
  written : Nat

/-- Passes a character on the way to writing all those of code `n`; `basic` of them are ASCII. -/
def Writing.pass (basic n : Nat) (w : Writing) (c : Nat) : Writing :=
  if c < n then { w with delta := w.delta + 1 }
  else if c = n then
    { done := (digits w.bias 0 w.delta).reverse ++ w.done
      bias := adapt w.delta (w.written = basic) (w.written + 1)
      written := w.written + 1 }
  else w

/-- Writes all characters whose codes are in the ascending list, from code `n` on. -/
def writeCodes (label : List Nat) (basic n : Nat) (w : Writing) : List Nat → Writing
  | [] => w
  | code :: codes =>
    let w := { w with delta := w.delta + (code - n) * (w.written + 1) }
    let w := label.foldl (Writing.pass basic code) w
    writeCodes label basic (code + 1) { w with delta := w.delta + 1 } codes

/-- The written form of a label. -/
def encode (label : List Char) : List Char :=
  let basic := label.filter fun c => c.toNat < 0x80
  let codes := label.map Char.toNat
  let others := (codes.filter fun n => 0x80 ≤ n).mergeSort.eraseDups
  let start := if basic.isEmpty then [] else '-' :: basic.reverse
  let writing : Writing := { done := start, written := basic.length }
  (writeCodes codes basic.length 0x80 writing others).done.reverse

/-! ## Reading -/

/-- The value of a digit. -/
def digitValue? (c : Char) : Option Nat :=
  if 'a' ≤ c ∧ c ≤ 'z' then some (c.toNat - 97)
  else if '0' ≤ c ∧ c ≤ '9' then some (c.toNat - 22)
  else none

/-- The distance that digits from a position on write, times a weight, and what follows them. -/
def readDistance? (bias position weight : Nat) : List Char → Option (Nat × List Char)
  | [] => none
  | c :: rest => do
    let d ← digitValue? c
    let t := threshold position bias
    if d < t then return (d * weight, rest)
    else
      let (more, rest) ← readDistance? bias (position + 1) (weight * (36 - t)) rest
      return (d * weight + more, rest)

/-- Inserts the characters that distances write into the label `done`. Each takes at least one
character of the text, so its length is fuel enough. -/
def readCodes? : (fuel : Nat) → (isFirst : Bool) → (bias code position : Nat) →
    (done : List Nat) → List Char → Option (List Nat)
  | _, _, _, _, _, done, [] => some done
  | 0, _, _, _, _, _, _ => none
  | fuel + 1, isFirst, bias, code, position, done, cs => do
    let (delta, rest) ← readDistance? bias 0 1 cs
    let length := done.length + 1
    let code := code + (position + delta) / length
    let position := (position + delta) % length
    if 0x110000 ≤ code then none
    else
      readCodes? fuel false (adapt delta isFirst length) code (position + 1)
        (done.take position ++ code :: done.drop position) rest

/-- The label that an ASCII text of lower case writes. What stands before the last hyphen are its
ASCII characters. -/
def decode? (cs : List Char) : Option (List Char) := do
  let tail := (cs.reverse.takeWhile (· ≠ '-')).reverse
  let basic := (cs.take (cs.length - tail.length)).dropLast
  let codes ← readCodes? tail.length true 72 0x80 0 (basic.map Char.toNat) tail
  codes.mapM fun n => (Symbol.ofCode? n).bind Symbol.toChar?

end SlotBooking.Url.Punycode
