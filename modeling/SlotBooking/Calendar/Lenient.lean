import SlotBooking.Calendar.Date
import SlotBooking.Json.Lenient

/-!
# Lenient reading of dates

A date may be sent as `YYYY-MM-DD`, as a date with a time of exactly midnight, or as a timestamp
that falls on midnight. A timestamp counts seconds since the start of 1970, or milliseconds if it is
beyond twenty thousand million.

* `dateOfText?`: a date from a text, which may also write a timestamp.
* `date?`: a date from a document.
-/

namespace SlotBooking.Json.Lenient

/-! ## Timestamps -/

/-- The greatest magnitude of a timestamp in seconds; beyond it, milliseconds are meant. -/
def watershed : Nat := 20000000000

/-- The whole seconds and the microseconds of a timestamp. -/
def splitTimestamp (n : Int) : Int × Int :=
  if n.natAbs ≤ watershed then (n, 0) else (n.fdiv 1000, n.fmod 1000 * 1000)

/-- The date on whose midnight a number of seconds since 1970 falls. -/
def dateOfSeconds? (seconds : Int) : Option Date :=
  if seconds % 86400 = 0 then Date.ofDay? (719162 + seconds / 86400) else none

/-- The date of a timestamp with extra microseconds, if it falls on midnight. -/
def dateOfTimestamp? (n micros : Int) : Option Date :=
  let (seconds, more) := splitTimestamp n
  let micros := micros + more
  if micros % 1000000 = 0 then dateOfSeconds? (seconds + micros / 1000000) else none

/-- A number is beyond the watershed. -/
def isBeyondWatershed (x : Binary64) : Bool :=
  match x.value? with
  | some (m, e) => decide (watershed <<< (-e).toNat < m.natAbs <<< e.toNat)
  | none => false

/-- The whole part of a number, rounded down, and the rest in parts of which `parts` are one. The
rest and its product are rounded to binary64, and the product to the nearest part. -/
def splitFraction? (x : Binary64) (parts : Nat) : Option (Int × Int) := do
  let (n, r, d) ← x.floor?
  return (n, ← ((Binary64.ofQuotient false r d).scaled parts 1).roundHalfUp?)

/-- The date of a number that is a timestamp: the fraction of its second or millisecond counts in
microseconds. -/
def dateOfFloat? (x : Binary64) : Option Date := do
  let (n, micros) ← splitFraction? x (if isBeyondWatershed x then 1000 else 1000000)
  dateOfTimestamp? n micros

/-- The date of a number that a text writes as a timestamp: milliseconds become seconds first, and
the fraction of the second counts in microseconds. -/
def dateOfDecimal? (x : Binary64) : Option Date := do
  let (n, micros) ← splitFraction? (if isBeyondWatershed x then x.scaled 1 1000 else x) 1000000
  dateOfTimestamp? n micros

/-! ## Times of midnight -/

/-- What follows a colon and two zeros, if they are next. -/
def afterZeros? : List Char → Option (List Char)
  | ':' :: '0' :: '0' :: rest => some rest
  | _ => none

/-- What follows a fraction of zeros, if a fraction is next. Only six of its digits count. -/
def afterFraction? : List Char → Option (List Char)
  | c :: rest =>
    if c = '.' ∨ c = ',' then
      let digits := rest.takeWhile Char.isDigit
      if digits.isEmpty || !(digits.take 6).all (· = '0') then none
      else some (rest.dropWhile Char.isDigit)
    else some (c :: rest)
  | [] => some []

/-- A time zone: nothing, `Z`, or a sign with less than 24 hours and with minutes. -/
def isZone (cs : List Char) : Bool :=
  let inRange cs := match Date.readDigits? 2 cs with
    | some (hours, rest) =>
      match Date.readDigits? 2 (if rest.head? = some ':' then rest.tail else rest) with
      | some (minutes, []) => decide (hours < 24 ∧ minutes < 60)
      | _ => false
    | none => false
  match cs with
  | [] => true
  | ['Z'] | ['z'] => true
  | c :: rest => if c = '+' ∨ c = '-' ∨ c = '\u2212' then inRange rest else false

/-- A separator, a time of exactly midnight and perhaps a time zone. -/
def isMidnight : List Char → Bool
  | c :: '0' :: '0' :: rest =>
    if c = 'T' ∨ c = 't' ∨ c = ' ' ∨ c = '_' then
      match afterZeros? rest with
      | none => false
      | some rest =>
        match rest with
        | ':' :: _ =>
          match (afterZeros? rest).bind afterFraction? with
          | some rest => isZone rest
          | none => false
        | rest => isZone rest
    else false
  | _ => false

/-! ## Dates -/

/-- The date of a timestamp that a text writes: digits after an optional sign, and perhaps a point
and what may follow it in a number. The whole part has to fit 64 bits. -/
def dateOfNumber? (cs : List Char) : Option Date := do
  let (negative, unsigned) := splitSign cs
  let whole ← natural? (unsigned.takeWhile Char.isDigit)
  if 0x8000000000000000 ≤ whole then none
  else
    match unsigned.dropWhile Char.isDigit with
    | [] => dateOfTimestamp? (if negative then -(whole : Int) else whole) 0
    | '.' :: _ => (unsignedFloat? negative unsigned).bind dateOfDecimal?
    | _ => none

/-- The date that a text writes. -/
def dateOfText? (s : String) : Option Date :=
  match Date.read? s.toList with
  | some (d, []) => some d
  | some (d, rest) => if isMidnight rest then some d else none
  | none => dateOfNumber? s.toList

/-- A date. -/
def date? : Json → Option Date
  | int n => dateOfTimestamp? n 0
  | float x => dateOfFloat? x
  | j => (string? j).bind dateOfText?

end SlotBooking.Json.Lenient
