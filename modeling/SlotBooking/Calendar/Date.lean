import SlotBooking.Text.Padded

/-!
# Dates

A date of the Gregorian calendar between 1 January of year 1 and 31 December of year 9999. It is
kept as the number of days since the first of them, so that order, distance and weekday are
arithmetic; year, month and day are a view.

* `Date.ofCivil?`, `Date.civil`: from and to year, month and day.
* `Date.addDays?`: a date some days away, `none` outside the calendar.
* `Date.weekday`: the first day of the calendar is a Monday.
* `Date.ofText?`, `Date.text`: the form `YYYY-MM-DD`.
-/

namespace SlotBooking

/-- A day of the week. -/
inductive Weekday where
  | monday | tuesday | wednesday | thursday | friday | saturday | sunday
deriving DecidableEq, Repr

/-- A date, as the number of days since 1 January of year 1. -/
structure Date where
  day : Nat
  day_lt : day < 3652059
deriving DecidableEq

namespace Date

instance : LT Date := ⟨fun a b => a.day < b.day⟩
instance : LE Date := ⟨fun a b => a.day ≤ b.day⟩
instance (a b : Date) : Decidable (a < b) := inferInstanceAs (Decidable (a.day < b.day))
instance (a b : Date) : Decidable (a ≤ b) := inferInstanceAs (Decidable (a.day ≤ b.day))

theorem lt_def {a b : Date} : a < b ↔ a.day < b.day := Iff.rfl

theorem le_def {a b : Date} : a ≤ b ↔ a.day ≤ b.day := Iff.rfl

theorem eq_of_day_eq {a b : Date} (h : a.day = b.day) : a = b := by
  cases a; cases b; cases h; rfl

/-- The date with the given number of days since the first one. -/
def ofDay? (n : Int) : Option Date :=
  if h : 0 ≤ n ∧ n < 3652059 then some ⟨n.toNat, by omega⟩ else none

/-- The date `n` days after `d`. -/
def addDays? (d : Date) (n : Int) : Option Date := ofDay? (d.day + n)

theorem addDays?_eq_some {d e : Date} {n : Int} :
    d.addDays? n = some e ↔ (e.day : Int) = d.day + n := by
  simp only [addDays?, ofDay?]
  split
  · rename_i h
    constructor
    · rintro ⟨⟩
      simp only
      omega
    · intro he
      congr 1
      exact eq_of_day_eq (by simp only; omega)
  · rename_i h
    constructor
    · rintro ⟨⟩
    · intro he
      exact absurd ⟨by omega, by have := e.day_lt; omega⟩ h

/-- The day of the week. -/
def weekday (d : Date) : Weekday :=
  match d.day % 7 with
  | 0 => .monday
  | 1 => .tuesday
  | 2 => .wednesday
  | 3 => .thursday
  | 4 => .friday
  | 5 => .saturday
  | _ => .sunday

/-! ## Year, month and day -/

/-- Years divisible by 4 are leap years, except those divisible by 100 and not by 400. -/
def isLeap (year : Nat) : Bool := year % 4 = 0 && (year % 100 ≠ 0 || year % 400 = 0)

/-- The lengths of the months of a year, in order. -/
def monthLengths (year : Nat) : List Nat :=
  [31, if isLeap year then 29 else 28, 31, 30, 31, 30, 31, 31, 30, 31, 30, 31]

/-- The number of days before a year, for years from 1 on. -/
def daysBeforeYear (year : Nat) : Nat :=
  (year - 1) * 365 + (year - 1) / 4 - (year - 1) / 100 + (year - 1) / 400

/-- The number of days of a year before a month. -/
def daysBeforeMonth (year month : Nat) : Nat :=
  ((monthLengths year).take (month - 1)).foldl (· + ·) 0

/-- The date of a year, month and day, if they exist and the year has four digits. -/
def ofCivil? (year month day : Nat) : Option Date :=
  if 1 ≤ year ∧ year ≤ 9999 ∧ 1 ≤ month then
    match (monthLengths year)[month - 1]? with
    | some length =>
      if 1 ≤ day ∧ day ≤ length then
        ofDay? (daysBeforeYear year + daysBeforeMonth year month + (day - 1) : Nat)
      else none
    | none => none
  else none

/-- The year and the number of days of it that have passed. The calendar repeats every 400 years,
and in the last year of each longer cycle the days left may exceed those of the shorter cycles. -/
def yearAndDay (d : Date) : Nat × Nat :=
  let n400 := d.day / 146097
  let r400 := d.day % 146097
  let n100 := min (r400 / 36524) 3
  let r100 := r400 - n100 * 36524
  let n4 := r100 / 1461
  let r4 := r100 % 1461
  let n1 := min (r4 / 365) 3
  (n400 * 400 + n100 * 100 + n4 * 4 + n1 + 1, r4 - n1 * 365)

/-- The number of the month and the day of the month that lie `n` days into the months of the
given lengths, counted on from `month`. -/
def monthAndDay (month : Nat) : List Nat → Nat → Nat × Nat
  | [], n => (month, n + 1)
  | length :: lengths, n =>
    if n < length then (month, n + 1) else monthAndDay (month + 1) lengths (n - length)

/-- The year, the month and the day. -/
def civil (d : Date) : Nat × Nat × Nat :=
  (d.yearAndDay.1, monthAndDay 1 (monthLengths d.yearAndDay.1) d.yearAndDay.2)

/-! ## Written form -/

/-- The form `YYYY-MM-DD`. -/
def text (d : Date) : String :=
  let (year, month, day) := d.civil
  Text.padded 4 year ++ "-" ++ Text.padded 2 month ++ "-" ++ Text.padded 2 day

/-- The number written by exactly `width` ASCII digits, and what follows them. -/
def readDigits? (width : Nat) (cs : List Char) : Option (Nat × List Char) :=
  let ds := cs.take width
  if ds.length = width ∧ ds.all Char.isDigit then
    some (ds.foldl (fun n c => 10 * n + (c.toNat - 48)) 0, cs.drop width)
  else none

/-- The rest of a text that opens with the given character. -/
def readMark? (mark : Char) : List Char → Option (List Char)
  | c :: rest => if c = mark then some rest else none
  | [] => none

/-- A date in the form `YYYY-MM-DD` and what follows it. -/
def read? (cs : List Char) : Option (Date × List Char) := do
  let (year, cs) ← readDigits? 4 cs
  let (month, cs) ← readDigits? 2 (← readMark? '-' cs)
  let (day, cs) ← readDigits? 2 (← readMark? '-' cs)
  return (← ofCivil? year month day, cs)

/-- The date that a text of the form `YYYY-MM-DD` writes. -/
def ofText? (s : String) : Option Date :=
  match read? s.toList with
  | some (d, []) => some d
  | _ => none

end Date

end SlotBooking
