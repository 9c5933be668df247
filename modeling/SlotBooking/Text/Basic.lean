/-!
# Texts

A text is a sequence of characters, among which surrogates may stand that are not half of a pair:
JSON can escape such a surrogate on its own. A text that holds none is a `String`, and only such a
text can be encoded, so only such a text can be stored or sent.

* `Text.ofString`, `Text.toString?`: strings are the texts without lone surrogates.
* `Text.unencodable?`: the first run of lone surrogates.
-/

namespace SlotBooking

/-- One place of a text. -/
inductive Symbol where
  | char (c : Char)
  /-- The surrogate `0xD800 + half`, which is not half of a pair. -/
  | lone (half : Fin 2048)
deriving DecidableEq, Inhabited

namespace Symbol

/-- The character at a place that holds one. -/
def toChar? : Symbol → Option Char
  | char c => some c
  | lone _ => none

/-- The number of a character or of a surrogate. -/
def code : Symbol → Nat
  | char c => c.toNat
  | lone half => 0xD800 + half

/-- The symbol of a number below `0x110000`. -/
def ofCode? (n : Nat) : Option Symbol :=
  if h : 0xD800 ≤ n ∧ n < 0xE000 then some (lone ⟨n - 0xD800, by omega⟩)
  else if n < 0x110000 then some (char (Char.ofNat n))
  else none

/-- The character of a surrogate pair. -/
def ofPair? (high low : Nat) : Option Char :=
  if 0xD800 ≤ high ∧ high < 0xDC00 ∧ 0xDC00 ≤ low ∧ low < 0xE000 then
    some (Char.ofNat (0x10000 + (high - 0xD800) * 0x400 + (low - 0xDC00)))
  else none

end Symbol

/-- A sequence of characters and lone surrogates. -/
structure Text where
  symbols : List Symbol
deriving DecidableEq, Inhabited

namespace Text

/-- The text of a string. -/
def ofString (s : String) : Text := ⟨s.toList.map .char⟩

instance : Coe String Text := ⟨ofString⟩

/-- The string that a text is, unless it holds a lone surrogate. -/
def toString? (t : Text) : Option String := (t.symbols.mapM Symbol.toChar?).map String.ofList

/-- Nothing is in the text. -/
def isEmpty (t : Text) : Bool := t.symbols.isEmpty

theorem mapM_toChar?_eq_some {symbols : List Symbol} {cs : List Char} :
    symbols.mapM Symbol.toChar? = some cs ↔ symbols = cs.map .char := by
  induction symbols generalizing cs with
  | nil => cases cs <;> simp
  | cons symbol rest ih =>
    cases symbol with
    | lone half => cases cs <;> simp [List.mapM_cons, Symbol.toChar?]
    | char c =>
      cases cs <;>
        simp [List.mapM_cons, Symbol.toChar?, Option.bind_eq_some_iff, ih, and_comm, and_assoc]

/-- The texts that are strings. -/
theorem toString?_eq_some {t : Text} {s : String} : t.toString? = some s ↔ t = ofString s := by
  obtain ⟨symbols⟩ := t
  simp only [toString?, ofString, Option.map_eq_some_iff, mapM_toChar?_eq_some, Text.mk.injEq]
  constructor
  · rintro ⟨cs, h, rfl⟩
    rw [h, String.toList_ofList]
  · intro h
    exact ⟨s.toList, h, String.ofList_toList⟩

@[simp] theorem toString?_ofString (s : String) : (ofString s).toString? = some s :=
  toString?_eq_some.mpr rfl

theorem ofString_injective {s t : String} (h : ofString s = ofString t) : s = t := by
  have := congrArg toString? h
  simpa using this

/-! ## Encoding -/

/-- Why a text cannot be encoded: a run of lone surrogates from a position on. -/
structure Unencodable where
  position : Nat
  run : List (Fin 2048)
deriving DecidableEq

/-- The lone surrogates with which a text opens. -/
def loneRun : List Symbol → List (Fin 2048)
  | .lone half :: rest => half :: loneRun rest
  | _ => []

/-- The first run of lone surrogates, in a text that goes on from a position. -/
def firstRun? (position : Nat) : List Symbol → Option Unencodable
  | [] => none
  | .char _ :: rest => firstRun? (position + 1) rest
  | .lone half :: rest => some ⟨position, half :: loneRun rest⟩

/-- The first run of lone surrogates. -/
def unencodable? (t : Text) : Option Unencodable := firstRun? 0 t.symbols

theorem firstRun?_eq_none_iff (position : Nat) (symbols : List Symbol) :
    firstRun? position symbols = none ↔ ∃ cs : List Char, symbols = cs.map .char := by
  induction symbols generalizing position with
  | nil => exact iff_of_true rfl ⟨[], rfl⟩
  | cons symbol rest ih =>
    cases symbol with
    | char c =>
      rw [firstRun?, ih]
      constructor
      · rintro ⟨cs, rfl⟩
        exact ⟨c :: cs, rfl⟩
      · rintro ⟨_ | ⟨d, cs⟩, h⟩
        · simp at h
        · simp only [List.map_cons, List.cons.injEq] at h
          exact ⟨cs, h.2⟩
    | lone half =>
      refine iff_of_false (by simp [firstRun?]) ?_
      rintro ⟨_ | ⟨d, cs⟩, h⟩
      · simp at h
      · simp at h

/-- A text can be encoded exactly if it is a string. -/
theorem unencodable?_eq_none_iff {t : Text} : t.unencodable? = none ↔ ∃ s, t = ofString s := by
  rw [unencodable?, firstRun?_eq_none_iff]
  constructor
  · rintro ⟨cs, h⟩
    exact ⟨String.ofList cs, by cases t; simp_all [ofString]⟩
  · rintro ⟨s, rfl⟩
    exact ⟨s.toList, rfl⟩

end Text

end SlotBooking
