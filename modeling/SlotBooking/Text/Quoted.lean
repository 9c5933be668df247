import SlotBooking.Text.Basic
import SlotBooking.Text.Printable

/-!
# Quoted texts

Messages show an offending text between quotation marks, escaped so that it can be read back and
stays on one line.

* `quoteMark`: the single mark, unless the text holds a single mark and no double one.
* `escape`: a backslash before a backslash and before the mark in use, `\n`, `\r` and `\t` for line
  feed, carriage return and tab, and the code of any other unprintable character and of a lone
  surrogate in two, four or eight hexadecimal digits.
* `quoted`: the escaped text between its marks.
-/

namespace SlotBooking.Text

/-- One lower-case hexadecimal digit. -/
def hexDigit (n : Nat) : Char :=
  if n < 10 then Char.ofNat (48 + n) else Char.ofNat (87 + n)

/-- The last `width` hexadecimal digits of `n`, leading zeros included. -/
def hexDigits : (width : Nat) → (n : Nat) → List Char
  | 0, _ => []
  | width + 1, n => hexDigits width (n / 16) ++ [hexDigit (n % 16)]

@[simp] theorem length_hexDigits (width n : Nat) : (hexDigits width n).length = width := by
  induction width generalizing n with
  | zero => rfl
  | succ width ih => simp [hexDigits, ih]

/-- The mark that needs the fewest escapes. -/
def quoteMark (t : Text) : Char :=
  if t.symbols.contains (.char '\'') && !t.symbols.contains (.char '"') then '"' else '\''

/-- A code in the fewest hexadecimal digits of two, four and eight. -/
def escapeCode (n : Nat) : List Char :=
  if n < 0x100 then ['\\', 'x'] ++ hexDigits 2 n
  else if n < 0x10000 then ['\\', 'u'] ++ hexDigits 4 n
  else ['\\', 'U'] ++ hexDigits 8 n

/-- The written form of one symbol between quotation marks `mark`. -/
def escape (mark : Char) : Symbol → List Char
  | .char c =>
    if c = '\\' ∨ c = mark then ['\\', c]
    else if c = '\n' then ['\\', 'n']
    else if c = '\r' then ['\\', 'r']
    else if c = '\t' then ['\\', 't']
    else if isPrintable c then [c]
    else escapeCode c.toNat
  | .lone half => escapeCode (Symbol.lone half).code

/-- A text as messages quote it. -/
def quoted (t : Text) : String :=
  let mark := quoteMark t
  String.ofList (mark :: t.symbols.flatMap (escape mark) ++ [mark])

/-- What a message says of a text that cannot be encoded: the surrogate and its position, or the
first and the last position of several. -/
def Unencodable.message (u : Unencodable) : String :=
  let what := match u.run with
    | [half] =>
      "character '" ++ String.ofList (escapeCode (Symbol.lone half).code) ++ "' in position "
        ++ toString u.position
    | run =>
      "characters in position " ++ toString u.position ++ "-"
        ++ toString (u.position + run.length - 1)
  "'utf-8' codec can't encode " ++ what ++ ": surrogates not allowed"

end SlotBooking.Text
