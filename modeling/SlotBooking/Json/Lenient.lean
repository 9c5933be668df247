import SlotBooking.Json.Reader

/-!
# Lenient reading

Payloads of collaborators, cached snapshots and web requests are read leniently: a value of another
type is taken where it has one obvious meaning.

* `intOfText?`, `floatOfText?`, `boolOfText?`: numbers and truth values written as text.
* `int?`, `float?`, `bool?`, `text?`: the same from documents. An integer may come as a number
  without fraction or as a truth value; a text only as a string.
* `required`, `defaulted`, `optional`, `list?`: members of objects. `null` is taken only where a
  value may be missing.
-/

namespace SlotBooking.Json.Lenient

/-! ## Texts -/

/-- White space (Unicode property `White_Space`). -/
def isSpace (c : Char) : Bool :=
  let n := c.toNat
  (9 ≤ n && n ≤ 13) || n = 0x20 || n = 0x85 || n = 0xA0 || n = 0x1680 ||
    (0x2000 ≤ n && n ≤ 0x200A) || n = 0x2028 || n = 0x2029 || n = 0x202F || n = 0x205F || n = 0x3000

/-- A text without the white space around it. -/
def trim (cs : List Char) : List Char :=
  ((cs.dropWhile isSpace).reverse.dropWhile isSpace).reverse

/-- Two underscores in a row. -/
def doubled : List Char → Bool
  | '_' :: '_' :: _ => true
  | _ :: cs => doubled cs
  | [] => false

/-- The text without its underscores, which may stand only singly and inside it. -/
def dropUnderscores? (cs : List Char) : Option (List Char) :=
  if cs.head? = some '_' ∨ cs.getLast? = some '_' ∨ doubled cs then none
  else some (cs.filter (· ≠ '_'))

/-- The natural number that a run of at least one ASCII digit writes. -/
def natural? (cs : List Char) : Option Nat :=
  if cs.isEmpty || !cs.all Char.isDigit then none
  else some (cs.foldl (fun n c => 10 * n + (c.toNat - 48)) 0)

/-- The text before a point and at least one zero; a text without point as it is. -/
def dropZeroFraction? (cs : List Char) : Option (List Char) :=
  match cs.dropWhile (· ≠ '.') with
  | [] => some cs
  | _ :: fraction =>
    if !fraction.isEmpty && fraction.all (· = '0') then some (cs.takeWhile (· ≠ '.')) else none

/-- The text without the zeros at its beginning, among which underscores may stand anywhere, but not
after the last zero of all. One zero is left where no other digit follows. -/
def dropLeadingZeros? (cs : List Char) : Option (List Char) :=
  let isPadding c := c = '0' || c = '_'
  match cs with
  | '0' :: _ =>
    match cs.dropWhile isPadding with
    | c :: rest =>
      if c.isDigit then some (c :: rest)
      else if c = '.' ∧ (cs.takeWhile isPadding).getLast? = some '0' then some ('0' :: c :: rest)
      else none
    | [] => if cs.getLast? = some '0' then some ['0'] else none
  | c :: _ => if c.isDigit then some cs else none
  | [] => none

/-- The digits of an integer without sign, which may be padded with zeros, have underscores between
digits and end with a fraction of zeros. -/
def integerDigits? (cs : List Char) : Option (List Char) := do
  dropUnderscores? (← dropZeroFraction? (← dropLeadingZeros? cs))

/-- A text without the sign before it, and whether that is a minus. -/
def splitSign : List Char → Bool × List Char
  | '-' :: cs => (true, cs)
  | '+' :: cs => (false, cs)
  | cs => (false, cs)

/-- The integer that a text writes, between optional white space and after an optional sign. Digits
and a minus together may be as many as an integer may have digits. -/
def intOfText? (s : String) : Option Int := do
  let (negative, cs) := splitSign (trim s.toList)
  let ds ← integerDigits? cs
  let n ← natural? ds
  if ds.length + negative.toNat ≤ maxDigits then return if negative then -(n : Int) else n
  else none

/-- The number of a mantissa: digits, a point and digits, with a digit on at least one side; and
how many digits follow the point. -/
def mantissa? (cs : List Char) : Option (Nat × Nat) :=
  let whole := cs.takeWhile (· ≠ '.')
  let fraction := (cs.dropWhile (· ≠ '.')).drop 1
  (natural? (whole ++ fraction)).map (·, fraction.length)

/-- An exponent with an optional sign. -/
def exponent? (cs : List Char) : Option Int :=
  let (negative, cs) := splitSign cs
  (natural? cs).map fun n => if negative then -(n : Int) else n

/-- The number that a text writes after its sign. -/
def unsignedFloat? (negative : Bool) (cs : List Char) : Option Binary64 :=
  let word := String.ofList (cs.map Char.toLower)
  if word = "inf" ∨ word = "infinity" then some (.infinity negative)
  else if word = "nan" then some (.notNumber negative)
  else
    let isMark c := c = 'e' || c = 'E'
    match mantissa? (cs.takeWhile (!isMark ·)), cs.dropWhile (!isMark ·) with
    | some (digits, places), [] => some (.ofDecimal negative digits (-places))
    | some (digits, places), _ :: rest =>
      (exponent? rest).map fun e => .ofDecimal negative digits (e - places)
    | none, _ => none

/-- The number that a text writes, with an optional sign. -/
def signedFloat? (cs : List Char) : Option Binary64 :=
  let (negative, cs) := splitSign cs
  unsignedFloat? negative cs

/-- The number that a text writes, between optional white space, or with underscores inside it. -/
def floatOfText? (s : String) : Option Binary64 :=
  (signedFloat? (trim s.toList)).or ((dropUnderscores? s.toList).bind signedFloat?)

/-- The truth value that a word stands for, in any case. -/
def boolOfText? (s : String) : Option Bool :=
  let word := String.ofList (s.toList.map Char.toLower)
  if ["1", "on", "t", "true", "y", "yes"].contains word then some true
  else if ["0", "off", "f", "false", "n", "no"].contains word then some false
  else none

/-! ## Documents -/

/-- The integer that a binary64 number equals, strictly between the 64-bit bounds. -/
def intOfFloat? (x : Binary64) : Option Int :=
  match x.toInt? with
  | some n => if -0x8000000000000000 < n ∧ n < 0x8000000000000000 then some n else none
  | none => none

/-- The binary64 number nearest to an integer, unless that is infinite. -/
def floatOfInt? (n : Int) : Option Binary64 :=
  let x := Binary64.ofInt n
  if x.IsFinite then some x else none

/-- The string in a document. -/
def string? : Json → Option String
  | str t => t.toString?
  | _ => none

/-- An integer. -/
def int? : Json → Option Int
  | int n => some n
  | float x => intOfFloat? x
  | bool b => some (if b then 1 else 0)
  | j => (string? j).bind intOfText?

/-- A binary64 number. -/
def float? : Json → Option Binary64
  | float x => some x
  | int n => floatOfInt? n
  | bool b => some (.ofInt (if b then 1 else 0))
  | j => (string? j).bind floatOfText?

/-- A binary64 number, infinite for an integer that is beyond all finite ones. -/
def extendedFloat? : Json → Option Binary64
  | int n => some (.ofInt n)
  | j => float? j

/-- A truth value; the numbers 0 and 1 count as such. -/
def bool? : Json → Option Bool
  | bool b => some b
  | int n => if n = 0 then some false else if n = 1 then some true else none
  | float x =>
    match x.toInt? with
    | some 0 => some false
    | some 1 => some true
    | _ => none
  | j => (string? j).bind boolOfText?

/-- A text. -/
def text? : Json → Option Text
  | str t => some t
  | _ => none

/-! ## Members -/

/-- A member that has to be there. -/
def required {α : Type} (j : Json) (name : String) (read? : Json → Option α) : Option α :=
  (j.member? name).bind read?

/-- A member that stands for `default` where it is not there. -/
def defaulted {α : Type} (j : Json) (name : String) (default : α) (read? : Json → Option α) :
    Option α :=
  match j.member? name with
  | none => some default
  | some v => read? v

/-- A value, or `null`. -/
def nullable {α : Type} (read? : Json → Option α) : Json → Option (Option α)
  | null => some none
  | v => (read? v).map some

/-- A member that may be missing or `null`. -/
def optional {α : Type} (j : Json) (name : String) (read? : Json → Option α) :
    Option (Option α) :=
  defaulted j name none (nullable read?)

/-- The items of an array, each read in the same way. -/
def list? {α : Type} (read? : Json → Option α) (j : Json) : Option (List α) :=
  j.items?.bind fun items => items.mapM read?

end SlotBooking.Json.Lenient
